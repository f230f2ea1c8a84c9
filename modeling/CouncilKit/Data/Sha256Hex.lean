import Mathlib
import CouncilKit.Data.Sha256
import CouncilKit.Data.Utf8Encode

namespace CouncilKit.Data

open Nat

/-! `sha256Hex`, written without `node:crypto`: numbers are exact integers, and the bitwise
operators read 32 bits of them and give a signed number, `>>>` an unsigned one.
-/

namespace Sha256Hex

open Sha256 List Utf8

variable (value : Int)

def bits : Word := BitVec.ofInt 32 value

def unsigned (word : Word) : Int := word.toNat

def ushr (count : Nat) : Int := unsigned (bits value >>> count)

def shl (count : Nat) : Int := (bits value <<< count).toInt

variable (left right : Int)

def bitOr : Int := (bits left ||| bits right).toInt

def bitXor : Int := (bits left ^^^ bits right).toInt

def bitAnd : Int := (bits left &&& bits right).toInt

def bitNot : Int := (~~~bits value).toInt

def SHA256_K : List Int := [
  0x428a2f98, 0x71374491, 0xb5c0fbcf, 0xe9b5dba5, 0x3956c25b, 0x59f111f1, 0x923f82a4, 0xab1c5ed5,
  0xd807aa98, 0x12835b01, 0x243185be, 0x550c7dc3, 0x72be5d74, 0x80deb1fe, 0x9bdc06a7, 0xc19bf174,
  0xe49b69c1, 0xefbe4786, 0x0fc19dc6, 0x240ca1cc, 0x2de92c6f, 0x4a7484aa, 0x5cb0a9dc, 0x76f988da,
  0x983e5152, 0xa831c66d, 0xb00327c8, 0xbf597fc7, 0xc6e00bf3, 0xd5a79147, 0x06ca6351, 0x14292967,
  0x27b70a85, 0x2e1b2138, 0x4d2c6dfc, 0x53380d13, 0x650a7354, 0x766a0abb, 0x81c2c92e, 0x92722c85,
  0xa2bfe8a1, 0xa81a664b, 0xc24b8b70, 0xc76c51a3, 0xd192e819, 0xd6990624, 0xf40e3585, 0x106aa070,
  0x19a4c116, 0x1e376c08, 0x2748774c, 0x34b0bcb5, 0x391c0cb3, 0x4ed8aa4a, 0x5b9cca4f, 0x682e6ff3,
  0x748f82ee, 0x78a5636f, 0x84c87814, 0x8cc70208, 0x90befffa, 0xa4506ceb, 0xbef9a3f7, 0xc67178f2]

def rotr (count : Nat) : Int := bitOr (ushr value count) (shl value (32 - count))

/-- `buffer.set(bytes, offset)` -/
def write (buffer : List UInt8) (offset : Nat) (bytes : List UInt8) : List UInt8 :=
  buffer.take offset ++ bytes ++ buffer.drop (offset + bytes.length)

def setUint32 (view : List UInt8) (offset : Int) (value : Int) : List UInt8 :=
  write view offset.toNat (bigEndianBytes 4 (bits value).toNat)

def getUint32 (view : List UInt8) (offset : Nat) : Int :=
  bigEndian ((view.drop offset).take 4)

/-- `w[t] = value` in a `Uint32Array` -/
def store (w : List Int) (t : Nat) (value : Int) : List Int := w.set t (ushr value 0)

def extendWord (w : List Int) (t : Nat) : Int :=
  let w15 := w.getD (t - 15) 0
  let w2 := w.getD (t - 2) 0
  let s0 := bitXor (bitXor (rotr w15 7) (rotr w15 18)) (ushr w15 3)
  let s1 := bitXor (bitXor (rotr w2 17) (rotr w2 19)) (ushr w2 10)
  ushr (w.getD (t - 16) 0 + s0 + w.getD (t - 7) 0 + s1) 0

def step (w : List Int) (s : Eight Int) (t : Nat) : Eight Int :=
  let s1 := bitXor (bitXor (rotr s.e 6) (rotr s.e 11)) (rotr s.e 25)
  let ch := bitXor (bitAnd s.e s.f) (bitAnd (bitNot s.e) s.g)
  let temp1 := ushr (s.h + s1 + ch + SHA256_K.getD t 0 + w.getD t 0) 0
  let s0 := bitXor (bitXor (rotr s.a 2) (rotr s.a 13)) (rotr s.a 22)
  let maj := bitXor (bitXor (bitAnd s.a s.b) (bitAnd s.a s.c)) (bitAnd s.b s.c)
  let temp2 := ushr (s0 + maj) 0
  ⟨ushr (temp1 + temp2) 0, s.a, s.b, s.c, ushr (s.d + temp1) 0, s.e, s.f, s.g⟩

def loadWords (padded : List UInt8) (offset : Nat) (w : List Int) : List Int :=
  let loaded := (List.range' 0 16).foldl
    (fun w t => store w t (getUint32 padded (offset + t * 4))) w
  (List.range' 16 48).foldl (fun w t => store w t (extendWord w t)) loaded

/-- One turn of the loop through the blocks; `w` is allocated once. -/
def block (padded : List UInt8) (state : Eight Int × List Int) (offset : Nat) : Eight Int × List Int :=
  let w := loadWords padded offset state.2
  let s := (List.range 64).foldl (step w) state.1
  (state.1.zipWith (fun h a => ushr (h + a) 0) s, w)

def initial : Eight Int :=
  ⟨0x6a09e667, 0xbb67ae85, 0x3c6ef372, 0xa54ff53a, 0x510e527f, 0x9b05688c, 0x1f83d9ab, 0x5be0cd19⟩

def paddedBytes (msg : List UInt8) : List UInt8 :=
  let bitLen : Int := msg.length * 8
  let padLen := bitAnd (msg.length + 9 + 63) (bitNot 63)
  let padded := (write (List.replicate padLen.toNat 0) 0 msg).set msg.length 0x80
  setUint32 (setUint32 padded (padLen - 8) (bitLen / 0x100000000)) (padLen - 4) (ushr bitLen 0)

def hexText (value : Nat) : JsString :=
  if value < 16 then [Json.hexDigit value]
  else hexText (value / 16) ++ [Json.hexDigit (value % 16)]

/-- `n.toString(16)` -/
def toString16 : Int → JsString
  | .ofNat value => hexText value
  | .negSucc value => 0x2D :: hexText (value + 1)

def padStart (text : JsString) (width : Nat) (fill : CodeUnit) : JsString :=
  List.replicate (width - text.length) fill ++ text

def sha256Hex (text : JsString) : JsString :=
  let padded := paddedBytes (encode text)
  let offsets := (List.range ((padded.length + 63) / 64)).map (64 * ·)
  let h := (offsets.foldl (block padded) (initial, List.replicate 64 0)).1
  h.toList.flatMap fun n => padStart (toString16 n) 8 0x30

@[simp] theorem bits_unsigned (word : Word) : bits (unsigned word) = word := by
  simp [bits, unsigned]

@[simp] theorem bits_ushr (count : Nat) :
    bits (ushr value count) = bits value >>> count := bits_unsigned _

@[simp] theorem bits_shl (count : Nat) :
    bits (shl value count) = bits value <<< count := BitVec.ofInt_toInt

@[simp] theorem bits_bitOr :
    bits (bitOr left right) = bits left ||| bits right := BitVec.ofInt_toInt

@[simp] theorem bits_bitXor :
    bits (bitXor left right) = bits left ^^^ bits right := BitVec.ofInt_toInt

@[simp] theorem bits_bitAnd :
    bits (bitAnd left right) = bits left &&& bits right := BitVec.ofInt_toInt

@[simp] theorem bits_bitNot : bits (bitNot value) = ~~~bits value := BitVec.ofInt_toInt

@[simp] theorem bits_add : bits (left + right) = bits left + bits right :=
  BitVec.ofInt_add left right

theorem bits_rotr {count : Nat} (less : count < 32) :
    bits (rotr value count) = (bits value).rotateRight count := by
  rw [rotr, bits_bitOr, bits_ushr, bits_shl, BitVec.rotateRight_def, mod_eq_of_lt less]

theorem ushr_zero : ushr value 0 = unsigned (bits value) := by
  rw [ushr, BitVec.ushiftRight_zero]

theorem getD_bits (w : List Int) (t : Nat) : (w.map bits).getD t 0 = bits (w.getD t 0) :=
  getD_map w 0 bits

theorem bits_SHA256_K (t : Nat) : bits (SHA256_K.getD t 0) = K.getD t 0 := by
  have table : SHA256_K.map bits = K := by decide +kernel
  rw [← table, getD_bits]

theorem initial_eq : initial = H0.map unsigned := by
  have words : initial.toList = (H0.map unsigned).toList := by decide +kernel
  simp only [Eight.toList, List.cons.injEq, and_true] at words
  obtain ⟨a, b, c, d, e, f, g, h⟩ := words
  cases named : initial
  cases named' : H0.map unsigned
  simp_all

theorem step_eq (w : List Int) (s : Eight Word) (t : Nat) :
    step w (s.map unsigned) t = (round (w.map bits) s t).map unsigned := by
  simp only [step, Sha256.round, Eight.map, ushr_zero, bits_add, bits_bitXor, bits_bitAnd, bits_bitNot,
    bits_unsigned, bits_SHA256_K, getD_bits, bits_rotr, reduceLT, bigSigma0, bigSigma1, Ch, Maj]

theorem filled {value : List Int → Nat → Int} {next : List Word → Nat → List Word}
    {count start : Nat} (agrees : ∀ w t, start ≤ t → t < start + count →
      next ((w.take t).map bits) t = (w.take t).map bits ++ [bits (value w t)])
    (w : List Int) (room : start + count ≤ w.length) :
    let done := (List.range' start count).foldl (fun w t => store w t (value w t)) w
    done.length = w.length ∧ (done.take (start + count)).map bits =
      (List.range' start count).foldl next ((w.take start).map bits) := by
  induction count generalizing start w with
  | zero => exact ⟨rfl, rfl⟩
  | succ count ih =>
    have here : start < w.length := by omega
    have length : (store w start (value w start)).length = w.length := length_set
    have stored : (store w start (value w start)).take (start + 1) =
        w.take start ++ [ushr (value w start) 0] := by
      rw [store, take_add_one, take_set_of_le (le_refl _),
        List.getElem?_set_self here]
      rfl
    have rest := @ih (start + 1) (fun w t least most => agrees w t (by omega) (by omega))
      (store w start (value w start)) (by rw [length]; omega)
    have count_eq : start + 1 + count = start + (count + 1) := by omega
    rw [length, count_eq, stored] at rest
    simp only [map_append, map_cons, map_nil, bits_ushr,
      BitVec.ushiftRight_zero, ← agrees w start (le_refl _) (by omega)] at rest
    rw [range'_succ, foldl_cons, foldl_cons]
    exact rest

variable {w : List Int}

theorem getD_take {index stop : Nat} (below : index < stop) :
    ((w.take stop).map bits).getD index 0 = bits (w.getD index 0) := by
  rw [getD_bits, getD_eq_getElem?_getD, List.getElem?_take, if_pos below,
    ← getD_eq_getElem?_getD]

theorem extendWord_eq {padded : List UInt8} {index : Nat} (w : List Int) {t : Nat} (late : ¬ t < 16) :
    extend padded index ((w.take t).map bits) t = (w.take t).map bits ++ [bits (extendWord w t)] := by
  rw [extend, if_neg late, getD_take (by omega), getD_take (by omega), getD_take (by omega),
    getD_take (by omega)]
  simp only [extendWord, bits_ushr, bits_add, bits_bitXor, bits_rotr, reduceLT,
    BitVec.ushiftRight_zero, smallSigma0, smallSigma1]
  ac_rfl

theorem getUint32_eq (padded : List UInt8) (index t : Nat) :
    bits (getUint32 padded (64 * index + t * 4)) = word padded index t := by
  rw [getUint32, word, mul_comm t 4, bits, BitVec.ofInt_natCast]

theorem loadWords_eq (padded : List UInt8) (length : w.length = 64) (index : Nat) :
    (loadWords padded (64 * index) w).length = 64 ∧
      (loadWords padded (64 * index) w).map bits = schedule padded index := by
  obtain ⟨early, first⟩ := @filled (fun _ t => getUint32 padded (64 * index + t * 4))
    (extend padded index) 16 0 (fun w t _ less => by
      rw [extend, if_pos (by omega), getUint32_eq]) w (by omega)
  obtain ⟨late, second⟩ := @filled extendWord (extend padded index) 48 16
    (fun w t least _ => extendWord_eq w (by omega)) _ (by rw [early, length])
  rw [early, length] at late
  rw [take_of_length_le (by rw [late]), first, ← foldl_append, take_zero,
    map_nil] at second
  have turns : List.range' 0 16 ++ List.range' 16 48 = List.range 64 := by decide
  rw [turns] at second
  exact ⟨late, second⟩

theorem block_eq (padded : List UInt8) (H : Eight Word) (length : w.length = 64)
    (index : Nat) :
    (block padded (H.map unsigned, w) (64 * index)).1 = (compress padded H index).map unsigned ∧
      (block padded (H.map unsigned, w) (64 * index)).2.length = 64 := by
  obtain ⟨kept, words⟩ := loadWords_eq padded length index
  have rounds : (List.range 64).foldl (step (loadWords padded (64 * index) w)) (H.map unsigned) =
      ((List.range 64).foldl (round (schedule padded index)) H).map unsigned := by
    rw [← words]
    exact foldl_hom (Eight.map unsigned) (step_eq _)
  simp only [block, compress, rounds, kept, and_true]
  simp only [Eight.zipWith, Eight.map, ushr_zero, bits_add, bits_unsigned, BitVec.add_comm]

theorem write_between {front middle back bytes : List UInt8} {offset : Nat}
    (place : front.length = offset) (width : middle.length = bytes.length) :
    write (front ++ (middle ++ back)) offset bytes = front ++ (bytes ++ back) := by
  have after : (front ++ (middle ++ back)).drop (offset + bytes.length) = back := by
    rw [← place, ← width, ← length_append, ← append_assoc]
    exact drop_left
  rw [write, after, ← place, take_left, append_assoc]

theorem bitAnd_blocks {value : Nat} (small : value < 2 ^ 31) :
    bitAnd value (bitNot 63) = ((value / 64 * 64 : Nat) : Int) := by
  have cleared : (BitVec.ofNat 32 value &&& ~~~(63 : Word)) = BitVec.ofNat 32 value >>> 6 <<< 6 := by
    apply BitVec.eq_of_getLsbD_eq
    intro index below
    have mask : ∀ index < 32, (~~~(63 : Word)).getLsbD index = decide (6 ≤ index) := by decide
    rw [BitVec.getLsbD_and, mask index below, BitVec.getLsbD_shiftLeft, BitVec.getLsbD_ushiftRight]
    by_cases high : 6 ≤ index
    · simp [high, below, not_lt.mpr high]
    · simp [high, Nat.lt_of_not_le high]
  have nat : (BitVec.ofNat 32 value >>> 6 <<< 6).toNat = value / 64 * 64 := by
    rw [BitVec.toNat_shiftLeft, BitVec.toNat_ushiftRight, BitVec.toNat_ofNat,
      shiftRight_eq_div_pow, shiftLeft_eq]
    omega
  have read : bits (value : Int) = BitVec.ofNat 32 value := BitVec.ofInt_natCast 32 value
  have mask : bits (63 : Int) = (63 : Word) := rfl
  rw [bitAnd, bits_bitNot, read, mask, cleared, BitVec.toInt_eq_toNat_of_lt, nat]
  rw [nat]
  omega

theorem paddedBytes_eq {msg : List UInt8} (short : msg.length < 2 ^ 29) : paddedBytes msg = pad msg := by
  obtain ⟨zeros, known⟩ : ∃ zeros, zeros = (119 - msg.length % 64) % 64 := ⟨_, rfl⟩
  have total : (msg.length + 72) / 64 * 64 = msg.length + (1 + (zeros + 8)) := by omega
  have padLen : bitAnd (msg.length + 9 + 63) (bitNot 63) =
      ((msg.length + (1 + (zeros + 8)) : Nat) : Int) := by
    rw [← total, ← bitAnd_blocks (by omega)]
    congr 1
  have bitLen : (msg.length : Int) * 8 = ((8 * msg.length : Nat) : Int) := by omega
  have upper : (msg.length : Int) * 8 / 0x100000000 = 0 := by omega
  have lower : (bits (ushr ((msg.length : Int) * 8) 0)).toNat = 8 * msg.length := by
    rw [bits_ushr, BitVec.ushiftRight_zero, bitLen, bits, BitVec.ofInt_natCast, BitVec.toNat_ofNat]
    omega
  have blank : List.replicate (msg.length + (1 + (zeros + 8))) (0 : UInt8) =
      [] ++ (List.replicate msg.length 0 ++ (0 :: (List.replicate zeros 0 ++
        (List.replicate 4 0 ++ List.replicate 4 0)))) := by
    rw [replicate_append_replicate, replicate_append_replicate, ← replicate_succ,
      nil_append, replicate_append_replicate]
    congr 1
    omega
  have copied : write (List.replicate (msg.length + (1 + (zeros + 8))) 0) 0 msg =
      msg ++ 0 :: (List.replicate zeros 0 ++ (List.replicate 4 0 ++ List.replicate 4 0)) := by
    rw [blank]
    exact write_between rfl length_replicate
  have marked : (msg ++ 0 :: (List.replicate zeros (0 : UInt8) ++
      (List.replicate 4 0 ++ List.replicate 4 0))).set msg.length 0x80 =
      (msg ++ 0x80 :: List.replicate zeros 0) ++ (List.replicate 4 0 ++ List.replicate 4 0) := by
    rw [set_append_right _ _ (Nat.le_refl _), Nat.sub_self]
    simp
  have front : (msg ++ 0x80 :: List.replicate zeros (0 : UInt8)).length = msg.length + 1 + zeros := by
    rw [length_append, length_cons, length_replicate]
    omega
  have high : (((msg.length + (1 + (zeros + 8)) : Nat) : Int) - 8).toNat = msg.length + 1 + zeros := by
    omega
  have low : (((msg.length + (1 + (zeros + 8)) : Nat) : Int) - 4).toNat =
      (msg ++ 0x80 :: List.replicate zeros (0 : UInt8) ++ bigEndianBytes 4 0).length := by
    rw [length_append, front, length_bigEndianBytes]
    omega
  simp only [paddedBytes, padLen, Int.toNat_natCast]
  rw [copied, marked, upper, setUint32, setUint32, lower, high, low,
    write_between front (by rw [length_replicate, length_bigEndianBytes])]
  have zero : (bits 0).toNat = 0 := rfl
  have last := @write_between (msg ++ 0x80 :: List.replicate zeros 0 ++ bigEndianBytes 4 0)
    (List.replicate 4 0) [] (bigEndianBytes 4 (8 * msg.length)) _ rfl
    (by rw [length_bigEndianBytes, length_replicate])
  rw [append_nil, append_nil, append_assoc] at last
  rw [zero, last, pad, ← known, bigEndianBytes_halves (by omega), bigEndianBytes_zero]
  simp only [append_assoc, cons_append]

theorem hexDigit_zero : Json.hexDigit 0 = 0x30 := rfl

theorem hexDigits_zero (width : Nat) : hexDigits width 0 = List.replicate width 0x30 := by
  induction width with
  | zero => rfl
  | succ width ih =>
    rw [hexDigits, Nat.zero_div, ih, Nat.zero_mod, hexDigit_zero, replicate_succ']

theorem padStart_hexText {width value : Nat} (small : value < 16 ^ (width + 1)) :
    (hexText value).length ≤ width + 1 ∧
      padStart (hexText value) (width + 1) 0x30 = hexDigits (width + 1) value := by
  induction width generalizing value with
  | zero =>
    have digit : value < 16 := by simpa using small
    rw [hexText, if_pos digit]
    exact ⟨le_refl _, by rw [hexDigits, mod_eq_of_lt digit]; rfl⟩
  | succ width ih =>
    rw [hexText, hexDigits]
    split
    · rename_i digit
      refine ⟨by simp, ?_⟩
      rw [div_eq_of_lt digit, hexDigits_zero, mod_eq_of_lt digit]
      rfl
    · have less : value / 16 < 16 ^ (width + 1) := by
        rw [div_lt_iff_lt_mul (by omega), ← pow_succ]
        exact small
      obtain ⟨short, same⟩ := ih less
      rw [length_append, length_singleton]
      refine ⟨by omega, ?_⟩
      rw [← same, padStart, padStart, length_append, length_singleton, Nat.add_sub_add_right, append_assoc]

theorem padStart_toString16 (word : Word) :
    padStart (toString16 (unsigned word)) 8 0x30 = hexDigits 8 word.toNat :=
  (padStart_hexText word.isLt).2

theorem blocks_eq (padded : List UInt8) (blocks : List Nat) (H : Eight Word)
    (length : w.length = 64) :
    ((blocks.map (64 * ·)).foldl (block padded) (H.map unsigned, w)).1 =
      (blocks.foldl (compress padded) H).map unsigned := by
  induction blocks generalizing H w with
  | nil => rfl
  | cons index rest ih =>
    obtain ⟨hashed, kept⟩ := block_eq padded H length index
    cases found : block padded (H.map unsigned, w) (64 * index) with
    | mk h next =>
      rw [found] at hashed kept
      rw [map_cons, foldl_cons, foldl_cons, found]
      cases hashed
      exact ih _ kept

theorem sha256Hex_hex (text : JsString) (short : (encode text).length < 2 ^ 29) :
    sha256Hex text = hex (encode text) := by
  have whole : ((pad (encode text)).length + 63) / 64 = (pad (encode text)).length / 64 := by
    rw [length_pad]
    omega
  have hashed := blocks_eq (pad (encode text)) (List.range ((pad (encode text)).length / 64))
    H0 (length_replicate (a := 0))
  rw [sha256Hex, hex, Sha256.hash, paddedBytes_eq short, initial_eq]
  simp only [whole, hashed]
  simp only [Eight.map, Eight.toList, flatMap_cons, flatMap_nil, padStart_toString16]

theorem sha256Hex_abc : (encode (js "abc")).length < 2 ^ 29 ∧
    sha256Hex (js "abc") = hex (encode (js "abc")) :=
  ⟨by decide, sha256Hex_hex (js "abc") (by decide)⟩

end Sha256Hex

end CouncilKit.Data
