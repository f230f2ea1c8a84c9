import Mathlib
import CouncilKit.Data.Json

namespace CouncilKit.Data.Sha256

open List

/-! SHA-256 as FIPS 180-4 defines it, on a message of whole bytes.
-/

abbrev Word := BitVec 32

def Ch (x y z : Word) : Word := (x &&& y) ^^^ (~~~x &&& z)

def Maj (x y z : Word) : Word := (x &&& y) ^^^ (x &&& z) ^^^ (y &&& z)

def bigSigma0 (x : Word) : Word := x.rotateRight 2 ^^^ x.rotateRight 13 ^^^ x.rotateRight 22

def bigSigma1 (x : Word) : Word := x.rotateRight 6 ^^^ x.rotateRight 11 ^^^ x.rotateRight 25

def smallSigma0 (x : Word) : Word := x.rotateRight 7 ^^^ x.rotateRight 18 ^^^ x >>> 3

def smallSigma1 (x : Word) : Word := x.rotateRight 17 ^^^ x.rotateRight 19 ^^^ x >>> 10

/-- The integer root of a number below `2 ^ (40 * power)`, from its highest bit down. -/
def root (power value : Nat) : Nat :=
  (range 40).foldr
    (fun bit low => if (low + 2 ^ bit) ^ power ≤ value then low + 2 ^ bit else low) 0

def primes : List Nat :=
  [2, 3, 5, 7, 11, 13, 17, 19, 23, 29, 31, 37, 41, 43, 47, 53, 59, 61, 67, 71, 73, 79, 83, 89, 97,
    101, 103, 107, 109, 113, 127, 131, 137, 139, 149, 151, 157, 163, 167, 173, 179, 181, 191, 193,
    197, 199, 211, 223, 227, 229, 233, 239, 241, 251, 257, 263, 269, 271, 277, 281, 283, 293, 307,
    311]

/-- The first 32 bits of the fractional parts of the cube roots of the primes. -/
def K : List Word := primes.map fun prime => BitVec.ofNat 32 (root 3 (prime * 2 ^ 96))

/-- The eight words of a hash value, or the working variables. -/
structure Eight (α : Type) where
  a : α
  b : α
  c : α
  d : α
  e : α
  f : α
  g : α
  h : α

namespace Eight

variable {α β γ : Type}

def map (f : α → β) (s : Eight α) : Eight β :=
  ⟨f s.a, f s.b, f s.c, f s.d, f s.e, f s.f, f s.g, f s.h⟩

def zipWith (f : α → β → γ) (s : Eight α) (t : Eight β) : Eight γ :=
  ⟨f s.a t.a, f s.b t.b, f s.c t.c, f s.d t.d, f s.e t.e, f s.f t.f, f s.g t.g, f s.h t.h⟩

def toList (s : Eight α) : List α := [s.a, s.b, s.c, s.d, s.e, s.f, s.g, s.h]

end Eight

/-- The first 32 bits of the fractional parts of the square roots of the first eight primes. -/
def H0 : Eight Word :=
  Eight.map (fun prime => BitVec.ofNat 32 (root 2 (prime * 2 ^ 64))) ⟨2, 3, 5, 7, 11, 13, 17, 19⟩

def bigEndian (bytes : List UInt8) : Nat :=
  bytes.foldl (fun value byte => value * 256 + byte.toNat) 0

def bigEndianBytes : Nat → Nat → List UInt8
  | 0, _ => []
  | width + 1, value => bigEndianBytes width (value / 256) ++ [value.toUInt8]

/-- One bit, the fewest zeros and the length in bits, up to a whole number of blocks. -/
def pad (message : List UInt8) : List UInt8 :=
  message ++ 0x80 :: (replicate ((119 - message.length % 64) % 64) 0 ++
    bigEndianBytes 8 (8 * message.length))

def word (padded : List UInt8) (block t : Nat) : Word :=
  BitVec.ofNat 32 (bigEndian ((padded.drop (64 * block + 4 * t)).take 4))

def extend (padded : List UInt8) (block : Nat) (W : List Word) (t : Nat) : List Word :=
  W ++ [if t < 16 then word padded block t
    else smallSigma1 (W.getD (t - 2) 0) + W.getD (t - 7) 0 + smallSigma0 (W.getD (t - 15) 0) +
      W.getD (t - 16) 0]

def schedule (padded : List UInt8) (block : Nat) : List Word :=
  (range 64).foldl (extend padded block) []

def round (W : List Word) (s : Eight Word) (t : Nat) : Eight Word :=
  let T1 := s.h + bigSigma1 s.e + Ch s.e s.f s.g + K.getD t 0 + W.getD t 0
  let T2 := bigSigma0 s.a + Maj s.a s.b s.c
  ⟨T1 + T2, s.a, s.b, s.c, s.d + T1, s.e, s.f, s.g⟩

def compress (padded : List UInt8) (H : Eight Word) (block : Nat) : Eight Word :=
  ((range 64).foldl (round (schedule padded block)) H).zipWith (· + ·) H

def hash (message : List UInt8) : Eight Word :=
  (range ((pad message).length / 64)).foldl (compress (pad message)) H0

/-- The hexadecimal digits of a number, as many as asked. -/
def hexDigits : Nat → Nat → JsString
  | 0, _ => []
  | width + 1, value => hexDigits width (value / 16) ++ [Json.hexDigit (value % 16)]

def hex (message : List UInt8) : JsString :=
  (hash message).toList.flatMap fun word => hexDigits 8 word.toNat

theorem length_bigEndianBytes (width value : Nat) : (bigEndianBytes width value).length = width := by
  induction width generalizing value with
  | zero => rfl
  | succ width ih => rw [bigEndianBytes, length_append, ih]; rfl

theorem bigEndianBytes_zero (width : Nat) :
    bigEndianBytes width 0 = replicate width 0 := by
  induction width with
  | zero => rfl
  | succ width ih => rw [bigEndianBytes, Nat.zero_div, ih, replicate_succ']; rfl

theorem bigEndianBytes_halves {value : Nat} (small : value < 2 ^ 32) :
    bigEndianBytes 8 value = replicate 4 0 ++ bigEndianBytes 4 value := by
  have upper : value / 256 / 256 / 256 / 256 = 0 := by omega
  rw [← bigEndianBytes_zero 4, ← upper]
  simp only [bigEndianBytes, nil_append, append_assoc]

theorem length_pad (message : List UInt8) :
    (pad message).length = message.length + 1 + (119 - message.length % 64) % 64 + 8 := by
  rw [pad, length_append, length_cons, length_append, length_replicate,
    length_bigEndianBytes]
  omega

end CouncilKit.Data.Sha256
