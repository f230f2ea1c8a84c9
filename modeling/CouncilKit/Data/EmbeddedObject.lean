import Mathlib
import CouncilKit.Data.LoneObject

namespace CouncilKit.Data.Json

open JsString List Marks

def leadOf (text : JsString) : Nat := (text.takeWhile isSpace).length

theorem not_brace_of_space {unit : CodeUnit} (space : isSpace unit = true) : unit ≠ 0x7B ∧ unit ≠ 0x7D := by
  constructor
  · rintro rfl
    revert space
    decide
  · rintro rfl
    revert space
    decide

theorem trim_split (text : JsString) :
    ∃ tail, text = text.takeWhile isSpace ++ text.trim ++ tail ∧ ∀ unit ∈ tail, isSpace unit = true := by
  refine ⟨((text.trimStart.reverse).takeWhile isSpace).reverse, ?_, ?_⟩
  · rw [append_assoc, trim, trimEnd, ← reverse_append, takeWhile_append_dropWhile,
      reverse_reverse, trimStart, takeWhile_append_dropWhile]
  · intro unit member
    exact mem_takeWhile_imp (mem_reverse.mp member)

section

variable {text lead middle tail : JsString}

variable (split_ : text = lead ++ middle ++ tail)

include split_

theorem getElem_lead {index : Nat} (inside : index < middle.length) :
    text[lead.length + index]? = middle[index]? := by
  rw [split_, append_assoc, List.getElem?_append_right (Nat.le_add_right _ _), Nat.add_sub_cancel_left,
    List.getElem?_append_left inside]

theorem slice_lead {start stop : Nat} (inside : stop < middle.length) :
    spanText text (lead.length + start) (lead.length + stop) = spanText middle start stop := by
  unfold spanText
  rw [split_, append_assoc, drop_length_add_append]
  rw [show lead.length + stop + 1 - (lead.length + start) = stop + 1 - start by omega]
  by_cases early : start ≤ stop
  · rw [drop_append_of_le_length (by omega), take_append_of_le_length]
    rw [length_drop]
    omega
  · rw [show stop + 1 - start = 0 by omega, take_zero, take_zero]

theorem brace_place {brace : CodeUnit} {index : Nat} (none_ : ∀ unit ∈ lead ++ tail, unit ≠ brace)
    (found : text[index]? = some brace) :
    lead.length ≤ index ∧ index - lead.length < middle.length := by
  rw [split_, append_assoc] at found
  by_cases early : index < lead.length
  · rw [List.getElem?_append_left early] at found
    exact absurd rfl (none_ brace (mem_append_left _ (mem_of_getElem? found)))
  · rw [List.getElem?_append_right (Nat.le_of_not_lt early)] at found
    refine ⟨Nat.le_of_not_lt early, Nat.lt_of_not_le ?_⟩
    intro late
    rw [List.getElem?_append_right late] at found
    exact absurd rfl (none_ brace (mem_append_right _ (mem_of_getElem? found)))

theorem ObjectSpan.of_middle {start stop : Nat} {value : Json}
    (object : ObjectSpan middle start stop value) :
    ObjectSpan text (lead.length + start) (lead.length + stop) value := by
  obtain ⟨ordered, opens, closes, parses, members⟩ := object
  have within_ := (List.getElem?_eq_some_iff.mp closes).1
  constructor
  · omega
  · rw [getElem_lead split_ (by omega)]
    exact opens
  · rw [getElem_lead split_ within_]
    exact closes
  · rw [slice_lead split_ within_]
    exact parses
  · exact members

theorem ObjectSpan.inner (none_ : ∀ unit ∈ lead ++ tail, unit ≠ 0x7B ∧ unit ≠ 0x7D)
    {start stop : Nat} {value : Json} (object : ObjectSpan text start stop value) :
    lead.length ≤ start ∧ ObjectSpan middle (start - lead.length) (stop - lead.length) value := by
  obtain ⟨ordered, opens, closes, parses, members⟩ := object
  obtain ⟨afterLead, insideStart⟩ := brace_place split_ (fun unit member => (none_ unit member).1) opens
  obtain ⟨_, insideStop⟩ := brace_place split_ (fun unit member => (none_ unit member).2) closes
  obtain ⟨first, same⟩ : ∃ first, start = lead.length + first := ⟨start - lead.length, by omega⟩
  obtain ⟨last, again⟩ : ∃ last, stop = lead.length + last := ⟨stop - lead.length, by omega⟩
  subst same again
  rw [Nat.add_sub_cancel_left] at insideStart insideStop ⊢
  rw [Nat.add_sub_cancel_left]
  rw [getElem_lead split_ insideStart] at opens
  rw [getElem_lead split_ insideStop] at closes
  rw [slice_lead split_ insideStop] at parses
  exact ⟨afterLead, by omega, opens, closes, parses, members⟩

end

variable {text : JsString} {value : Json}

theorem lone_object (lone : parseLoneEmbeddedObject text = some value) :
    ∃ start stop, ObjectSpan text start stop value ∧
      ∀ first last other, ObjectSpan text first last other → StacksBrace text first →
        first ≤ stop ∧ start ≤ last := by
  obtain ⟨final, reached, stops⟩ := exists_stop text { rest := text }
  rw [parseLone_eq reached stops] at lone
  obtain ⟨⟨start, stop, kids⟩, member, parsed, only⟩ := lone_counts lone
  have tidy := tidy_all reached member
  have object : ObjectSpan text start stop value := by
    cases tidy with
    | span _ ordered _ opens closes _ =>
      obtain ⟨inner, _, _, sliced⟩ := slice_of_braces ordered opens closes
      have parses : parse (spanText text start stop) = some value := parsed
      refine ⟨ordered, opens, closes, parses, ?_⟩
      rw [sliced] at parses
      exact (object_of_parse parses).2
  refine ⟨start, stop, object, ?_⟩
  intro first last other found stacked
  obtain ⟨others, outer, held, within⟩ := held_of_object found stacked reached stops
  have loud : counts text outer = true := by
    cases counted : counts text outer with
    | true => rfl
    | false =>
      have none_ := parse_within within counted
      have parses : parseSpan text (.span first last others) = some other := found.parses
      rw [parses] at none_
      cases none_
  have same := only outer held loud
  subst same
  cases within with
  | self => exact ⟨Nat.le_of_lt object.ordered, Nat.le_of_lt object.ordered⟩
  | kid inside deeper =>
    cases tidy with
    | span _ _ _ _ _ kidsTidy =>
      cases (kidsTidy _ inside).within deeper with
      | span above ordered below _ _ _ =>
        have spans := found.ordered
        exact ⟨by omega, by omega⟩

theorem trim_noise {before object after : JsString} {first last : CodeUnit}
    (opens : object.head? = some first) (closes : object.getLast? = some last)
    (solidFirst : isSpace first = false) (solidLast : isSpace last = false) :
    (before ++ object ++ after).trim =
      before.dropWhile isSpace ++ object ++ (after.reverse.dropWhile isSpace).reverse := by
  have keeps (front text : JsString) {unit : CodeUnit} (starts : text.head? = some unit)
      (solid : isSpace unit = false) :
      (front ++ text).dropWhile isSpace = front.dropWhile isSpace ++ text := by
    have stays : text.dropWhile isSpace = text := by
      cases text with
      | nil => cases starts
      | cons _ _ =>
        cases starts
        rw [dropWhile_cons_of_neg (by rw [solid]; exact Bool.false_ne_true)]
    rw [dropWhile_append]
    split
    · rename_i empty
      rw [stays, isEmpty_iff.mp empty, nil_append]
    · rfl
  rw [trim, trimStart, append_assoc, @keeps before (object ++ after) first, trimEnd,
    ← append_assoc, reverse_append, @keeps after.reverse _ last, reverse_append,
    reverse_reverse]
  · rw [reverse_append, List.head?_append, List.head?_reverse, closes]
    rfl
  · exact solidLast
  · rw [List.head?_append, opens]
    rfl
  · exact solidFirst

theorem loneOf_single {span : BraceSpan}
    (parsed : parseSpan text span = some value) : loneOf text [span] = some value := by
  unfold loneOf
  rw [foldlM_cons, BraceScan.take, parsed]
  rfl

theorem lone_of_noise {before inner after : JsString} (noise : ∀ unit ∈ before ++ after, isBare unit = true)
    (parsed : parse (0x7B :: (inner ++ [0x7D])) = some value) :
    parseLoneEmbeddedObject (before ++ 0x7B :: (inner ++ [0x7D]) ++ after) = some value := by
  generalize named : before ++ 0x7B :: (inner ++ [0x7D]) ++ after = text
  have goes : text = before ++ 0x7B :: (inner ++ 0x7D :: after) := by
    rw [← named]
    simp
  have braced := (object_of_parse parsed).1
  have first : Relation.ReflTransGen (Follows text) { rest := text }
      { rest := 0x7B :: (inner ++ 0x7D :: after) } :=
    follows_bare (fun unit member => noise unit (mem_append_left _ member)) goes
  obtain ⟨kids, second⟩ := @follows_object text { rest := 0x7B :: (inner ++ 0x7D :: after) } inner after
    braced rfl rfl (Nat.zero_lt_succ _)
  have closed : Relation.ReflTransGen (Follows text) { rest := 0x7B :: (inner ++ 0x7D :: after) }
      { rest := after
        roots := [.span (text.length - (0x7B :: (inner ++ 0x7D :: after)).length)
          (text.length - (after.length + 1)) kids] } := second
  have third := @follows_bare text
    { rest := after
      roots := [.span (text.length - (0x7B :: (inner ++ 0x7D :: after)).length)
        (text.length - (after.length + 1)) kids] }
    after [] (fun unit member => noise unit (mem_append_right _ member)) (append_nil after).symm
  have reached := (first.trans closed).trans third
  rw [parseLone_eq reached rfl]
  have start : text.length - (0x7B :: (inner ++ 0x7D :: after)).length = before.length := by
    rw [goes, length_append]
    omega
  have stop : text.length - (after.length + 1) = before.length + (inner.length + 1) := by
    rw [goes]
    simp only [length_append, length_cons]
    omega
  change loneOf text [.span (text.length - (0x7B :: (inner ++ 0x7D :: after)).length)
    (text.length - (after.length + 1)) kids] = _
  apply loneOf_single
  rw [start, stop]
  have sliced := @slice_lead text before (0x7B :: (inner ++ [0x7D])) after named.symm 0 (inner.length + 1)
    (by simp)
  change parse (spanText text (before.length + 0) (before.length + (inner.length + 1))) = _
  have whole : spanText (0x7B :: (inner ++ [0x7D])) 0 (inner.length + 1) = 0x7B :: (inner ++ [0x7D]) :=
    take_of_length_le (by simp)
  rw [sliced, whole, parsed]

theorem embedded_of_trim (noJson : parse text.trim = none) :
    jsonParseEmbedded text = parseLoneEmbeddedObject text.trim := by
  dsimp only [jsonParseEmbedded]
  split
  · rename_i empty
    rw [empty]
    rfl
  · rw [noJson]

/-- For a text that is not JSON, the value of one object span of it, which every other
object span overlaps whose first brace the pass stacks; an object in noise is answered. -/
theorem jsonParseEmbedded_one {text : JsString} (noJson : parse text.trim = none) :
    (∀ value, jsonParseEmbedded text = some value →
      ∃ start stop, ObjectSpan text start stop value ∧
        ∀ first last other, ObjectSpan text first last other →
          StacksBrace text.trim (first - leadOf text) → first ≤ stop ∧ start ≤ last) ∧
    (∀ before inner after value, text = before ++ 0x7B :: (inner ++ [0x7D]) ++ after →
      (∀ unit ∈ before ++ after, unit ≠ 0x7B ∧ unit ≠ 0x7D ∧ unit ≠ 0x22) →
      parse (0x7B :: (inner ++ [0x7D])) = some value → jsonParseEmbedded text = some value) := by
  rw [embedded_of_trim noJson]
  constructor
  · intro value lone
    obtain ⟨tail, split_, blank⟩ := trim_split text
    have none_ : ∀ unit ∈ text.takeWhile isSpace ++ tail, unit ≠ 0x7B ∧ unit ≠ 0x7D := by
      intro unit member
      apply not_brace_of_space
      rcases mem_append.mp member with lead | behind
      · exact mem_takeWhile_imp lead
      · exact blank unit behind
    obtain ⟨start, stop, object, only⟩ := lone_object lone
    refine ⟨leadOf text + start, leadOf text + stop, object.of_middle split_, ?_⟩
    intro first last other found stacked
    obtain ⟨after, inside⟩ := found.inner split_ none_
    have beside := only _ _ _ inside stacked
    have ordered := found.ordered
    change leadOf text ≤ first at after
    change first - leadOf text ≤ stop ∧ start ≤ last - leadOf text at beside
    omega
  · intro before inner after value same noise parsed
    have bare : ∀ unit ∈ before ++ after, isBare unit = true := by
      intro unit member
      obtain ⟨noOpen, noClose, noQuote⟩ := noise unit member
      simp only [isBare, Bool.and_eq_true, bne_iff_ne]
      exact ⟨⟨noQuote, noOpen⟩, noClose⟩
    have last : (0x7B :: (inner ++ [0x7D]) : JsString).getLast? = some 0x7D := by
      rw [← cons_append, List.getLast?_concat]
    rw [same, @trim_noise before (0x7B :: (inner ++ [0x7D])) after 0x7B 0x7D rfl last rfl rfl]
    apply lone_of_noise _ parsed
    intro unit member
    apply bare
    rcases mem_append.mp member with front | behind
    · exact mem_append_left _ ((dropWhile_suffix _).subset front)
    · exact mem_append_right _ (mem_reverse.mp ((dropWhile_suffix _).subset (mem_reverse.mp behind)))

def isEmptyObject : Option Json → Bool
  | some (.object []) => true
  | _ => false

theorem eq_of_isEmptyObject {read : Option Json} (empty : isEmptyObject read = true) :
    read = some (.object []) := by
  unfold isEmptyObject at empty
  split at empty
  · rfl
  · cases empty

theorem objectSpan_of_isSome {text : JsString} {start stop : Nat} (ordered : start < stop)
    (opens : text[start]? = some 0x7B) (closes : text[stop]? = some 0x7D)
    (parses : (parse (spanText text start stop)).isSome = true) : ∃ value, ObjectSpan text start stop value := by
  obtain ⟨value, parsed⟩ := Option.isSome_iff_exists.mp parses
  obtain ⟨inner, _, _, sliced⟩ := slice_of_braces ordered opens closes
  have again := parsed
  rw [sliced] at again
  exact ⟨value, ordered, opens, closes, parsed, (object_of_parse again).2⟩

def loggedObject : JsString := js "ok: \x7b\x7d\n"

theorem loggedObject_one :
    parse loggedObject.trim = none ∧
      (∃ start stop, ObjectSpan loggedObject start stop (.object []) ∧
        ∀ first last other, ObjectSpan loggedObject first last other →
          StacksBrace loggedObject.trim (first - leadOf loggedObject) → first ≤ stop ∧ start ≤ last) := by
  have noJson : parse loggedObject.trim = none := by
    apply Option.not_isSome_iff_eq_none.mp
    decide +kernel
  have bare : ∀ unit ∈ js "ok: " ++ js "\n", unit ≠ 0x7B ∧ unit ≠ 0x7D ∧ unit ≠ 0x22 :=
    List.all_iff_forall_prop.mp (by decide +kernel)
  have parsed : isEmptyObject (parse (0x7B :: ([] ++ [0x7D]))) = true := by decide +kernel
  have same : loggedObject = js "ok: " ++ 0x7B :: ([] ++ [0x7D]) ++ js "\n" := by decide +kernel
  obtain ⟨only, noise⟩ := jsonParseEmbedded_one noJson
  exact ⟨noJson, only _ (noise (js "ok: ") [] (js "\n") _ same bare (eq_of_isEmptyObject parsed))⟩

/-- The first brace of the second object is in a literal of a span that is never closed. -/
def quotedBrace : JsString := js "\x7b\x7d\x7b\"\x7b\"\":0\x7d"

theorem quotedBrace_two :
    parse quotedBrace.trim = none ∧ jsonParseEmbedded quotedBrace = some (.object []) ∧
      ∀ start stop value, ObjectSpan quotedBrace start stop value →
        ∃ first last other, ObjectSpan quotedBrace first last other ∧ (last < start ∨ stop < first) := by
  have noJson : ¬ (parse quotedBrace.trim).isSome = true := by decide +kernel
  have answer : isEmptyObject (jsonParseEmbedded quotedBrace) = true := by decide +kernel
  refine ⟨Option.not_isSome_iff_eq_none.mp noJson, eq_of_isEmptyObject answer, ?_⟩
  intro start stop value object
  have places : ∀ start < 10, ∀ stop < 10,
      quotedBrace[start]? = some 0x7B ∧ (parse (spanText quotedBrace start stop)).isSome = true →
      (start = 0 ∧ stop = 1) ∨ (start = 4 ∧ stop = 9) := by
    decide +kernel
  have long : quotedBrace.length = 10 := by decide +kernel
  have insideStart := (List.getElem?_eq_some_iff.mp object.opens).1
  have insideStop := (List.getElem?_eq_some_iff.mp object.closes).1
  rw [long] at insideStart insideStop
  have parses : (parse (spanText quotedBrace start stop)).isSome = true := by
    rw [object.parses]
    rfl
  rcases places start insideStart stop insideStop ⟨object.opens, parses⟩ with
    ⟨rfl, rfl⟩ | ⟨rfl, rfl⟩
  · obtain ⟨other, found⟩ := @objectSpan_of_isSome quotedBrace 4 9 (by decide)
      (by decide +kernel) (by decide +kernel) (by decide +kernel)
    exact ⟨4, 9, other, found, .inr (by decide)⟩
  · obtain ⟨other, found⟩ := @objectSpan_of_isSome quotedBrace 0 1 (by decide)
      (by decide +kernel) (by decide +kernel) (by decide +kernel)
    exact ⟨0, 1, other, found, .inl (by decide)⟩

end CouncilKit.Data.Json
