import CouncilKit.Data.BraceSpans

namespace CouncilKit.Data.Json

open JsString List Option

variable {text : JsString}

namespace Marks

variable {marks next final : Marks}

theorem follows_bare {front rest : JsString} (bare : ∀ unit ∈ front, isBare unit = true)
    (goes : marks.rest = front ++ rest) :
    Relation.ReflTransGen (Follows text) marks { marks with rest := rest } := by
  induction front generalizing marks with
  | nil =>
    obtain ⟨behind, roots, stack, overflow⟩ := marks
    cases goes
    exact .refl
  | cons unit more ih =>
    have plain := bare unit mem_cons_self
    simp only [isBare, Bool.and_eq_true, bne_iff_ne] at plain
    obtain ⟨⟨noQuote, noOpen⟩, noClose⟩ := plain
    have stepped : marks.step text = some { marks with rest := more ++ rest } := by
      unfold step
      rw [goes, cons_append]
      simp only [noQuote, noOpen, noClose, false_and, if_false]
    exact .head stepped (ih (fun other member => bare other (mem_cons_of_mem _ member)) rfl)

theorem follows_literal {front rest : JsString} (ends : LiteralFront front) (inside : marks.stack ≠ [])
    (goes : marks.rest = 0x22 :: (front ++ rest)) : marks.step text = some { marks with rest := rest } := by
  unfold step
  rw [goes]
  simp only [inside, ne_eq, not_false_eq_true, true_or, and_self, if_true, ends rest, map_some]

theorem step_open {rest : JsString} (goes : marks.rest = 0x7B :: rest) :
    marks.step text = some (marks.opened rest (text.length - (rest.length + 1))) := by
  unfold step
  rw [goes]
  rfl

theorem step_close {rest : JsString} (goes : marks.rest = 0x7D :: rest) :
    marks.step text = some (marks.closed rest (text.length - (rest.length + 1))) := by
  unfold step
  rw [goes]
  rfl

theorem follows_braced {front : JsString} (braced : Braced front) {rest : JsString} {last : OpenBrace}
    {below : List OpenBrace} (stack : marks.stack = last :: below) (goes : marks.rest = front ++ rest) :
    ∃ kids, Relation.ReflTransGen (Follows text) marks
      { marks with rest := rest, stack := { last with kids := kids } :: below } := by
  induction braced generalizing marks last below rest with
  | nil =>
    obtain ⟨behind, roots, _, overflow⟩ := marks
    cases goes
    cases stack
    exact ⟨last.kids, .refl⟩
  | @plain unit more bare _ ih =>
    have plain : ∀ other ∈ [unit], isBare other = true := forall_mem_singleton.mpr bare
    have first := @follows_bare text marks [unit] (more ++ rest) plain goes
    obtain ⟨kids, later⟩ := @ih { marks with rest := more ++ rest } rest last below stack rfl
    exact ⟨kids, first.trans later⟩
  | @literal quoted more ends _ ih =>
    rw [cons_append, append_assoc] at goes
    have inside : marks.stack ≠ [] := by
      rw [stack]
      exact cons_ne_nil _ _
    have first := @follows_literal text marks quoted (more ++ rest) ends inside goes
    obtain ⟨kids, later⟩ := @ih { marks with rest := more ++ rest } rest last below stack rfl
    exact ⟨kids, .head first later⟩
  | @braces inner more _ _ inside behind =>
    rw [cons_append, append_assoc, cons_append] at goes
    have enters := @step_open text marks _ goes
    by_cases deep : 0 < marks.overflow ∨ MAX_EMBEDDED_BRACE_DEPTH ≤ marks.stack.length
    · -- the brace is counted and not stacked, and so is the one that closes it
      rw [opened, if_pos deep] at enters
      obtain ⟨kids, across⟩ := @inside { marks with rest := _, overflow := marks.overflow + 1 }
        (0x7D :: (more ++ rest)) last below stack rfl
      obtain ⟨others, later⟩ := @behind
        { marks with rest := more ++ rest, stack := { last with kids := kids } :: below } rest
        { last with kids := kids } below rfl rfl
      have leaves : Follows text
          { marks with
            rest := 0x7D :: (more ++ rest)
            stack := { last with kids := kids } :: below
            overflow := marks.overflow + 1 }
          { marks with rest := more ++ rest, stack := { last with kids := kids } :: below } := by
        unfold Follows
        rw [step_close rfl, closed, if_pos (Nat.succ_pos _)]
        rfl
      have first : Follows text marks { marks with rest := _, overflow := marks.overflow + 1 } := enters
      exact ⟨others, (across.head first).trans (later.head leaves)⟩
    · rw [opened, if_neg deep] at enters
      generalize text.length - ((inner ++ 0x7D :: (more ++ rest)).length + 1) = start at enters
      have flat : ¬ 0 < marks.overflow := fun over_ => deep (.inl over_)
      obtain ⟨kids, across⟩ := @inside
        { marks with rest := inner ++ 0x7D :: (more ++ rest), stack := { start := start } :: marks.stack }
        (0x7D :: (more ++ rest)) { start := start } marks.stack rfl rfl
      have leaves : Follows text
          { marks with
            rest := 0x7D :: (more ++ rest)
            stack := { start := start, kids := kids } :: marks.stack }
          { marks with
            rest := more ++ rest
            stack := { last with
              kids := last.kids ++ [.span start (text.length - ((more ++ rest).length + 1)) kids] } :: below } := by
        unfold Follows
        rw [step_close rfl, closed, if_neg flat]
        simp only [stack]
      obtain ⟨others, later⟩ := @behind
        { marks with
          rest := more ++ rest
          stack := { last with
            kids := last.kids ++ [.span start (text.length - ((more ++ rest).length + 1)) kids] } :: below }
        rest _ below rfl rfl
      have first : Follows text marks
          { marks with
            rest := inner ++ 0x7D :: (more ++ rest)
            stack := { start := start } :: marks.stack } := enters
      exact ⟨others, (across.head first).trans (later.head leaves)⟩

theorem follows_object {inner rest : JsString} (braced : Braced inner)
    (goes : marks.rest = 0x7B :: (inner ++ 0x7D :: rest)) (flat : marks.overflow = 0)
    (room : marks.stack.length < MAX_EMBEDDED_BRACE_DEPTH) :
    ∃ kids, Relation.ReflTransGen (Follows text) marks
      (closed { marks with
        rest := 0x7D :: rest
        stack := { start := text.length - marks.rest.length, kids := kids } :: marks.stack }
        rest (text.length - (rest.length + 1))) := by
  have enters := @step_open text marks _ goes
  have shallow : ¬ (0 < marks.overflow ∨ MAX_EMBEDDED_BRACE_DEPTH ≤ marks.stack.length) := by omega
  rw [opened, if_neg shallow] at enters
  have same : text.length - ((inner ++ 0x7D :: rest).length + 1) = text.length - marks.rest.length := by
    rw [goes, length_cons]
  rw [same] at enters
  generalize text.length - marks.rest.length = start at enters
  obtain ⟨kids, across⟩ := @follows_braced text
    { marks with rest := inner ++ 0x7D :: rest, stack := { start := start } :: marks.stack } inner braced
    (0x7D :: rest) { start := start } marks.stack rfl rfl
  have first : Follows text marks
      { marks with rest := inner ++ 0x7D :: rest, stack := { start := start } :: marks.stack } := enters
  exact ⟨kids, (across.head first).tail (step_close rfl)⟩

theorem holds_of_closed {start index : Nat} {kids : List BraceSpan} {rest : JsString}
    (flat : marks.overflow = 0) (stack : marks.stack = { start := start, kids := kids } :: next.stack) :
    (marks.closed rest index).Holds (.span start index kids) := by
  obtain ⟨behind, roots, _, overflow⟩ := marks
  cases stack
  cases flat
  unfold closed Holds all
  rw [if_neg (Nat.lt_irrefl 0)]
  dsimp only
  cases next.stack with
  | nil =>
    refine ⟨_, ?_, .self⟩
    dsimp only
    exact mem_append_left _ (mem_append_right _ (mem_singleton_self _))
  | cons parent more =>
    refine ⟨_, ?_, .self⟩
    dsimp only
    simp

end Marks

def spanText (text : JsString) (start stop : Nat) : JsString := (text.drop start).take (stop + 1 - start)

structure ObjectSpan (text : JsString) (start stop : Nat) (value : Json) : Prop where
  ordered : start < stop
  opens : text[start]? = some 0x7B
  closes : text[stop]? = some 0x7D
  parses : parse (spanText text start stop) = some value
  object : ∃ members, value = .object members

/-- The pass stands at the brace there and stacks it: the brace is in no literal that the
pass skips, behind none that does not end, and in less than 1024 open braces. -/
def StacksBrace (text : JsString) (start : Nat) : Prop :=
  ∃ marks : Marks, marks.Reached text ∧ text.length - marks.rest.length = start ∧
    marks.rest.head? = some 0x7B ∧ marks.overflow = 0 ∧ marks.stack.length < MAX_EMBEDDED_BRACE_DEPTH

theorem drop_of_getElem {unit : CodeUnit} {index : Nat} (found : text[index]? = some unit) :
    text.drop index = unit :: text.drop (index + 1) := by
  obtain ⟨inside, same⟩ := List.getElem?_eq_some_iff.mp found
  rw [drop_eq_getElem_cons inside, same]

theorem slice_of_braces {start stop : Nat} (ordered : start < stop) (opens : text[start]? = some 0x7B)
    (closes : text[stop]? = some 0x7D) :
    ∃ inner, inner.length + 1 = stop - start ∧
      text.drop start = 0x7B :: (inner ++ 0x7D :: text.drop (stop + 1)) ∧
      spanText text start stop = 0x7B :: (inner ++ [0x7D]) := by
  obtain ⟨width, same⟩ : ∃ width, stop = start + 1 + width := ⟨stop - start - 1, by omega⟩
  have behind := drop_of_getElem opens
  have last := drop_of_getElem closes
  have cut : text.drop (start + 1) = (text.drop (start + 1)).take width ++ text.drop stop := by
    have later : text.drop stop = (text.drop (start + 1)).drop width := by
      rw [drop_drop, same]
    rw [later]
    exact (take_append_drop _ _).symm
  have long : ((text.drop (start + 1)).take width).length = width := by
    have inside := (List.getElem?_eq_some_iff.mp closes).1
    rw [length_take, length_drop]
    omega
  have front : text.drop start =
      0x7B :: ((text.drop (start + 1)).take width ++ 0x7D :: text.drop (stop + 1)) := by
    rw [behind, ← last, ← cut]
  refine ⟨(text.drop (start + 1)).take width, by omega, front, ?_⟩
  unfold spanText
  rw [front, show stop + 1 - start = width + 1 + 1 by omega, take_succ_cons]
  congr 1
  rw [take_append, long, show width + 1 - width = 1 by omega]
  rw [take_of_length_le (by omega)]
  rfl

theorem held_of_object {start stop : Nat} {value : Json} (object : ObjectSpan text start stop value)
    (stacked : StacksBrace text start) {final : Marks} (reached : final.Reached text)
    (stops : final.step text = none) : ∃ kids, final.Holds (.span start stop kids) := by
  obtain ⟨marks, arrived, place, head, flat, room⟩ := stacked
  obtain ⟨inner, width, front, sliced⟩ := slice_of_braces object.ordered object.opens object.closes
  have parsed := object.parses
  rw [sliced] at parsed
  have braced := (object_of_parse parsed).1
  obtain ⟨before, suffix⟩ := (Marks.placed_reached arrived).suffix
  have goes : marks.rest = 0x7B :: (inner ++ 0x7D :: text.drop (stop + 1)) := by
    rw [← front]
    have long : before.length = start := by
      rw [← place]
      conv => rhs; rw [suffix]
      rw [length_append]
      omega
    conv => rhs; rw [suffix]
    rw [← long, drop_left]
  obtain ⟨kids, follows⟩ := @Marks.follows_object text marks inner _ braced goes flat room
  rw [place] at follows
  have index : text.length - ((text.drop (stop + 1)).length + 1) = stop := by
    have inside := (List.getElem?_eq_some_iff.mp object.closes).1
    rw [length_drop]
    omega
  rw [index] at follows
  have holds := @Marks.holds_of_closed
    { marks with
      rest := 0x7D :: text.drop (stop + 1)
      stack := { start := start, kids := kids } :: marks.stack }
    marks start stop kids (text.drop (stop + 1)) flat rfl
  have unique : Relator.RightUnique (Marks.Follows text) := by
    intro here one other first second
    exact some_inj.mp (first.symm.trans second)
  rcases Relation.ReflTransGen.total_of_right_unique unique (arrived.trans follows) reached with
    forward | backward
  · exact ⟨kids, Marks.holds_follows holds forward⟩
  · -- the pass has ended, so it goes nowhere
    rcases backward.cases_head with same | ⟨next, stepped, _⟩
    · rw [same]
      exact ⟨kids, holds⟩
    · rw [Marks.Follows, stops] at stepped
      cases stepped

def counts (text : JsString) (span : BraceSpan) : Bool :=
  (parseSpan text span).isSome || spanHoldsJsonObject text span

theorem counts_of_any {kids : List BraceSpan} (none_ : anyHoldsJsonObject text kids = false) :
    ∀ kid ∈ kids, counts text kid = false := by
  induction kids with
  | nil =>
    intro kid member
    cases member
  | cons first rest ih =>
    rw [anyHoldsJsonObject, Bool.or_eq_false_iff] at none_
    intro kid member
    rcases mem_cons.mp member with rfl | later
    · exact none_.1
    · exact ih none_.2 kid later

theorem parse_within {inner span : BraceSpan} (within : Within inner span)
    (none_ : counts text span = false) : parseSpan text inner = none := by
  induction within with
  | self => exact not_isSome_iff_eq_none.mp (Bool.eq_false_iff.mp (Bool.or_eq_false_iff.mp none_).1)
  | kid member _ ih =>
    have holds := (Bool.or_eq_false_iff.mp none_).2
    rw [spanHoldsJsonObject] at holds
    exact ih (counts_of_any holds _ member)

variable {scan counted : BraceScan}

theorem take_counts {span : BraceSpan}
    (taken : BraceScan.take text scan span = some counted) :
    (counts text span = false → counted = scan) ∧
      (counts text span = true → counted.count = scan.count + 1 ∧
        (counted.found = scan.found ∨ counted.found = parseSpan text span)) := by
  unfold BraceScan.take at taken
  unfold counts
  cases parsed : parseSpan text span with
  | some value =>
    rw [parsed] at taken
    obtain ⟨_, same⟩ := ite_none_left_eq_some.mp taken
    cases same
    refine ⟨?_, fun _ => ⟨rfl, .inr rfl⟩⟩
    intro quiet
    cases quiet
  | none =>
    rw [parsed] at taken
    obtain ⟨_, same⟩ := ite_none_left_eq_some.mp taken
    cases holds : spanHoldsJsonObject text span with
    | true =>
      rw [holds] at same
      cases same
      refine ⟨?_, fun _ => ⟨rfl, .inl rfl⟩⟩
      intro quiet
      cases quiet
    | false =>
      rw [holds] at same
      cases same
      refine ⟨fun _ => rfl, ?_⟩
      intro loud
      cases loud

theorem count_takes {spans : List BraceSpan}
    (taken : spans.foldlM (BraceScan.take text) scan = some counted) :
    counted.count = scan.count + (spans.filter (counts text)).length ∧
      (counted.found = scan.found ∨ ∃ span ∈ spans, counts text span = true ∧
        counted.found = parseSpan text span) := by
  induction spans generalizing scan with
  | nil =>
    cases taken
    exact ⟨rfl, .inl rfl⟩
  | cons span rest ih =>
    rw [foldlM_cons] at taken
    obtain ⟨first, here, later⟩ := bind_eq_some_iff.mp taken
    obtain ⟨quiet, loud⟩ := take_counts here
    obtain ⟨total, found⟩ := ih later
    cases counted_ : counts text span with
    | false =>
      rw [filter_cons_of_neg (by rw [counted_]; exact Bool.false_ne_true)]
      rw [quiet counted_] at total found
      refine ⟨total, found.imp id ?_⟩
      rintro ⟨other, member, rest_⟩
      exact ⟨other, mem_cons_of_mem _ member, rest_⟩
    | true =>
      rw [filter_cons_of_pos counted_, length_cons]
      obtain ⟨more, from_⟩ := loud counted_
      refine ⟨by omega, ?_⟩
      rcases found with same | ⟨other, member, rest_⟩
      · rw [same]
        exact from_.imp id fun parsed => ⟨span, mem_cons_self, counted_, parsed⟩
      · exact .inr ⟨other, mem_cons_of_mem _ member, rest_⟩

theorem lone_counts {spans : List BraceSpan} {value : Json} (lone : loneOf text spans = some value) :
    ∃ span ∈ spans, parseSpan text span = some value ∧
      ∀ other ∈ spans, counts text other = true → other = span := by
  obtain ⟨counted, taken, answer⟩ := bind_eq_some_iff.mp lone
  split at answer
  · rename_i one
    obtain ⟨total, found⟩ := count_takes taken
    rw [one] at total
    rcases found with none_ | ⟨span, member, counted_, parsed⟩
    · rw [answer] at none_
      cases none_
    · refine ⟨span, member, by rw [← parsed, answer], ?_⟩
      intro other held loud
      have single : (spans.filter (counts text)).length = 1 := by
        change 1 = 0 + _ at total
        omega
      obtain ⟨only, same⟩ := length_eq_one_iff.mp single
      have first : span ∈ spans.filter (counts text) := mem_filter.mpr ⟨member, counted_⟩
      have second : other ∈ spans.filter (counts text) := mem_filter.mpr ⟨held, loud⟩
      rw [same] at first second
      rw [mem_singleton.mp first, mem_singleton.mp second]
  · cases answer

end CouncilKit.Data.Json
