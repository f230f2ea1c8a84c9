import Mathlib
import CouncilKit.Data.BraceFronts

namespace CouncilKit.Data.Json

open List BraceScan Option Nat

structure Marks where
  rest : JsString
  roots : List BraceSpan := []
  stack : List OpenBrace := []
  overflow : Nat := 0

namespace Marks

variable (text : JsString)

variable (marks : Marks)

def opened (rest : JsString) (index : Nat) : Marks :=
  if 0 < marks.overflow ∨ MAX_EMBEDDED_BRACE_DEPTH ≤ marks.stack.length then
    { marks with rest := rest, overflow := marks.overflow + 1 }
  else { marks with rest := rest, stack := { start := index } :: marks.stack }

def closed (rest : JsString) (index : Nat) : Marks :=
  if 0 < marks.overflow then { marks with rest := rest, overflow := marks.overflow - 1 }
  else match marks.stack with
    | [] => { marks with rest := rest }
    | [last] =>
      { marks with
        rest := rest
        roots := marks.roots ++ [.span last.start index last.kids]
        stack := [] }
    | last :: parent :: more =>
      { marks with
        rest := rest
        stack := { parent with kids := parent.kids ++ [.span last.start index last.kids] } :: more }

/-- `none` at the end of the text and at a literal that does not end. -/
def step : Option Marks :=
  match marks.rest with
  | [] => none
  | unit :: rest =>
    let index := text.length - (rest.length + 1)
    if unit = 0x22 ∧ (marks.stack ≠ [] ∨ 0 < marks.overflow) then
      (afterJsonString rest).map fun more => { marks with rest := more }
    else if unit = 0x7B then some (marks.opened rest index)
    else if unit = 0x7D then some (marks.closed rest index)
    else some { marks with rest := rest }

def Follows (marks next : Marks) : Prop := marks.step text = some next

def Reached : Prop := Relation.ReflTransGen (Follows text) { rest := text } marks

def all : List BraceSpan := marks.roots ++ marks.stack.reverse.flatMap (·.kids)

/-- The scan of the source at these marks; `none` when a second object was counted. -/
def scan : Option BraceScan :=
  (marks.roots.foldlM (take text) {}).map fun counted =>
    { counted with stack := marks.stack, overflow := marks.overflow }

end Marks

theorem length_afterJsonString {text more : JsString} (after : afterJsonString text = some more) :
    more.length < text.length := by
  fun_induction afterJsonString text with
  | case1 => cases after
  | case2 => cases after
  | case3 _ _ ih =>
    have shorter := ih after
    simp only [length_cons]
    omega
  | case4 =>
    cases after
    simp
  | case5 _ _ _ _ ih =>
    have shorter := ih after
    simp only [length_cons]
    omega

namespace BraceScan

variable {text : JsString}

theorem take_with (scan : BraceScan) (stack : List OpenBrace) (overflow : Nat) (span : BraceSpan) :
    take text { scan with stack := stack, overflow := overflow } span =
      (take text scan span).map fun counted => { counted with stack := stack, overflow := overflow } := by
  unfold take
  cases parseSpan text span with
  | some value =>
    dsimp only
    split <;> rfl
  | none =>
    dsimp only
    split
    · split <;> rfl
    · split <;> rfl

theorem takes_with (stack : List OpenBrace) (overflow : Nat) (spans : List BraceSpan) (scan : BraceScan) :
    spans.foldlM (take text) { scan with stack := stack, overflow := overflow } =
      (spans.foldlM (take text) scan).map fun counted =>
        { counted with stack := stack, overflow := overflow } := by
  induction spans generalizing scan with
  | nil => rfl
  | cons span rest ih =>
    rw [foldlM_cons, foldlM_cons, take_with]
    cases take text scan span with
    | none => rfl
    | some counted => exact ih counted

theorem walk_fuel {fuel : Nat} {rest : JsString} (enough : rest.length ≤ fuel) (scan : BraceScan) :
    walk text fuel rest scan = walk text rest.length rest scan := by
  induction fuel using Nat.strong_induction_on generalizing rest scan with
  | _ fuel ih =>
    cases rest with
    | nil => cases fuel <;> rfl
    | cons unit more =>
      cases fuel with
      | zero => cases enough
      | succ less =>
        have bound : more.length ≤ less := le_of_succ_le_succ enough
        have again (scan : BraceScan) : walk text less more scan = walk text more.length more scan :=
          ih less (lt_succ_self _) bound scan
        rw [length_cons, walk, walk]
        split
        · split
          · rfl
          · rename_i later after
            have shorter := length_afterJsonString after
            by_cases same : less = more.length
            · rw [same]
            · rw [ih less (lt_succ_self _) (by omega),
                ih more.length (by omega) (by omega)]
        split
        · exact again _
        split
        · cases scan.closeBrace text _ with
          | none => rfl
          | some closed => exact again closed
        · exact again _

theorem unwind_eq (stack : List OpenBrace) (kids : List BraceSpan) (scan : BraceScan) :
    unwind text scan kids stack = (stack.reverse.flatMap (·.kids) ++ kids).foldlM (take text) scan := by
  induction stack generalizing kids with
  | nil => rfl
  | cons last rest ih =>
    rw [unwind, ih, reverse_cons, flatMap_append, append_assoc]
    simp

end BraceScan

namespace Marks

variable {text : JsString} {marks next final : Marks}

def walked (text : JsString) (marks : Marks) : Option BraceScan :=
  (marks.scan text).bind (walk text marks.rest.length marks.rest)

theorem scan_opened (marks : Marks) (rest : JsString) (index : Nat) :
    (marks.opened rest index).scan text = (marks.scan text).map (·.openBrace index) := by
  unfold scan opened
  cases counted : marks.roots.foldlM (take text) {} with
  | none =>
    split
    · rw [counted]
      rfl
    · rw [counted]
      rfl
  | some counted_ =>
    rw [map_some, map_some, openBrace]
    split
    · rw [counted, map_some]
    · rw [counted, map_some]

theorem scan_closed (marks : Marks) (rest : JsString) (index : Nat) :
    (marks.closed rest index).scan text = (marks.scan text).bind (·.closeBrace text index) := by
  obtain ⟨behind, roots, stack, overflow⟩ := marks
  unfold scan closed
  by_cases deep : 0 < overflow
  · simp only [deep, if_true]
    cases roots.foldlM (take text) {} with
    | none => rfl
    | some counted =>
      rw [map_some, map_some, bind_some, closeBrace, if_pos deep]
  · simp only [deep, if_false]
    cases stack with
    | nil =>
      dsimp only
      cases roots.foldlM (take text) {} with
      | none => rfl
      | some counted =>
        rw [map_some, bind_some, closeBrace, if_neg deep]
    | cons last others =>
      cases others with
      | nil =>
        dsimp only
        rw [foldlM_append]
        cases roots.foldlM (take text) {} with
        | none => rfl
        | some counted =>
          rw [map_some, bind_some, closeBrace, if_neg deep]
          dsimp only
          rw [take_with]
          change (([_] : List BraceSpan).foldlM (take text) counted).map _ = _
          rw [foldlM_cons]
          cases take text counted _ with
          | none => rfl
          | some more => rfl
      | cons parent more =>
        dsimp only
        cases roots.foldlM (take text) {} with
        | none => rfl
        | some counted =>
          rw [map_some, map_some, bind_some, closeBrace, if_neg deep]

theorem scan_marks {scan : BraceScan} (reached : marks.scan text = some scan) :
    scan.stack = marks.stack ∧ scan.overflow = marks.overflow := by
  obtain ⟨counted, _, same⟩ := map_eq_some_iff.mp reached
  rw [← same]
  exact ⟨rfl, rfl⟩

theorem walked_step (stepped : marks.step text = some next) : marks.walked text = next.walked text := by
  unfold step at stepped
  split at stepped
  · cases stepped
  rename_i unit rest goes
  dsimp only at stepped
  unfold walked
  rw [goes, length_cons]
  split at stepped
  · rename_i quoted
    obtain ⟨more, after, same⟩ := map_eq_some_iff.mp stepped
    subst same
    change _ = (marks.scan text).bind _
    cases reached : marks.scan text with
    | none => rfl
    | some scan =>
      obtain ⟨sameStack, sameOverflow⟩ := scan_marks reached
      rw [bind_some, bind_some, walk]
      rw [sameStack, sameOverflow, if_pos quoted, after]
      exact walk_fuel (le_of_lt (length_afterJsonString after)) scan
  rename_i bare
  have here {scan : BraceScan} (reached : marks.scan text = some scan) :
      ¬ (unit = 0x22 ∧ (scan.stack ≠ [] ∨ 0 < scan.overflow)) := by
    obtain ⟨sameStack, sameOverflow⟩ := scan_marks reached
    rw [sameStack, sameOverflow]
    exact bare
  split at stepped
  · rename_i opens
    cases stepped
    rw [scan_opened]
    have goes : (marks.opened rest (text.length - (rest.length + 1))).rest = rest := by
      unfold opened
      split <;> rfl
    rw [goes]
    cases reached : marks.scan text with
    | none => rfl
    | some scan =>
      rw [bind_some, map_some, bind_some, walk, if_neg (here reached),
        if_pos opens]
  rename_i noOpen
  split at stepped
  · rename_i closes
    cases stepped
    rw [scan_closed]
    have goes : (marks.closed rest (text.length - (rest.length + 1))).rest = rest := by
      unfold closed
      split
      · rfl
      · split <;> rfl
    rw [goes]
    cases reached : marks.scan text with
    | none => rfl
    | some scan =>
      rw [bind_some, bind_some, walk, if_neg (here reached), if_neg noOpen,
        if_pos closes]
  · rename_i noClose
    cases stepped
    change _ = (marks.scan text).bind _
    cases reached : marks.scan text with
    | none => rfl
    | some scan =>
      rw [bind_some, bind_some, walk, if_neg (here reached), if_neg noOpen,
        if_neg noClose]

theorem walked_stop (stops : marks.step text = none) : marks.walked text = marks.scan text := by
  unfold step at stops
  unfold walked
  split at stops
  · rename_i ends
    rw [ends]
    cases marks.scan text with
    | none => rfl
    | some scan => rfl
  rename_i unit rest goes
  dsimp only at stops
  split at stops
  · rename_i quoted
    have open_ := map_eq_none_iff.mp stops
    rw [goes, length_cons]
    cases reached : marks.scan text with
    | none => rfl
    | some scan =>
      obtain ⟨sameStack, sameOverflow⟩ := scan_marks reached
      rw [bind_some, walk, sameStack, sameOverflow, if_pos quoted, open_]
  split at stops
  · cases stops
  split at stops
  · cases stops
  · cases stops

theorem walked_follows (follows : Relation.ReflTransGen (Follows text) marks final) :
    marks.walked text = final.walked text := by
  induction follows with
  | refl => rfl
  | tail _ stepped ih => rw [ih, walked_step stepped]

theorem length_step (stepped : marks.step text = some next) : next.rest.length < marks.rest.length := by
  unfold step at stepped
  split at stepped
  · cases stepped
  rename_i unit rest goes
  rw [goes, length_cons]
  dsimp only at stepped
  split at stepped
  · obtain ⟨more, after, same⟩ := map_eq_some_iff.mp stepped
    subst same
    have shorter := length_afterJsonString after
    dsimp only
    omega
  split at stepped
  · cases stepped
    unfold opened
    split <;> exact lt_succ_self _
  split at stepped
  · cases stepped
    unfold closed
    split
    · exact lt_succ_self _
    · split <;> exact lt_succ_self _
  · cases stepped
    exact lt_succ_self _

theorem exists_stop (text : JsString) (marks : Marks) :
    ∃ final, Relation.ReflTransGen (Follows text) marks final ∧ final.step text = none := by
  generalize size : marks.rest.length = length
  induction length using Nat.strong_induction_on generalizing marks with
  | _ length ih =>
    cases stepped : marks.step text with
    | none => exact ⟨marks, .refl, stepped⟩
    | some next =>
      have shorter := length_step stepped
      obtain ⟨final, follows, stops⟩ := ih next.rest.length (by omega) next rfl
      exact ⟨final, .head stepped follows, stops⟩

end Marks

def loneOf (text : JsString) (spans : List BraceSpan) : Option Json :=
  (spans.foldlM (take text) {}).bind fun counted =>
    if counted.count = 1 then counted.found else none

theorem parseLone_eq {text : JsString} {final : Marks} (reached : final.Reached text)
    (stops : final.step text = none) : parseLoneEmbeddedObject text = loneOf text final.all := by
  have start : Marks.walked text { rest := text } = walk text text.length text {} := rfl
  unfold parseLoneEmbeddedObject loneOf
  rw [← start, Marks.walked_follows reached, Marks.walked_stop stops, Marks.all, foldlM_append]
  unfold Marks.scan
  cases final.roots.foldlM (take text) {} with
  | none => rfl
  | some counted =>
    change (unwind text { counted with stack := final.stack, overflow := final.overflow } []
      final.stack).bind _ = _
    rw [unwind_eq, append_nil, takes_with]
    change _ = ((final.stack.reverse.flatMap (·.kids)).foldlM (take text) counted).bind _
    cases (final.stack.reverse.flatMap (·.kids)).foldlM (take text) counted with
    | none => rfl
    | some more => rfl

end CouncilKit.Data.Json
