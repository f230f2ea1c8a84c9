import CouncilKit.Data.Regex

namespace CouncilKit.Data.Regex

open List

variable {allowed : CodeUnit → Bool} {pattern : Regex} {cursor final : Cursor} {next : Continuation}

/-- A pattern that passes allowed units only, and captures none. -/
def Takes (allowed : CodeUnit → Bool) : Regex → Prop
  | .unitWhere accepts => ∀ unit, accepts unit = true → allowed unit = true
  | .seq first second | .alt first second => first.Takes allowed ∧ second.Takes allowed
  | .many _ _ _ body => body.Takes allowed
  | .pointWhere _ | .capture .. | .lookahead .. | .backreference _ => False
  | _ => True

def Passed (allowed : CodeUnit → Bool) (cursor after : Cursor) : Prop :=
  after.captures = cursor.captures ∧
    ∃ taken, cursor.ahead = taken ++ after.ahead ∧ ∀ unit ∈ taken, allowed unit = true

theorem Passed.refl (cursor : Cursor) : Passed allowed cursor cursor := ⟨rfl, [], rfl, by simp⟩

theorem Passed.trans {middle after : Cursor} (first : Passed allowed cursor middle)
    (second : Passed allowed middle after) : Passed allowed cursor after := by
  obtain ⟨same, taken, split, each⟩ := first
  obtain ⟨again, more, rest, others⟩ := second
  refine ⟨again.trans same, taken ++ more, by rw [split, rest, append_assoc], ?_⟩
  intro unit member
  exact (mem_append.mp member).elim (each unit) (others unit)

theorem repeat_passed {body : Cursor → Continuation → Option Cursor}
    (steps : ∀ {cursor next}, body cursor next = some final →
      ∃ after, Passed allowed cursor after ∧ next after = some final)
    {greedy : Bool} {rounds least : Nat} {most : Option Nat}
    (found : repeatBody body [] greedy rounds least most cursor next = some final) :
    ∃ after, Passed allowed cursor after ∧ next after = some final := by
  induction rounds generalizing least most cursor with
  | zero => cases found
  | succ rounds ih =>
    have fresh : { cursor with captures := cursor.captures.filter fun entry =>
        !([] : List Nat).contains entry.1 } = cursor := by simp
    rw [repeatBody, fresh] at found
    have again {on : Continuation} (more : body cursor on = some final)
        (each : ∀ after, on after = some final → ∃ least most,
          repeatBody body [] greedy rounds least most after next = some final) :
        ∃ after, Passed allowed cursor after ∧ next after = some final := by
      obtain ⟨middle, first, rest⟩ := steps more
      obtain ⟨least, most, rest⟩ := each middle rest
      obtain ⟨after, second, ended⟩ := ih rest
      exact ⟨after, first.trans second, ended⟩
    split at found
    · exact ⟨cursor, .refl _, found⟩
    · have round {after : Cursor} (more : (if least = 0 ∧ after.ahead.length = cursor.ahead.length
          then none else repeatBody body [] greedy rounds (least - 1) (most.map (· - 1)) after next) =
            some final) : ∃ least most,
          repeatBody body [] greedy rounds least most after next = some final := by
        split at more
        · cases more
        · exact ⟨_, _, more⟩
      dsimp only at found
      split at found
      · exact again found fun _ => round
      · split at found
        · obtain more | ⟨-, ended⟩ := Option.or_eq_some_iff.mp found
          · exact again more fun _ => round
          · exact ⟨cursor, .refl _, ended⟩
        · obtain ended | ⟨-, more⟩ := Option.or_eq_some_iff.mp found
          · exact ⟨cursor, .refl _, ended⟩
          · exact again more fun _ => round

theorem groups_nil (takes : pattern.Takes allowed) : pattern.groups = [] := by
  induction pattern with
  | seq first second before after => rw [groups, before takes.1, after takes.2, append_nil]
  | alt first second before after => rw [groups, before takes.1, after takes.2, append_nil]
  | many greedy least most body ih => exact ih takes
  | capture index body => exact takes.elim
  | lookahead positive body => exact takes.elim
  | _ => rfl

theorem run_passed (takes : pattern.Takes allowed) (found : pattern.run cursor next = some final) :
    ∃ after, Passed allowed cursor after ∧ next after = some final := by
  induction pattern generalizing cursor next with
  | empty => exact ⟨cursor, .refl _, found⟩
  | unitWhere accepts =>
    rw [run] at found
    split at found
    · cases found
    · rename_i unit rest ahead
      split at found
      · rename_i accepted
        refine ⟨cursor.step unit rest, ⟨rfl, [unit], ahead, ?_⟩, found⟩
        simpa using takes unit accepted
      · cases found
  | seq first second before after =>
    obtain ⟨middle, passed, found⟩ := before takes.1 found
    obtain ⟨ended, more, found⟩ := after takes.2 found
    exact ⟨ended, passed.trans more, found⟩
  | alt first second before after =>
    obtain found | ⟨-, found⟩ := Option.or_eq_some_iff.mp found
    · exact before takes.1 found
    · exact after takes.2 found
  | many greedy least most body ih =>
    rw [run, @groups_nil _ body takes] at found
    exact repeat_passed (ih takes) found
  | pointWhere | capture | lookahead | backreference => exact takes.elim
  | start | stop | lineStart | lineStop | wordBoundary =>
    rw [run] at found
    split at found
    · exact ⟨cursor, .refl _, found⟩
    · cases found

theorem takes_all {patterns : List Regex} (each : ∀ pattern ∈ patterns, pattern.Takes allowed) :
    (all patterns).Takes allowed := by
  fun_induction all patterns with
  | case1 => trivial
  | case2 pattern => exact each pattern mem_cons_self
  | case3 pattern rest _ ih =>
    exact ⟨each pattern mem_cons_self, ih fun other member => each other (mem_cons_of_mem _ member)⟩

theorem takes_any {patterns : List Regex} (each : ∀ pattern ∈ patterns, pattern.Takes allowed) :
    (any patterns).Takes allowed := by
  fun_induction any patterns with
  | case1 => exact fun _ impossible => by cases impossible
  | case2 pattern => exact each pattern mem_cons_self
  | case3 pattern rest _ ih =>
    exact ⟨each pattern mem_cons_self, ih fun other member => each other (mem_cons_of_mem _ member)⟩

theorem lookahead_passed (takes : pattern.Takes allowed)
    (found : (Regex.lookahead true pattern).run cursor next = some final) :
    next cursor = some final := by
  cases seen : pattern.run cursor some with
  | none => simp [run, seen] at found
  | some ended =>
    obtain ⟨after, ⟨same, -⟩, stopped⟩ := run_passed takes seen
    cases stopped
    simpa [run, seen, same] using found

section Search

variable {text : JsString} {hit : Match} {P : List (Nat × JsString) → Prop}
  (sound : ∀ {behind start final}, start <:+ text → pattern.run ⟨behind, start, []⟩ some = some final →
    final.ahead <:+ start ∧ P final.captures)
include sound

theorem execFrom_found {tries : Nat} {behind ahead : List CodeUnit} (inside : ahead <:+ text)
    (found : execFrom pattern false tries behind ahead = some hit) :
    hit.after <:+ text ∧ P hit.groups := by
  induction tries generalizing behind ahead with
  | zero => cases found
  | succ tries ih =>
    rw [execFrom] at found
    split at found
    · rename_i final seen
      cases found
      exact ⟨(sound inside seen).1.trans inside, (sound inside seen).2⟩
    · cases ahead with
      | nil => cases found
      | cons unit rest => exact ih ((suffix_cons unit rest).trans inside) found

theorem mem_matchAll (member : hit ∈ matchAll pattern text) : P hit.groups := by
  rw [matchAll] at member
  suffices along : ∀ rounds behind ahead, ahead <:+ text →
      hit ∈ matchesFrom pattern false rounds behind ahead → P hit.groups from
    along _ _ _ (suffix_refl _) member
  intro rounds
  induction rounds with
  | zero => exact fun _ _ _ member => by cases member
  | succ rounds ih =>
    intro behind ahead inside member
    rw [matchesFrom] at member
    split at member
    · cases member
    · rename_i found seen
      obtain ⟨later, holds⟩ := execFrom_found sound inside seen
      dsimp only at member
      split at member
      · exact mem_singleton.mp member ▸ holds
      · rename_i unit rest _ split
        rcases mem_cons.mp member with rfl | member
        · exact holds
        · rw [split] at later
          exact ih _ _ ((suffix_cons unit rest).trans later) member
      · rcases mem_cons.mp member with rfl | member
        · exact holds
        · exact ih _ _ later member

end Search

end CouncilKit.Data.Regex
