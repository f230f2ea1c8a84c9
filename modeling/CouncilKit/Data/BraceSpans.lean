import CouncilKit.Data.BraceScans

namespace CouncilKit.Data.Json

open List Nat

inductive Within (inner : BraceSpan) : BraceSpan → Prop where
  | self : Within inner inner
  | kid {start stop : Nat} {kids : List BraceSpan} {kid : BraceSpan} (member : kid ∈ kids)
      (deeper : Within inner kid) : Within inner (.span start stop kids)

inductive Tidy (text : JsString) : Nat → Nat → BraceSpan → Prop where
  | span {low high start stop : Nat} {kids : List BraceSpan} (above : low ≤ start)
      (ordered : start < stop) (below : stop ≤ high) (opens : text[start]? = some 0x7B)
      (closes : text[stop]? = some 0x7D) (inside : ∀ kid ∈ kids, Tidy text start stop kid) :
      Tidy text low high (.span start stop kids)

variable {text : JsString}

theorem Tidy.widen {low high wideLow wideHigh : Nat} {span : BraceSpan} (tidy : Tidy text low high span)
    (lower : wideLow ≤ low) (higher : high ≤ wideHigh) : Tidy text wideLow wideHigh span := by
  cases tidy with
  | span above ordered below opens closes inside =>
    exact .span (by omega) ordered (by omega) opens closes inside

theorem Tidy.within {low high : Nat} {inner span : BraceSpan} (member : Within inner span)
    (tidy : Tidy text low high span) : Tidy text low high inner := by
  induction member generalizing low high with
  | self => exact tidy
  | kid member _ ih =>
    cases tidy with
    | span above ordered below opens closes inside =>
      exact (ih (inside _ member)).widen above below

namespace Marks

variable {marks next final : Marks}

/-- The open braces, the innermost one first, with their spans in front of the index. -/
def Stacked (text : JsString) (index : Nat) : List OpenBrace → Prop
  | [] => True
  | last :: more =>
    last.start < index ∧ text[last.start]? = some 0x7B ∧
      (∀ kid ∈ last.kids, Tidy text last.start index kid) ∧ Stacked text last.start more

structure Placed (text : JsString) (marks : Marks) : Prop where
  suffix : ∃ front, text = front ++ marks.rest
  roots : ∀ root ∈ marks.roots, Tidy text 0 text.length root
  stacked : Stacked text (text.length - marks.rest.length) marks.stack

theorem Stacked.later {early late : Nat} {stack : List OpenBrace} (stacked : Stacked text early stack)
    (after : early ≤ late) : Stacked text late stack := by
  cases stack with
  | nil => trivial
  | cons last more =>
    obtain ⟨before, opens, kids, below⟩ := stacked
    refine ⟨by omega, opens, ?_, below⟩
    intro kid member
    exact (kids kid member).widen (le_refl _) after

theorem afterJsonString_suffix {text more : JsString} (after : afterJsonString text = some more) :
    ∃ front, text = front ++ more := by
  fun_induction afterJsonString text with
  | case1 => cases after
  | case2 => cases after
  | case3 mark rest ih =>
    obtain ⟨front, same⟩ := ih after
    exact ⟨0x5C :: mark :: front, by rw [same]; rfl⟩
  | case4 =>
    cases after
    exact ⟨[0x22], rfl⟩
  | case5 unit rest _ _ ih =>
    obtain ⟨front, same⟩ := ih after
    exact ⟨unit :: front, by rw [same]; rfl⟩

theorem getElem_rest {front rest : JsString} {unit : CodeUnit} (suffix : text = front ++ unit :: rest) :
    text[text.length - (rest.length + 1)]? = some unit := by
  have place : text.length - (rest.length + 1) = front.length := by
    rw [suffix, length_append, length_cons]
    omega
  rw [place, suffix, List.getElem?_append_right (Nat.le_refl _), Nat.sub_self]
  rfl

theorem placed_start (text : JsString) : Placed text { rest := text } := by
  constructor
  · exact ⟨[], rfl⟩
  · intro root member
    cases member
  · trivial

theorem placed_step (placed : Placed text marks) (stepped : marks.step text = some next) :
    Placed text next := by
  obtain ⟨⟨front, suffix⟩, roots, stacked⟩ := placed
  unfold step at stepped
  split at stepped
  · cases stepped
  rename_i unit rest goes
  rw [goes] at suffix stacked
  rw [length_cons] at stacked
  have long : rest.length + 1 ≤ text.length := by
    rw [suffix, length_append, length_cons]
    omega
  have here := getElem_rest suffix
  have shorter : ∃ front, text = front ++ rest := ⟨front ++ [unit], by rw [suffix]; simp⟩
  have index : text.length - (rest.length + 1) ≤ text.length - rest.length := by omega
  dsimp only at stepped
  split at stepped
  · obtain ⟨more, after, same⟩ := Option.map_eq_some_iff.mp stepped
    subst same
    obtain ⟨skipped, same⟩ := afterJsonString_suffix after
    constructor
    · exact ⟨front ++ unit :: skipped, by rw [suffix, same]; simp⟩
    · exact roots
    · apply stacked.later
      have shorter := length_afterJsonString after
      dsimp only
      omega
  split at stepped
  · rename_i opens
    subst opens
    cases stepped
    unfold opened
    split
    · exact ⟨shorter, roots, stacked.later index⟩
    · refine ⟨shorter, roots, ?_⟩
      refine ⟨?_, here, ?_, stacked⟩
      · dsimp only
        omega
      · intro kid member
        cases member
  split at stepped
  · rename_i closes
    subst closes
    cases stepped
    unfold closed
    split
    · exact ⟨shorter, roots, stacked.later index⟩
    · split
      · exact ⟨shorter, roots, by rename_i empty; rw [empty]; trivial⟩
      · rename_i last only
        rw [only] at stacked
        obtain ⟨before, opens, kids, _⟩ := stacked
        refine ⟨shorter, ?_, trivial⟩
        intro root member
        rcases mem_append.mp member with old | new
        · exact roots root old
        · cases mem_singleton.mp new
          exact .span (zero_le _) before (sub_le _ _) opens here kids
      · rename_i last parent more deep
        rw [deep] at stacked
        obtain ⟨before, opens, kids, outer, opensOuter, kidsOuter, below⟩ := stacked
        refine ⟨shorter, roots, ?_⟩
        refine ⟨by dsimp only; omega, opensOuter, ?_, below⟩
        intro kid member
        rcases mem_append.mp member with old | new
        · exact (kidsOuter kid old).widen (le_refl _) (by dsimp only; omega)
        · cases mem_singleton.mp new
          exact .span (le_of_lt outer) before index opens here kids
  · cases stepped
    exact ⟨shorter, roots, stacked.later index⟩

theorem placed_reached (reached : marks.Reached text) : Placed text marks := by
  induction reached with
  | refl => exact placed_start text
  | tail _ stepped ih => exact placed_step ih stepped

theorem Stacked.kids {index : Nat} {stack : List OpenBrace} (stacked : Stacked text index stack)
    (inside : index ≤ text.length) {last : OpenBrace} (member : last ∈ stack) {kid : BraceSpan}
    (taken : kid ∈ last.kids) : Tidy text 0 text.length kid := by
  induction stack generalizing index with
  | nil => cases member
  | cons first more ih =>
    obtain ⟨before, _, kids, below⟩ := stacked
    rcases mem_cons.mp member with rfl | later
    · exact (kids kid taken).widen (zero_le _) inside
    · exact ih below (by omega) later

variable {span : BraceSpan}

theorem tidy_all (reached : marks.Reached text) (member : span ∈ marks.all) :
    Tidy text 0 text.length span := by
  obtain ⟨_, roots, stacked⟩ := placed_reached reached
  rcases mem_append.mp member with root | kid
  · exact roots span root
  · obtain ⟨last, held, taken⟩ := mem_flatMap.mp kid
    exact stacked.kids (sub_le _ _) (mem_reverse.mp held) taken

def Holds (marks : Marks) (span : BraceSpan) : Prop := ∃ outer ∈ marks.all, Within span outer

variable (holds : marks.Holds span)

include holds

theorem holds_opened (rest : JsString) (index : Nat) : (marks.opened rest index).Holds span := by
  have same : (marks.opened rest index).all = marks.all := by
    unfold opened all
    split
    · rfl
    · simp
  unfold Holds
  rw [same]
  exact holds

theorem holds_closed (rest : JsString) (index : Nat) : (marks.closed rest index).Holds span := by
  obtain ⟨outer, member, within⟩ := holds
  unfold all at member
  unfold closed
  split
  · exact ⟨outer, member, within⟩
  · split
    · exact ⟨outer, member, within⟩
    · rename_i last only
      rw [only] at member
      rcases mem_append.mp member with root | kid
      · exact ⟨outer, by simp [all, root], within⟩
      · have held : outer ∈ last.kids := by simpa using kid
        exact ⟨_, by simp only [all]; exact mem_append_left _ (mem_append_right _ (mem_singleton_self _)),
          .kid held within⟩
    · rename_i last parent more deep
      rw [deep] at member
      simp only [reverse_cons, flatMap_append, mem_append, flatMap_cons, flatMap_nil, append_nil] at member
      rcases member with root | (below | beside) | kid
      · exact ⟨outer, by simp [all, root], within⟩
      · exact ⟨outer, by
          simp only [all, reverse_cons, flatMap_append, mem_append]
          exact .inr (.inl below), within⟩
      · exact ⟨outer, by simp [all, beside], within⟩
      · exact ⟨_, by
          simp only [all, reverse_cons, flatMap_append, mem_append, flatMap_cons]
          exact .inr (.inr (.inl (.inr (mem_singleton_self _)))), .kid kid within⟩

theorem holds_step (stepped : marks.step text = some next) : next.Holds span := by
  unfold step at stepped
  split at stepped
  · cases stepped
  dsimp only at stepped
  split at stepped
  · obtain ⟨more, _, same⟩ := Option.map_eq_some_iff.mp stepped
    subst same
    exact holds
  split at stepped
  · cases stepped
    exact holds_opened holds _ _
  split at stepped
  · cases stepped
    exact holds_closed holds _ _
  · cases stepped
    exact holds

theorem holds_follows (follows : Relation.ReflTransGen (Follows text) marks final) :
    final.Holds span := by
  induction follows with
  | refl => exact holds
  | tail _ stepped ih => exact holds_step ih stepped

end Marks

end CouncilKit.Data.Json
