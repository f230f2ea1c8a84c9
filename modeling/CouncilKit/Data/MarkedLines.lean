import Mathlib

namespace CouncilKit.Data

open List

/-! A list is read as lines by the places of a mark.  A window from one place to
another delivers a page: a record for each line inside it that gives one, in
the order of the lines.  Windows side by side deliver together what one window
over both does, as long as no line lies across the seam.
-/

variable {α β : Type} {mark : α} {file more : List α} {lo seam hi start stop other last : Nat}

def slice (file : List α) (start stop : Nat) : List α := (file.drop start).take (stop - start)

def Clear (mark : α) (file : List α) (lo hi : Nat) : Prop :=
  ∀ place, lo ≤ place → place < hi → file[place]? ≠ some mark

/-- From `start` up to the next mark, at `stop`. -/
structure EndsLine (mark : α) (file : List α) (start stop : Nat) : Prop where
  order : start ≤ stop
  clear : Clear mark file start stop
  closes : file[stop]? = some mark

structure IsLine (mark : α) (file : List α) (start stop : Nat) : Prop
    extends EndsLine mark file start stop where
  opens : ∀ place, place + 1 = start → file[place]? = some mark

theorem Clear.widen (clear : Clear mark file lo seam) (further : Clear mark file seam hi) :
    Clear mark file lo hi := by
  intro place above below
  by_cases early : place < seam
  · exact clear place above early
  · exact further place (by omega) below

theorem Clear.narrow (clear : Clear mark file lo hi) (above : lo ≤ start) (below : stop ≤ hi) :
    Clear mark file start stop := by
  intro place from_ upTo
  exact clear place (by omega) (by omega)

theorem getElem?_grow {place : Nat} (inside : place < file.length) :
    (file ++ more)[place]? = file[place]? := List.getElem?_append_left inside

theorem slice_grow (inside : stop ≤ file.length) :
    slice (file ++ more) start stop = slice file start stop := by
  rw [slice, slice]
  by_cases early : start ≤ file.length
  · rw [drop_append_of_le_length early, take_append_of_le_length]
    rw [length_drop]
    omega
  · have none_ : stop - start = 0 := by omega
    rw [none_, take_zero, take_zero]

theorem getElem?_slice {place : Nat} (inside : start + place < stop) :
    (slice file start stop)[place]? = file[start + place]? := by
  rw [slice, List.getElem?_take_of_lt (by omega), List.getElem?_drop]

theorem slice_append (early : start ≤ seam) (late : seam ≤ stop) :
    slice file start seam ++ slice file seam stop = slice file start stop := by
  have apart : stop - start = (seam - start) + (stop - seam) := by omega
  have further : file.drop seam = (file.drop start).drop (seam - start) := by
    rw [drop_drop]
    congr 1
    omega
  rw [slice, slice, slice, apart, take_add, ← further]

theorem drop_slice {count : Nat} :
    (slice file start stop).drop count = slice file (start + count) stop := by
  rw [slice, slice, drop_take, drop_drop]
  congr 1
  omega

theorem take_slice {count : Nat} (inside : start + count ≤ stop) :
    (slice file start stop).take count = slice file start (start + count) := by
  rw [slice, slice, take_take]
  congr 1
  omega

theorem length_slice (inside : stop ≤ file.length) : (slice file start stop).length = stop - start := by
  rw [slice, length_take, length_drop]
  omega

theorem clear_of_slice (none_ : mark ∉ slice file start stop) : Clear mark file start stop := by
  intro place above below found
  apply none_
  apply mem_of_getElem? (i := place - start)
  rw [getElem?_slice (by omega), ← found]
  congr 1
  omega

namespace EndsLine

section

variable (ends : EndsLine mark file start stop)

include ends

theorem inside : stop < file.length := by
  by_contra beyond
  have none_ := List.getElem?_eq_none (by omega : file.length ≤ stop)
  rw [ends.closes] at none_
  cases none_

theorem unique (again : EndsLine mark file start other) : stop = other := by
  have first : ¬ stop < other := by
    intro before
    exact again.clear stop ends.order before ends.closes
  have second : ¬ other < stop := by
    intro before
    exact ends.clear other again.order before again.closes
  omega

theorem grow : EndsLine mark (file ++ more) start stop := by
  have within := ends.inside
  refine ⟨ends.order, ?_, ?_⟩
  · intro place above below
    rw [getElem?_grow (by omega)]
    exact ends.clear place above below
  · rw [getElem?_grow within]
    exact ends.closes

end

theorem shrink (ends : EndsLine mark (file ++ more) start stop) (within : stop < file.length) :
    EndsLine mark file start stop := by
  refine ⟨ends.order, ?_, ?_⟩
  · intro place above below
    rw [← @getElem?_grow _ _ more place (by omega)]
    exact ends.clear place above below
  · rw [← @getElem?_grow _ _ more stop within]
    exact ends.closes

theorem of_idxOf [BEq α] [LawfulBEq α] {count : Nat}
    (found : (slice file start last).idxOf? mark = some count) :
    EndsLine mark file start (start + count) ∧ start + count < last := by
  obtain ⟨inside, here, before⟩ := List.findIdx?_eq_some_iff_getElem.mp found
  have within : start + count < last := by
    rw [slice, length_take] at inside
    omega
  refine ⟨⟨by omega, ?_, ?_⟩, within⟩
  · intro place above below marked
    have early : place - start < count := by omega
    apply before (place - start) early
    rw [beq_iff_eq]
    apply Option.some.inj
    rw [← List.getElem?_eq_getElem, getElem?_slice (by omega), ← marked]
    congr 1
    omega
  · rw [← getElem?_slice within, List.getElem?_eq_getElem inside]
    exact congrArg some (eq_of_beq here)

end EndsLine

namespace IsLine

theorem grow (line : IsLine mark file start stop) : IsLine mark (file ++ more) start stop := by
  refine ⟨line.toEndsLine.grow, ?_⟩
  intro place before
  have within := line.inside
  have order := line.order
  rw [getElem?_grow (by omega)]
  exact line.opens place before

theorem shrink (line : IsLine mark (file ++ more) start stop) (within : stop < file.length) :
    IsLine mark file start stop := by
  refine ⟨line.toEndsLine.shrink within, ?_⟩
  intro place before
  have order := line.order
  rw [← @getElem?_grow _ _ more place (by omega)]
  exact line.opens place before

theorem first (line : IsLine mark file start stop) (ends : EndsLine mark file lo last)
    (above : lo ≤ start) (below : stop ≤ last) : start = lo ∧ stop = last := by
  have same : start = lo := by
    by_contra later
    have order := line.order
    exact ends.clear (start - 1) (by omega) (by omega) (line.opens (start - 1) (by omega))
  subst same
  exact ⟨rfl, line.toEndsLine.unique ends⟩

theorem not_across (line : IsLine mark file start stop) (marked : file[seam]? = some mark)
    (before : start ≤ seam) : stop ≤ seam := by
  by_contra beyond
  exact line.clear seam before (by omega) marked

end IsLine

section

variable {Of : β → Nat → List α → Prop} {place : β → Nat} {page rest : List β}

/-- What a window delivers: a record of each line inside that gives one, and
nothing that does not end inside. -/
structure Delivers (Of : β → Nat → List α → Prop) (place : β → Nat) (mark : α) (file : List α)
    (lo hi : Nat) (page : List β) : Prop where
  all : ∀ start stop, IsLine mark file start stop → lo ≤ start → stop < hi →
    (∃ record, Of record start (slice file start stop)) →
    ∃ record ∈ page, Of record start (slice file start stop)
  real : ∀ record ∈ page, lo ≤ place record ∧ ∃ stop < hi,
    EndsLine mark file (place record) stop ∧ Of record (place record) (slice file (place record) stop)
  ordered : page.Pairwise fun left right => place left < place right

/-- No line that gives a record lies across the seam, from `lo` on. -/
def SeamFree (Of : β → Nat → List α → Prop) (mark : α) (file : List α) (lo seam : Nat) : Prop :=
  ∀ start stop, IsLine mark file start stop → lo ≤ start → start < seam → seam ≤ stop →
    ¬ ∃ record, Of record start (slice file start stop)

theorem SeamFree.of_mark (marked : ∀ place, lo ≤ place → place + 1 = seam → file[place]? = some mark) :
    SeamFree Of mark file lo seam := by
  intro start stop line above before beyond
  have below := line.not_across (marked (seam - 1) (by omega) (by omega)) (by omega)
  omega

theorem SeamFree.above (free : SeamFree Of mark file lo seam) (later : lo ≤ other) :
    SeamFree Of mark file other seam := by
  intro start stop line from_ before beyond
  exact free start stop line (by omega) before beyond

theorem SeamFree.self : SeamFree Of mark file lo lo := by
  intro start stop _ above before
  omega

namespace Delivers

theorem nil (clear : Clear mark file lo hi) : Delivers Of place mark file lo hi [] := by
  refine ⟨?_, ?_, List.Pairwise.nil⟩
  · intro start stop line above below
    have order := line.order
    exact absurd line.closes (clear stop (by omega) below)
  · exact forall_mem_nil _

theorem append (first : Delivers Of place mark file lo seam page)
    (second : Delivers Of place mark file seam hi rest) (free : SeamFree Of mark file lo seam)
    (early : lo ≤ seam) (late : seam ≤ hi) : Delivers Of place mark file lo hi (page ++ rest) := by
  refine ⟨?_, ?_, ?_⟩
  · intro start stop line above below given
    by_cases inFirst : stop < seam
    · obtain ⟨record, member, of⟩ := first.all start stop line above inFirst given
      exact ⟨record, mem_append_left _ member, of⟩
    by_cases inSecond : seam ≤ start
    · obtain ⟨record, member, of⟩ := second.all start stop line inSecond below given
      exact ⟨record, mem_append_right _ member, of⟩
    · exact absurd given (free start stop line above (by omega) (by omega))
  · intro record member
    rcases mem_append.mp member with inFirst | inSecond
    · obtain ⟨above, stop, below, ends, of⟩ := first.real record inFirst
      exact ⟨above, stop, by omega, ends, of⟩
    · obtain ⟨above, stop, below, ends, of⟩ := second.real record inSecond
      exact ⟨by omega, stop, below, ends, of⟩
  · apply pairwise_append.mpr
    refine ⟨first.ordered, second.ordered, ?_⟩
    intro left inFirst right inSecond
    obtain ⟨-, stop, below, ends, -⟩ := first.real left inFirst
    have above := (second.real right inSecond).1
    have order := ends.order
    omega

theorem single (ends : EndsLine mark file lo last) {found : Option β}
    (gives : ∀ record, found = some record →
      place record = lo ∧ Of record lo (slice file lo last))
    (whole : (∃ record, Of record lo (slice file lo last)) → found ≠ none) :
    Delivers Of place mark file lo (last + 1) found.toList := by
  refine ⟨?_, ?_, ?_⟩
  · intro start stop line above below given
    obtain ⟨sameStart, sameStop⟩ := line.first ends above (by omega)
    subst sameStart sameStop
    obtain ⟨record, present⟩ := Option.ne_none_iff_exists'.mp (whole given)
    exact ⟨record, by simp [present], (gives record present).2⟩
  · intro record member
    obtain ⟨same, of⟩ := gives record (Option.mem_toList.mp member)
    rw [same]
    exact ⟨Nat.le_refl _, last, by omega, ends, of⟩
  · cases found with
    | none => exact List.Pairwise.nil
    | some record => exact pairwise_singleton _ _

theorem grow (delivers : Delivers Of place mark file lo hi page) (inside : hi ≤ file.length) :
    Delivers Of place mark (file ++ more) lo hi page := by
  refine ⟨?_, ?_, delivers.ordered⟩
  · intro start stop line above below given
    rw [slice_grow (by omega)] at given ⊢
    exact delivers.all start stop (line.shrink (by omega)) above below given
  · intro record member
    obtain ⟨above, stop, below, ends, of⟩ := delivers.real record member
    refine ⟨above, stop, below, ends.grow, ?_⟩
    rw [slice_grow (by omega)]
    exact of

theorem lower (delivers : Delivers Of place mark file seam hi page)
    (below : lo ≤ seam) (none_ : ∀ start stop, IsLine mark file start stop → lo ≤ start →
      start < seam → stop < hi → ¬ ∃ record, Of record start (slice file start stop)) :
    Delivers Of place mark file lo hi page := by
  refine ⟨?_, ?_, delivers.ordered⟩
  · intro start stop line above before given
    by_cases inside : seam ≤ start
    · exact delivers.all start stop line inside before given
    · exact absurd given (none_ start stop line above (by omega) before)
  · intro record member
    obtain ⟨above, found⟩ := delivers.real record member
    exact ⟨by omega, found⟩

theorem upper (delivers : Delivers Of place mark file lo seam page) (above : seam ≤ hi)
    (clear : Clear mark file seam hi) : Delivers Of place mark file lo hi page := by
  refine ⟨?_, ?_, delivers.ordered⟩
  · intro start stop line from_ before given
    have inside : stop < seam := by
      by_contra late
      exact clear stop (by omega) before line.closes
    exact delivers.all start stop line from_ inside given
  · intro record member
    obtain ⟨from_, stop, below, found⟩ := delivers.real record member
    exact ⟨from_, stop, by omega, found⟩

variable (placed : ∀ record start line, Of record start line → place record = start)

include placed

theorem suffix {dropped : List β} {head : β}
    (delivers : Delivers Of place mark file lo hi (dropped ++ head :: rest)) :
    Delivers Of place mark file (place head) hi (head :: rest) := by
  obtain ⟨-, tail, apart⟩ := pairwise_append.mp delivers.ordered
  have least : ∀ record ∈ head :: rest, place head ≤ place record := by
    intro record member
    rcases mem_cons.mp member with same | later
    · exact Nat.le_of_eq (congrArg place same.symm)
    · exact Nat.le_of_lt (rel_of_pairwise_cons tail later)
  have above : lo ≤ place head := (delivers.real head (by simp)).1
  refine ⟨?_, ?_, tail⟩
  · intro start stop line from_ before given
    obtain ⟨record, member, of⟩ := delivers.all start stop line (by omega) before given
    rcases mem_append.mp member with early | late
    · have order := apart record early head mem_cons_self
      have same := placed record start _ of
      omega
    · exact ⟨record, late, of⟩
  · intro record member
    obtain ⟨-, found⟩ := delivers.real record (mem_append_right _ member)
    exact ⟨least record member, found⟩

theorem once (delivers : Delivers Of place mark file lo hi page)
    (line : IsLine mark file start stop) (above : lo ≤ start) (below : stop < hi)
    (given : ∃ record, Of record start (slice file start stop)) :
    ∃ record, Of record start (slice file start stop) ∧
      page.filter (fun record => place record = start) = [record] := by
  obtain ⟨record, member, of⟩ := delivers.all start stop line above below given
  refine ⟨record, of, ?_⟩
  have here := placed record start _ of
  obtain ⟨before, after, split⟩ := append_of_mem member
  have ordered := delivers.ordered
  rw [split] at ordered ⊢
  obtain ⟨-, tail, apart⟩ := pairwise_append.mp ordered
  have early : before.filter (fun record => place record = start) = [] := by
    apply filter_eq_nil_iff.mpr
    intro left inside
    have order := apart left inside record mem_cons_self
    simp only [decide_eq_true_eq]
    omega
  have late : after.filter (fun record => place record = start) = [] := by
    apply filter_eq_nil_iff.mpr
    intro right inside
    have order := rel_of_pairwise_cons tail inside
    simp only [decide_eq_true_eq]
    omega
  rw [filter_append, filter_cons_of_pos (by simpa using here), early, late]
  rfl

end Delivers

end

end CouncilKit.Data
