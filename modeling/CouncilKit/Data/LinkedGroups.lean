import Mathlib

namespace CouncilKit.Data

open List Bool

universe u v

variable {α : Type u} {Γ : Type v}

section Classes

variable (same : α → α → Bool)

def joinClass : List (List α) → α → List (List α)
  | [], item => [[item]]
  | group :: rest, item =>
    if group.all (same · item) then (group ++ [item]) :: rest else group :: joinClass rest item

def classes (items : List α) : List (List α) := items.foldl (joinClass same) []

variable {same} {groups : List (List α)} {item : α}

theorem joinClass_perm (groups : List (List α)) (item : α) :
    (joinClass same groups item).flatten.Perm (groups.flatten ++ [item]) := by
  induction groups with
  | nil => exact List.Perm.refl _
  | cons group rest ih =>
    rw [joinClass, flatten_cons]
    split
    · rw [flatten_cons, append_assoc, append_assoc]
      exact perm_append_comm.append_left _
    · rw [flatten_cons, append_assoc]
      exact ih.append_left _

theorem foldl_joinClass_perm (items : List α) (groups : List (List α)) :
    (items.foldl (joinClass same) groups).flatten.Perm (groups.flatten ++ items) := by
  induction items generalizing groups with
  | nil =>
    rw [append_nil]
    exact List.Perm.refl _
  | cons item rest ih =>
    have step := (@joinClass_perm _ same groups item).append_right rest
    rw [append_assoc] at step
    exact (ih _).trans step

theorem classes_perm (items : List α) : (classes same items).flatten.Perm items :=
  foldl_joinClass_perm items []

/-- Groups whose items are all the same, and differ from those of every other group. -/
structure Classified (same : α → α → Bool) (groups : List (List α)) : Prop where
  within : ∀ group ∈ groups, ∀ a ∈ group, ∀ b ∈ group, same a b = true
  nonempty : ∀ group ∈ groups, group ≠ []
  apart : groups.Pairwise fun left right => ∀ a ∈ left, ∀ b ∈ right, same a b = false

structure EquivalentOn (same : α → α → Bool) (items : List α) : Prop where
  refl : ∀ a ∈ items, same a a = true
  symm : ∀ a ∈ items, ∀ b ∈ items, same a b = true → same b a = true
  trans : ∀ a ∈ items, ∀ b ∈ items, ∀ c ∈ items,
    same a b = true → same b c = true → same a c = true

theorem mem_joinClass {group : List α} (member : group ∈ joinClass same groups item) :
    group ∈ groups ∨ ∃ old, (old = [] ∨ old ∈ groups) ∧ old.all (same · item) = true ∧
      group = old ++ [item] := by
  induction groups with
  | nil => exact Or.inr ⟨[], Or.inl rfl, rfl, mem_singleton.mp member⟩
  | cons first rest ih =>
    rw [joinClass] at member
    split at member
    · rename_i joins
      cases mem_cons.mp member with
      | inl here => exact Or.inr ⟨first, Or.inr mem_cons_self, joins, here⟩
      | inr later => exact Or.inl (mem_cons_of_mem _ later)
    · cases mem_cons.mp member with
      | inl here => exact Or.inl (here ▸ mem_cons_self)
      | inr later =>
        cases ih later with
        | inl old => exact Or.inl (mem_cons_of_mem _ old)
        | inr grown =>
          obtain ⟨old, origin, joins, shape⟩ := grown
          exact Or.inr ⟨old, origin.imp_right (mem_cons_of_mem _), joins, shape⟩

variable {items : List α}

section

variable (equivalent : EquivalentOn same items) (classified : Classified same groups)
  (inside : ∀ group ∈ groups, ∀ a ∈ group, a ∈ items)

include equivalent classified inside

theorem all_same (listed : item ∈ items) {group : List α} (among : group ∈ groups) {a : α}
    (member : a ∈ group) (joins : same a item = true) : group.all (same · item) = true := by
  apply all_eq_true.mpr
  intro b present
  exact equivalent.trans b (inside group among b present) a (inside group among a member) item listed
    (classified.within group among b present a member) joins

theorem joinClass_apart (listed : item ∈ items) :
    (joinClass same groups item).Pairwise fun left right =>
      ∀ a ∈ left, ∀ b ∈ right, same a b = false := by
  induction groups with
  | nil => exact pairwise_singleton _ _
  | cons group rest ih =>
    obtain ⟨first, others⟩ := pairwise_cons.mp classified.apart
    have tail : Classified same rest := by
      constructor
      · intro other among
        exact classified.within other (mem_cons_of_mem _ among)
      · intro other among
        exact classified.nonempty other (mem_cons_of_mem _ among)
      · exact others
    have below := fun other among => inside other (mem_cons_of_mem group among)
    have own := inside group mem_cons_self
    rw [joinClass]
    split
    · rename_i joins
      apply pairwise_cons.mpr ⟨?_, others⟩
      intro other among a member b present
      cases mem_append.mp member with
      | inl earlier => exact first other among a earlier b present
      | inr last =>
        rw [mem_singleton] at last
        subst last
        obtain ⟨c, here⟩ := exists_mem_of_ne_nil group
          (classified.nonempty group mem_cons_self)
        by_contra same_
        rw [not_eq_false] at same_
        have through := equivalent.trans c (own c here) a listed b (below other among b present)
          (all_eq_true.mp joins c here) same_
        rw [first other among c here b present] at through
        cases through
    · rename_i differs
      apply pairwise_cons.mpr ⟨?_, ih tail below⟩
      intro other among a member b present
      cases mem_joinClass among with
      | inl old => exact first other old a member b present
      | inr grown =>
        obtain ⟨old, origin, -, rfl⟩ := grown
        cases mem_append.mp present with
        | inl earlier =>
          cases origin with
          | inl empty =>
            rw [empty] at earlier
            cases earlier
          | inr listed_ => exact first old listed_ a member b earlier
        | inr last =>
          rw [mem_singleton] at last
          subst last
          by_contra same_
          rw [not_eq_false] at same_
          exact differs (all_same equivalent classified inside listed mem_cons_self
            member same_)

theorem joinClass_classified (listed : item ∈ items) :
    Classified same (joinClass same groups item) := by
  refine ⟨?_, ?_, joinClass_apart equivalent classified inside listed⟩
  · intro group member a first b second
    cases mem_joinClass member with
    | inl old => exact classified.within group old a first b second
    | inr grown =>
      obtain ⟨old, origin, joins, rfl⟩ := grown
      have known : ∀ c ∈ old, c ∈ items ∧ same c item = true := by
        intro c present
        refine ⟨?_, all_eq_true.mp joins c present⟩
        cases origin with
        | inl empty =>
          rw [empty] at present
          cases present
        | inr among => exact inside old among c present
      have either : ∀ c ∈ old ++ [item], c ∈ items ∧ same c item = true := by
        intro c present
        cases mem_append.mp present with
        | inl earlier => exact known c earlier
        | inr last =>
          rw [mem_singleton.mp last]
          exact ⟨listed, equivalent.refl item listed⟩
      obtain ⟨here, left⟩ := either a first
      obtain ⟨there, right⟩ := either b second
      exact equivalent.trans a here item listed b there left (equivalent.symm b there item listed right)
  · intro group member
    cases mem_joinClass member with
    | inl old => exact classified.nonempty group old
    | inr grown =>
      obtain ⟨old, -, -, rfl⟩ := grown
      exact append_ne_nil_of_right_ne_nil _ (cons_ne_nil _ _)

theorem foldl_joinClass_classified {rest : List α} (listed : ∀ a ∈ rest, a ∈ items) :
    Classified same (rest.foldl (joinClass same) groups) := by
  induction rest generalizing groups with
  | nil => exact classified
  | cons item rest ih =>
    have here := listed item mem_cons_self
    apply ih (joinClass_classified equivalent classified inside here)
    · intro group member a present
      have through := (@joinClass_perm _ same groups item).mem_iff.mp
        (mem_flatten.mpr ⟨group, member, present⟩)
      cases mem_append.mp through with
      | inl earlier =>
        obtain ⟨old, among, own⟩ := mem_flatten.mp earlier
        exact inside old among a own
      | inr last =>
        rw [mem_singleton.mp last]
        exact here
    · intro a later
      exact listed a (mem_cons_of_mem _ later)

end

theorem classes_classified (equivalent : EquivalentOn same items) :
    Classified same (classes same items) := by
  apply foldl_joinClass_classified equivalent
  · exact ⟨forall_mem_nil _, forall_mem_nil _, List.Pairwise.nil⟩
  · exact forall_mem_nil _
  · exact fun _ member => member

theorem same_class (equivalent : EquivalentOn same items) {a b : α}
    (first : a ∈ items) (second : b ∈ items) (holds : same a b = true) :
    ∃ group ∈ classes same items, a ∈ group ∧ b ∈ group := by
  have classified := classes_classified equivalent
  have order := @classes_perm _ same items
  obtain ⟨left, leftIn, here⟩ := mem_flatten.mp (order.mem_iff.mpr first)
  obtain ⟨right, rightIn, there⟩ := mem_flatten.mp (order.mem_iff.mpr second)
  have known : ∀ group ∈ classes same items, ∀ c ∈ group, c ∈ items := by
    intro group member c inside
    exact order.mem_iff.mp (mem_flatten.mpr ⟨group, member, inside⟩)
  have apart := classified.apart.imp_of_mem (S := fun left right => ∀ c ∈ left, ∀ d ∈ right,
      same c d = false ∧ same d c = false) (by
    intro one other oneIn otherIn free c inOne d inOther
    refine ⟨free c inOne d inOther, ?_⟩
    by_contra back
    rw [not_eq_false] at back
    have forth := equivalent.symm d (known other otherIn d inOther) c (known one oneIn c inOne) back
    rw [free c inOne d inOther] at forth
    cases forth)
  by_cases one : left = right
  · subst one
    exact ⟨left, leftIn, here, there⟩
  · have symmetric : ∀ {one other : List α}, (∀ c ∈ one, ∀ d ∈ other, same c d = false ∧ same d c = false) →
        ∀ c ∈ other, ∀ d ∈ one, same c d = false ∧ same d c = false :=
      fun free c inOther d inOne => (free d inOne c inOther).symm
    have free := (@List.Pairwise.forall _ (fun left right => ∀ c ∈ left, ∀ d ∈ right,
      same c d = false ∧ same d c = false) _ ⟨fun _ _ => symmetric⟩ apart) leftIn rightIn one
    rw [(free a here b there).1] at holds
    cases holds

end Classes

section Links

variable (members : Γ → List α) (link : α → α → Bool) (join : Γ → Γ → Γ)

def refersTo (left right : Γ) : Bool :=
  (members left).any fun a => (members right).any fun b => link a b

def linked (left right : Γ) : Bool :=
  refersTo members link left right || refersTo members link right left

/-- Join the first linked group into `left`: the group joined, and the others. -/
def absorb (left : Γ) : List Γ → Option (Γ × List Γ)
  | [] => none
  | right :: rest =>
    if linked members link left right then some (join left right, rest)
    else (absorb left rest).map fun found => (found.1, right :: found.2)

/-- A group that joins another is looked at again, so every group is joined to all it reaches.
Each round leaves one group fewer, and the fuel is the number of groups. -/
def mergeLinked : Nat → List Γ → List Γ
  | 0, groups => groups
  | _, [] => []
  | fuel + 1, left :: rest =>
    match absorb members link join left rest with
    | some (merged, others) => mergeLinked fuel (merged :: others)
    | none => left :: mergeLinked fuel rest

variable {members link join} {left right merged : Γ} {groups rest others : List Γ} {fuel : Nat}

theorem linked_iff : linked members link left right = true ↔
    ∃ a ∈ members left, ∃ b ∈ members right, link a b = true ∨ link b a = true := by
  simp only [linked, refersTo, or_eq_true, any_eq_true]
  constructor
  · intro either
    cases either with
    | inl forth =>
      obtain ⟨a, first, b, second, holds⟩ := forth
      exact ⟨a, first, b, second, Or.inl holds⟩
    | inr back =>
      obtain ⟨b, second, a, first, holds⟩ := back
      exact ⟨a, first, b, second, Or.inr holds⟩
  · intro found
    obtain ⟨a, first, b, second, holds⟩ := found
    exact holds.imp (fun forth => ⟨a, first, b, second, forth⟩) fun back => ⟨b, second, a, first, back⟩

theorem linked_comm : linked members link left right = linked members link right left :=
  or_comm _ _

theorem absorb_some (found : absorb members link join left rest = some (merged, others)) :
    ∃ right, linked members link left right = true ∧ merged = join left right ∧
      rest.Perm (right :: others) := by
  induction rest generalizing others with
  | nil => cases found
  | cons right rest ih =>
    rw [absorb] at found
    split at found
    · rename_i joins
      cases found
      exact ⟨right, joins, rfl, List.Perm.refl _⟩
    · obtain ⟨inner, deeper, same⟩ := Option.map_eq_some_iff.mp found
      cases same
      obtain ⟨other, joins, shape, order⟩ := ih deeper
      exact ⟨other, joins, shape, (order.cons right).trans (List.Perm.swap other right inner.2)⟩

theorem absorb_none (found : absorb members link join left rest = none) :
    ∀ right ∈ rest, linked members link left right = false := by
  induction rest with
  | nil => exact forall_mem_nil _
  | cons right rest ih =>
    rw [absorb] at found
    split at found
    · cases found
    · rename_i differs
      rw [Option.map_eq_none_iff] at found
      exact forall_mem_cons.mpr ⟨eq_false_iff.mpr differs, ih found⟩

theorem absorb_free (free : ∀ right ∈ rest, linked members link left right = false) :
    absorb members link join left rest = none := by
  induction rest with
  | nil => rfl
  | cons right rest ih =>
    obtain ⟨here, later⟩ := forall_mem_cons.mp free
    rw [absorb, here, ih later]
    rfl

theorem mergeLinked_free
    (free : groups.Pairwise fun left right => linked members link left right = false) :
    mergeLinked members link join fuel groups = groups := by
  induction fuel generalizing groups with
  | zero => rfl
  | succ fuel ih =>
    cases groups with
    | nil => rfl
    | cons left rest =>
      obtain ⟨here, later⟩ := pairwise_cons.mp free
      rw [mergeLinked, absorb_free here, ih later]

theorem mergeLinked_forall {holds : Γ → Prop} (base : ∀ group ∈ groups, holds group)
    (kept : ∀ left right, linked members link left right = true → holds left → holds right →
      holds (join left right)) :
    ∀ group ∈ mergeLinked members link join fuel groups, holds group := by
  induction fuel generalizing groups with
  | zero => exact base
  | succ fuel ih =>
    cases groups with
    | nil => exact forall_mem_nil _
    | cons left rest =>
      obtain ⟨here, later⟩ := forall_mem_cons.mp base
      cases found : absorb members link join left rest with
      | some pair =>
        obtain ⟨right, joins, shape, order⟩ := absorb_some found
        rw [mergeLinked, found]
        apply ih
        obtain ⟨second, remaining⟩ := forall_mem_cons.mp fun group member =>
          later group (order.mem_iff.mpr member)
        apply forall_mem_cons.mpr ⟨?_, remaining⟩
        rw [shape]
        exact kept left right joins here second
      | none =>
        rw [mergeLinked, found]
        exact forall_mem_cons.mpr ⟨here, ih later⟩

section Members

variable (joined : ∀ left right, (members (join left right)).Perm (members left ++ members right))
include joined

theorem mem_join {item : α} :
    item ∈ members (join left right) ↔ item ∈ members left ∨ item ∈ members right := by
  rw [(joined left right).mem_iff, mem_append]

theorem mergeLinked_perm :
    ((mergeLinked members link join fuel groups).flatMap members).Perm (groups.flatMap members) := by
  induction fuel generalizing groups with
  | zero => exact List.Perm.refl _
  | succ fuel ih =>
    cases groups with
    | nil => exact List.Perm.refl _
    | cons left rest =>
      cases found : absorb members link join left rest with
      | some pair =>
        obtain ⟨right, -, shape, order⟩ := absorb_some found
        rw [mergeLinked, found]
        refine ih.trans ?_
        rw [flatMap_cons, flatMap_cons, shape]
        refine ((joined left right).append_right _).trans ?_
        rw [append_assoc]
        have moved := order.flatMap_right members
        rw [flatMap_cons] at moved
        exact moved.symm.append_left _
      | none =>
        rw [mergeLinked, found]
        exact ih.append_left _

theorem linked_join (other : Γ) : linked members link other (join left right) = true ↔
    linked members link other left = true ∨ linked members link other right = true := by
  simp only [linked_iff, mem_join joined]
  constructor
  · intro found
    obtain ⟨a, first, b, second, holds⟩ := found
    exact second.imp (fun inside => ⟨a, first, b, inside, holds⟩) fun inside => ⟨a, first, b, inside, holds⟩
  · intro either
    cases either with
    | inl found =>
      obtain ⟨a, first, b, second, holds⟩ := found
      exact ⟨a, first, b, Or.inl second, holds⟩
    | inr found =>
      obtain ⟨a, first, b, second, holds⟩ := found
      exact ⟨a, first, b, Or.inr second, holds⟩

theorem mergeLinked_apart (enough : groups.length ≤ fuel) :
    (mergeLinked members link join fuel groups).Pairwise fun left right =>
      linked members link left right = false := by
  induction fuel generalizing groups with
  | zero =>
    rw [length_eq_zero_iff.mp (Nat.le_zero.mp enough)]
    exact List.Pairwise.nil
  | succ fuel ih =>
    cases groups with
    | nil => exact List.Pairwise.nil
    | cons left rest =>
      rw [length_cons] at enough
      cases found : absorb members link join left rest with
      | some pair =>
        obtain ⟨right, -, -, order⟩ := absorb_some found
        have size := order.length_eq
        rw [length_cons] at size
        rw [mergeLinked, found]
        apply ih
        rw [length_cons]
        omega
      | none =>
        rw [mergeLinked, found]
        apply pairwise_cons.mpr ⟨?_, ih (by omega)⟩
        apply mergeLinked_forall (absorb_none found)
        intro first second _ free alsoFree
        rw [← not_eq_true, linked_join joined, free, alsoFree]
        simp

def Together (members : Γ → List α) (groups : List Γ) (a b : α) : Prop :=
  ∃ group ∈ groups, a ∈ members group ∧ b ∈ members group

def Separate (members : Γ → List α) (groups : List Γ) : Prop :=
  groups.Pairwise fun left right => ∀ a ∈ members left, a ∉ members right

theorem mergeLinked_separate (separate : Separate members groups) :
    Separate members (mergeLinked members link join fuel groups) := by
  induction fuel generalizing groups with
  | zero => exact separate
  | succ fuel ih =>
    cases groups with
    | nil => exact List.Pairwise.nil
    | cons left rest =>
      obtain ⟨here, later⟩ := pairwise_cons.mp separate
      cases found : absorb members link join left rest with
      | some pair =>
        obtain ⟨right, -, shape, order⟩ := absorb_some found
        have symmetric : ∀ {first second : Γ}, (∀ a ∈ members first, a ∉ members second) →
            ∀ a ∈ members second, a ∉ members first :=
          fun apart a inside outside => apart a outside inside
        obtain ⟨second, remaining⟩ := pairwise_cons.mp
          ((order.pairwise_iff symmetric).mp later)
        rw [mergeLinked, found]
        apply ih
        apply pairwise_cons.mpr ⟨?_, remaining⟩
        intro other among a inside
        rw [shape, mem_join joined] at inside
        cases inside with
        | inl first => exact here other (order.mem_iff.mpr (mem_cons_of_mem _ among)) a first
        | inr last => exact second other among a last
      | none =>
        rw [mergeLinked, found]
        apply pairwise_cons.mpr ⟨?_, ih later⟩
        apply mergeLinked_forall here
        intro first second _ free alsoFree a inside outside
        cases (mem_join joined).mp outside with
        | inl held => exact free a inside held
        | inr held => exact alsoFree a inside held

theorem together_mergeLinked {a b : α} (together : Together members groups a b) :
    Together members (mergeLinked members link join fuel groups) a b := by
  induction fuel generalizing groups with
  | zero => exact together
  | succ fuel ih =>
    cases groups with
    | nil => exact together
    | cons left rest =>
      obtain ⟨group, member, first, second⟩ := together
      cases found : absorb members link join left rest with
      | some pair =>
        obtain ⟨right, -, shape, order⟩ := absorb_some found
        rw [mergeLinked, found]
        apply ih
        have joins : ∀ c, c ∈ members left ∨ c ∈ members right → c ∈ members pair.1 := by
          intro c either
          rw [shape]
          exact (mem_join joined).mpr either
        cases mem_cons.mp member with
        | inl here =>
          subst here
          exact ⟨pair.1, mem_cons_self, joins a (Or.inl first), joins b (Or.inl second)⟩
        | inr later =>
          cases mem_cons.mp (order.mem_iff.mp later) with
          | inl here =>
            subst here
            exact ⟨pair.1, mem_cons_self, joins a (Or.inr first), joins b (Or.inr second)⟩
          | inr other => exact ⟨group, mem_cons_of_mem _ other, first, second⟩
      | none =>
        rw [mergeLinked, found]
        cases mem_cons.mp member with
        | inl here =>
          subst here
          exact ⟨group, mem_cons_self, first, second⟩
        | inr later =>
          obtain ⟨final, among, own⟩ := ih ⟨group, later, first, second⟩
          exact ⟨final, mem_cons_of_mem _ among, own⟩

def Bound (members : Γ → List α) (link : α → α → Bool) (groups : List Γ) (a b : α) : Prop :=
  Together members groups a b ∨
    (Together members groups a a ∧ Together members groups b b ∧ link a b = true)

variable {a b : α}

theorem bound_of_together (together : Together members (mergeLinked members link join fuel groups) a b) :
    Relation.EqvGen (Bound members link groups) a b := by
  have equivalence := Relation.EqvGen.is_equivalence (Bound members link groups)
  have all := @mergeLinked_forall α Γ members link join groups fuel
    (fun group => (∀ a ∈ members group, Together members groups a a) ∧
      ∀ a ∈ members group, ∀ b ∈ members group, Relation.EqvGen (Bound members link groups) a b)
    (by
      intro group member
      constructor
      · intro a inside
        exact ⟨group, member, inside, inside⟩
      · intro a first b second
        exact Relation.EqvGen.rel a b (Or.inl ⟨group, member, first, second⟩))
    (by
      intro left right joins first second
      obtain ⟨c, inLeft, d, inRight, holds⟩ := linked_iff.mp joins
      have bridge : Relation.EqvGen (Bound members link groups) c d := by
        cases holds with
        | inl forth =>
          exact Relation.EqvGen.rel c d (Or.inr ⟨first.1 c inLeft, second.1 d inRight, forth⟩)
        | inr back =>
          apply equivalence.symm
          exact Relation.EqvGen.rel d c (Or.inr ⟨second.1 d inRight, first.1 c inLeft, back⟩)
      constructor
      · intro a inside
        exact ((mem_join joined).mp inside).elim (first.1 a) (second.1 a)
      · intro a here b there
        cases (mem_join joined).mp here with
        | inl low =>
          cases (mem_join joined).mp there with
          | inl alsoLow => exact first.2 a low b alsoLow
          | inr high =>
            exact equivalence.trans (first.2 a low c inLeft)
              (equivalence.trans bridge (second.2 d inRight b high))
        | inr high =>
          cases (mem_join joined).mp there with
          | inl low =>
            exact equivalence.trans (second.2 a high d inRight)
              (equivalence.trans (equivalence.symm bridge) (first.2 c inLeft b low))
          | inr alsoHigh => exact second.2 a high b alsoHigh)
  obtain ⟨group, member, first, second⟩ := together
  exact (all group member).2 a first b second

variable (enough : groups.length ≤ fuel) (separate : Separate members groups)

include enough separate

theorem same_or_together (bound : Relation.EqvGen (Bound members link groups) a b) :
    a = b ∨ Together members (mergeLinked members link join fuel groups) a b := by
  induction bound with
  | rel a b either =>
    right
    cases either with
    | inl shared => exact together_mergeLinked joined shared
    | inr across =>
      obtain ⟨here, there, link_⟩ := across
      obtain ⟨first, firstIn, own, -⟩ := @together_mergeLinked α Γ members link join groups fuel
        joined a a here
      obtain ⟨second, secondIn, other, -⟩ := @together_mergeLinked α Γ members link join groups fuel
        joined b b there
      by_cases same : first = second
      · subst same
        exact ⟨first, firstIn, own, other⟩
      · have symmetric : ∀ {left right : Γ}, linked members link left right = false →
            linked members link right left = false := fun free => linked_comm.trans free
        have free := @List.Pairwise.forall Γ (fun left right => linked members link left right = false) _
          ⟨fun _ _ => symmetric⟩ (mergeLinked_apart joined enough) first firstIn second secondIn same
        have joins := linked_iff.mpr ⟨a, own, b, other, Or.inl link_⟩
        rw [free] at joins
        cases joins
  | refl a => exact Or.inl rfl
  | symm a b _ ih =>
    cases ih with
    | inl same => exact Or.inl same.symm
    | inr together =>
      obtain ⟨group, member, first, second⟩ := together
      exact Or.inr ⟨group, member, second, first⟩
  | trans a b c _ _ first second =>
    cases first with
    | inl same => exact same ▸ second
    | inr before =>
      cases second with
      | inl same => exact Or.inr (same ▸ before)
      | inr after =>
        obtain ⟨left, leftIn, start, middle⟩ := before
        obtain ⟨right, rightIn, again, finish⟩ := after
        by_cases same : left = right
        · subst same
          exact Or.inr ⟨left, leftIn, start, finish⟩
        · have symmetric : ∀ {left right : Γ}, (∀ a ∈ members left, a ∉ members right) →
              ∀ a ∈ members right, a ∉ members left :=
            fun apart a inside outside => apart a outside inside
          have apart := @List.Pairwise.forall Γ
            (fun left right => ∀ a ∈ members left, a ∉ members right) _
            ⟨fun _ _ => symmetric⟩ (@mergeLinked_separate α Γ members link join groups fuel joined separate) left leftIn
            right rightIn same
          exact absurd again (apart b middle)

/-- The groups at the end are the classes that the groups at the start and the links generate. -/
theorem together_mergeLinked_iff :
    Together members (mergeLinked members link join fuel groups) a b ↔
      Together members groups a a ∧ Relation.EqvGen (Bound members link groups) a b := by
  constructor
  · intro together
    refine ⟨?_, bound_of_together joined together⟩
    obtain ⟨group, member, first, -⟩ := together
    have present : a ∈ (mergeLinked members link join fuel groups).flatMap members :=
      mem_flatMap.mpr ⟨group, member, first⟩
    obtain ⟨start, among, inside⟩ := mem_flatMap.mp
      ((mergeLinked_perm joined).mem_iff.mp present)
    exact ⟨start, among, inside, inside⟩
  · intro given
    obtain ⟨present, bound⟩ := given
    cases same_or_together joined enough separate bound with
    | inl same =>
      rw [← same]
      exact together_mergeLinked joined present
    | inr together => exact together

end Members

end Links

end CouncilKit.Data
