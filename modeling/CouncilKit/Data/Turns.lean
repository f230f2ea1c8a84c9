import Mathlib

namespace CouncilKit.Data

open List Option

variable {α β κ : Type*}

def turn (choose : α → List κ → Option β) (key : β → κ) (used : List κ) (agent : α) : List κ :=
  ((choose agent used).map key).toList ++ used

def served (choose : α → List κ → Option β) (key : β → κ) : List α → List κ → List (α × β)
  | [], _ => []
  | agent :: rest, used =>
    ((choose agent used).map (agent, ·)).toList ++ served choose key rest (turn choose key used agent)

def Unspent (choose : α → List κ → Option β) (key : β → κ) : Prop :=
  ∀ agent used item, choose agent used = some item → key item ∉ used

variable {choose : α → List κ → Option β} {key : β → κ} {agents : List α} {used : List κ}

variable {name : κ}

theorem mem_turn {agent : α} :
    name ∈ turn choose key used agent ↔
      name ∈ used ∨ ∃ item, choose agent used = some item ∧ key item = name := by
  simp [turn, or_comm]

theorem served_append (before after : List α) (used : List κ) :
    served choose key (before ++ after) used =
      served choose key before used ++ served choose key after (before.foldl (turn choose key) used) := by
  induction before generalizing used with
  | nil => simp [served]
  | cons agent rest ih => simp [served, ih]

theorem mem_served {agent : α} {item : β} :
    (agent, item) ∈ served choose key agents used ↔ ∃ before after, agents = before ++ agent :: after ∧
      choose agent (before.foldl (turn choose key) used) = some item := by
  constructor
  · intro member
    induction agents generalizing used with
    | nil => simp [served] at member
    | cons first rest ih =>
      simp only [served, mem_append, mem_toList, map_eq_some_iff,
        Prod.mk.injEq] at member
      rcases member with ⟨_, taken, rfl, rfl⟩ | later
      · exact ⟨[], rest, rfl, taken⟩
      · obtain ⟨before, after, rfl, taken⟩ := ih later
        exact ⟨first :: before, after, rfl, taken⟩
  · rintro ⟨before, after, rfl, taken⟩
    simp [served_append, served, taken]

theorem mem_foldl_turn :
    name ∈ agents.foldl (turn choose key) used ↔
      name ∈ used ∨ ∃ pair ∈ served choose key agents used, key pair.2 = name := by
  induction agents generalizing used with
  | nil => simp [served]
  | cons agent rest ih =>
    rw [foldl_cons, ih, mem_turn]
    simp only [served, mem_append, mem_toList, map_eq_some_iff]
    constructor
    · rintro ((start | ⟨item, taken, rfl⟩) | ⟨pair, later, rfl⟩)
      · exact .inl start
      · exact .inr ⟨(agent, item), .inl ⟨item, taken, rfl⟩, rfl⟩
      · exact .inr ⟨pair, .inr later, rfl⟩
    · rintro (start | ⟨pair, ⟨item, taken, rfl⟩ | later, rfl⟩)
      · exact .inl (.inl start)
      · exact .inl (.inr ⟨item, taken, rfl⟩)
      · exact .inr ⟨pair, later, rfl⟩

theorem foldl_turn_mono (member : name ∈ used) :
    name ∈ agents.foldl (turn choose key) used := mem_foldl_turn.mpr (.inl member)

theorem served_keys_nodup (unspent : Unspent choose key) :
    ((served choose key agents used).map fun pair => key pair.2).Nodup ∧
      ∀ pair ∈ served choose key agents used, key pair.2 ∉ used := by
  induction agents generalizing used with
  | nil => simp [served]
  | cons agent rest ih =>
    obtain ⟨nodup, apart⟩ := @ih (turn choose key used agent)
    have later : ∀ pair ∈ served choose key rest (turn choose key used agent),
        key pair.2 ∉ used := fun pair member old =>
      apart pair member (mem_turn.mpr (.inl old))
    cases taken : choose agent used with
    | none =>
      simp only [served, taken, map_none, toList_none, nil_append]
      exact ⟨nodup, later⟩
    | some item =>
      have new : key item ∉ used := unspent agent used item taken
      have other : ∀ pair ∈ served choose key rest (turn choose key used agent), key pair.2 ≠ key item := by
        intro pair member same
        apply apart pair member
        exact mem_turn.mpr (.inr ⟨item, taken, same.symm⟩)
      simp only [served, taken, map_some, toList_some, singleton_append,
        map_cons, nodup_cons, List.mem_map, mem_cons]
      refine ⟨⟨fun ⟨pair, member, same⟩ => other pair member same, nodup⟩, ?_⟩
      rintro pair (rfl | member)
      · exact new
      · exact later pair member

theorem served_once (unspent : Unspent choose key) {first second : α × β}
    (one : first ∈ served choose key agents used) (other : second ∈ served choose key agents used)
    (same : key first.2 = key second.2) : first = second :=
  inj_on_of_nodup_map (served_keys_nodup unspent).1 one other same

theorem find?_drop {queue : List β} {test : β → Bool} {count : Nat} (nodup : queue.Nodup)
    (free : ∀ item ∈ queue, test item = true ↔ item ∉ queue.take count) :
    queue.find? test = queue[count]? := by
  induction queue generalizing count with
  | nil => simp
  | cons first rest ih =>
    rw [nodup_cons] at nodup
    cases count with
    | zero =>
      have open_ : test first = true := (free first mem_cons_self).mpr (by simp)
      simp [open_]
    | succ count =>
      have closed : test first = false := by
        by_contra opened
        exact (free first mem_cons_self).mp (by simpa using opened) (by simp)
      rw [List.find?_cons_of_neg (by simp [closed]), List.getElem?_cons_succ]
      apply ih nodup.2
      intro item member
      rw [free item (mem_cons_of_mem _ member)]
      have different : item ≠ first := fun same => nodup.1 (same ▸ member)
      simp [different]

theorem queue_served [BEq κ] [LawfulBEq κ] {queue : List β} {kind : α → Bool}
    (nodup : (queue.map key).Nodup)
    (inside : ∀ agent used, kind agent = true → choose agent used = queue.find? fun item => key item ∉ used)
    (outside : ∀ agent used item, kind agent = false → choose agent used = some item →
      key item ∉ queue.map key)
    {item : β} (member : item ∈ queue) :
    key item ∈ agents.foldl (turn choose key) [] ↔ item ∈ queue.take (agents.countP kind) := by
  induction agents using List.reverseRecOn generalizing item with
  | nil => simp
  | append_singleton before agent ih =>
    rw [foldl_append, foldl_cons, foldl_nil, mem_turn, ih member,
      countP_append, countP_singleton]
    cases inKind : kind agent with
    | false =>
      have elsewhere : ¬ ∃ taken, choose agent (before.foldl (turn choose key) []) = some taken ∧
          key taken = key item := by
        rintro ⟨taken, chosen, same⟩
        apply outside agent _ taken inKind chosen
        exact mem_map.mpr ⟨item, member, same.symm⟩
      simp [elsewhere]
    | true =>
      have next : choose agent (before.foldl (turn choose key) []) = queue[before.countP kind]? := by
        rw [inside agent _ inKind]
        apply find?_drop (List.Nodup.of_map key nodup)
        intro other present
        rw [decide_eq_true_iff, ih present]
      simp only [next, if_true, take_add_one, mem_append, mem_toList]
      constructor
      · rintro (early | ⟨taken, found, same⟩)
        · exact .inl early
        · have stored := mem_of_getElem? found
          rw [inj_on_of_nodup_map nodup stored member same] at found
          exact .inr found
      · rintro (early | found)
        · exact .inl early
        · exact .inr ⟨item, found, rfl⟩

end CouncilKit.Data
