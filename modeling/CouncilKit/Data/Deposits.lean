import CouncilKit.Data.Grouping

namespace CouncilKit.Data

open List

universe u v w

variable {κ : Type u} {α : Type v} {β : Type w} [DecidableEq κ] [DecidableEq α]

def addNew (values : List α) (value : α) : List α :=
  if value ∈ values then values else values ++ [value]

structure Deposit (κ : Type u) (α : Type v) (β : Type w) where
  key : κ
  members : List α
  others : List α
  note : β

structure Bucket (α : Type v) (β : Type w) where
  members : List α
  others : List α
  note : β

def Bucket.add (bucket : Bucket α β) (entry : Deposit κ α β) : Bucket α β where
  members := entry.members.foldl addNew bucket.members
  others := entry.others.foldl addNew bucket.others
  note := entry.note

def deposit : List (κ × Bucket α β) → Deposit κ α β → List (κ × Bucket α β)
  | [], entry => [(entry.key, Bucket.add ⟨[], [], entry.note⟩ entry)]
  | (key, bucket) :: rest, entry =>
    if key = entry.key then (key, bucket.add entry) :: rest
    else (key, bucket) :: deposit rest entry

def gather (entries : List (Deposit κ α β)) : List (κ × Bucket α β) := entries.foldl deposit []

variable {values more : List α} {value : α} {entry : Deposit κ α β}
  {entries : List (Deposit κ α β)} {buckets : List (κ × Bucket α β)} {key : κ}
  {bucket : Bucket α β}

theorem mem_addNew {other : α} : other ∈ addNew values value ↔ other ∈ values ∨ other = value := by
  unfold addNew
  split
  · rename_i member
    constructor
    · exact Or.inl
    · intro given
      cases given with
      | inl old => exact old
      | inr same => exact same ▸ member
  · rw [mem_append, mem_singleton]

theorem nodup_addNew (distinct : values.Nodup) : (addNew values value).Nodup := by
  unfold addNew
  split
  · exact distinct
  · rename_i fresh
    apply List.Nodup.append distinct (nodup_singleton value)
    intro other old same
    exact fresh (mem_singleton.mp same ▸ old)

theorem mem_foldl_addNew {other : α} :
    other ∈ more.foldl addNew values ↔ other ∈ values ∨ other ∈ more := by
  induction more generalizing values with
  | nil => simp
  | cons first rest ih => rw [foldl_cons, ih, mem_addNew, mem_cons, or_assoc]

theorem nodup_foldl_addNew (distinct : values.Nodup) : (more.foldl addNew values).Nodup := by
  induction more generalizing values with
  | nil => exact distinct
  | cons first rest ih => exact ih (nodup_addNew distinct)

theorem length_eq_unique {all : List α} (distinct : values.Nodup)
    (same : ∀ value, value ∈ values ↔ value ∈ all) : values.length = (unique all).length := by
  have perm : values.Perm (unique all) := by
    apply (perm_ext_iff_of_nodup distinct (nodup_unique all)).mpr
    intro value
    rw [same value, mem_unique]
  exact perm.length_eq

def membersAt (entries : List (Deposit κ α β)) (key : κ) : List α :=
  (entries.filter (·.key = key)).flatMap (·.members)

def othersAt (entries : List (Deposit κ α β)) (key : κ) : List α :=
  (entries.filter (·.key = key)).flatMap (·.others)

omit [DecidableEq α] in
theorem mem_membersAt : value ∈ membersAt entries key ↔
    ∃ entry ∈ entries, entry.key = key ∧ value ∈ entry.members := by
  simp [membersAt, and_assoc]

omit [DecidableEq α] in
theorem mem_othersAt : value ∈ othersAt entries key ↔
    ∃ entry ∈ entries, entry.key = key ∧ value ∈ entry.others := by
  simp [othersAt, and_assoc]

structure Holds (entries : List (Deposit κ α β)) (key : κ) (bucket : Bucket α β) : Prop where
  member : ∀ value, value ∈ bucket.members ↔ value ∈ membersAt entries key
  other : ∀ value, value ∈ bucket.others ↔ value ∈ othersAt entries key
  memberOnce : bucket.members.Nodup
  otherOnce : bucket.others.Nodup
  noted : ∃ entry ∈ entries, entry.key = key ∧ entry.note = bucket.note

omit [DecidableEq α] in
theorem membersAt_append : membersAt (entries ++ [entry]) key =
    membersAt entries key ++ if entry.key = key then entry.members else [] := by
  rw [membersAt, filter_append, flatMap_append, membersAt]
  split
  · rename_i same
    simp [same]
  · rename_i other
    simp [other]

omit [DecidableEq α] in
theorem othersAt_append : othersAt (entries ++ [entry]) key =
    othersAt entries key ++ if entry.key = key then entry.others else [] := by
  rw [othersAt, filter_append, flatMap_append, othersAt]
  split
  · rename_i same
    simp [same]
  · rename_i other
    simp [other]

theorem Holds.add (holds : Holds entries entry.key bucket) :
    Holds (entries ++ [entry]) entry.key (bucket.add entry) where
  member value := by
    rw [membersAt_append, if_pos rfl, mem_append, ← holds.member value, Bucket.add, mem_foldl_addNew]
  other value := by
    rw [othersAt_append, if_pos rfl, mem_append, ← holds.other value, Bucket.add,
      mem_foldl_addNew]
  memberOnce := nodup_foldl_addNew holds.memberOnce
  otherOnce := nodup_foldl_addNew holds.otherOnce
  noted := ⟨entry, mem_append_right _ mem_cons_self, rfl, rfl⟩

omit [DecidableEq α] in
theorem Holds.pass (holds : Holds entries key bucket) (other : entry.key ≠ key) :
    Holds (entries ++ [entry]) key bucket where
  member value := by rw [membersAt_append, if_neg other, append_nil, holds.member value]
  other value := by rw [othersAt_append, if_neg other, append_nil, holds.other value]
  memberOnce := holds.memberOnce
  otherOnce := holds.otherOnce
  noted := by
    obtain ⟨first, listed, same, noted⟩ := holds.noted
    exact ⟨first, mem_append_left _ listed, same, noted⟩

theorem Holds.first (fresh : ∀ other ∈ entries, other.key ≠ entry.key) :
    Holds (entries ++ [entry]) entry.key (Bucket.add ⟨[], [], entry.note⟩ entry) where
  member value := by
    have none_ : value ∉ membersAt entries entry.key := by
      intro member
      obtain ⟨other, listed, same, -⟩ := mem_membersAt.mp member
      exact fresh other listed same
    rw [membersAt_append, if_pos rfl, mem_append, Bucket.add, mem_foldl_addNew]
    simp [none_]
  other value := by
    have none_ : value ∉ othersAt entries entry.key := by
      intro member
      obtain ⟨other, listed, same, -⟩ := mem_othersAt.mp member
      exact fresh other listed same
    rw [othersAt_append, if_pos rfl, mem_append, Bucket.add, mem_foldl_addNew]
    simp [none_]
  memberOnce := nodup_foldl_addNew nodup_nil
  otherOnce := nodup_foldl_addNew nodup_nil
  noted := ⟨entry, mem_append_right _ mem_cons_self, rfl, rfl⟩

theorem keys_deposit : (deposit buckets entry).map (·.1) = addNew (buckets.map (·.1)) entry.key := by
  induction buckets with
  | nil => rfl
  | cons first rest ih =>
    obtain ⟨key, bucket⟩ := first
    rw [deposit]
    split
    · rename_i same
      rw [addNew, if_pos (same ▸ mem_cons_self)]
      rfl
    · rename_i other
      rw [map_cons, ih, map_cons, addNew, addNew]
      split
      · rename_i known
        rw [if_pos (mem_cons_of_mem _ known)]
      · rename_i fresh
        have absent : entry.key ∉ key :: rest.map (·.1) := by
          rw [mem_cons, not_or]
          exact ⟨fun same => other same.symm, fresh⟩
        rw [if_neg absent, cons_append]

theorem holds_deposit (distinct : (buckets.map (·.1)).Nodup)
    (holds : ∀ place ∈ buckets, Holds entries place.1 place.2)
    (covered : ∀ other ∈ entries, other.key = entry.key → entry.key ∈ buckets.map (·.1)) :
    ∀ place ∈ deposit buckets entry, Holds (entries ++ [entry]) place.1 place.2 := by
  induction buckets with
  | nil =>
    intro place member
    rw [deposit, mem_singleton] at member
    subst member
    apply Holds.first
    intro other listed same
    cases covered other listed same
  | cons first rest ih =>
    obtain ⟨key, bucket⟩ := first
    rw [forall_mem_cons] at holds
    rw [map_cons, nodup_cons] at distinct
    rw [deposit]
    split
    · rename_i same
      subst same
      rw [forall_mem_cons]
      refine ⟨holds.1.add, ?_⟩
      intro place member
      apply (holds.2 place member).pass
      intro same
      exact distinct.1 (mem_map.mpr ⟨place, member, same.symm⟩)
    · rename_i other
      rw [forall_mem_cons]
      refine ⟨holds.1.pass fun same => other same.symm, ih distinct.2 holds.2 ?_⟩
      intro earlier listed same
      cases mem_cons.mp (covered earlier listed same) with
      | inl head => exact absurd head.symm other
      | inr later => exact later

theorem keys_foldl :
    (entries.foldl deposit buckets).map (·.1) = (entries.map (·.key)).foldl addNew (buckets.map (·.1)) := by
  induction entries generalizing buckets with
  | nil => rfl
  | cons first rest ih => rw [foldl_cons, ih, keys_deposit, map_cons, foldl_cons]

theorem mem_keys : key ∈ (gather entries).map (·.1) ↔ ∃ entry ∈ entries, entry.key = key := by
  rw [gather, keys_foldl, mem_foldl_addNew, mem_map]
  simp

theorem nodup_keys (entries : List (Deposit κ α β)) : ((gather entries).map (·.1)).Nodup := by
  rw [gather, keys_foldl]
  exact nodup_foldl_addNew nodup_nil

theorem gather_append : gather (entries ++ [entry]) = deposit (gather entries) entry := by
  rw [gather, foldl_append, gather]
  rfl

theorem holds_foldl {done : List (Deposit κ α β)}
    (holds : ∀ place ∈ gather done, Holds done place.1 place.2) :
    ∀ place ∈ gather (done ++ entries), Holds (done ++ entries) place.1 place.2 := by
  induction entries generalizing done with
  | nil =>
    rw [append_nil]
    exact holds
  | cons first rest ih =>
    have stepped : ∀ place ∈ gather (done ++ [first]), Holds (done ++ [first]) place.1 place.2 := by
      rw [gather_append]
      apply holds_deposit (nodup_keys done) holds
      intro other listed same
      exact mem_keys.mpr ⟨other, listed, same⟩
    have whole := ih stepped
    rw [append_assoc, singleton_append] at whole
    exact whole

theorem gather_holds (entries : List (Deposit κ α β)) :
    ∀ place ∈ gather entries, Holds entries place.1 place.2 := by
  have start : ∀ place ∈ gather ([] : List (Deposit κ α β)), Holds [] place.1 place.2 := by
    intro place member
    cases member
  exact @holds_foldl _ _ _ _ _ entries [] start

theorem gather_length (entries : List (Deposit κ α β)) :
    (gather entries).length = (unique (entries.map (·.key))).length := by
  rw [← length_map (·.1)]
  apply length_eq_unique (nodup_keys entries)
  intro key
  rw [mem_keys, mem_map]

theorem Holds.member_length (holds : Holds entries key bucket) :
    bucket.members.length = (unique (membersAt entries key)).length :=
  length_eq_unique holds.memberOnce holds.member

theorem Holds.other_length (holds : Holds entries key bucket) :
    bucket.others.length = (unique (othersAt entries key)).length :=
  length_eq_unique holds.otherOnce holds.other

end CouncilKit.Data
