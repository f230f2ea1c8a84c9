import CouncilKit.Review.FindingList
import CouncilKit.Review.LostFindings

namespace CouncilKit.Review.FindingList

open Data Repair List

section Buckets

variable {findings members base : List LedgerFinding} {group : FindingGroup}
  {done : List FindingGroup} {buckets : List RootBucket}

theorem mem_foldl_addMember {row : LedgerFinding} (member : row ∈ members.foldl addMember base) :
    row ∈ base ∨ row ∈ members := by
  induction members generalizing base with
  | nil => exact Or.inl member
  | cons first rest ih =>
    cases ih member with
    | inr later => exact Or.inr (mem_cons_of_mem _ later)
    | inl early =>
      unfold addMember at early
      split at early
      · exact Or.inl early
      · cases mem_append.mp early with
        | inl old => exact Or.inl old
        | inr new => exact Or.inr (mem_singleton.mp new ▸ mem_cons_self)

theorem foldl_addMember_ids (members base : List LedgerFinding) :
    (∀ row ∈ base, row ∈ members.foldl addMember base) ∧
      ∀ row ∈ members, ∃ kept ∈ members.foldl addMember base, kept.id = row.id := by
  induction members generalizing base with
  | nil => exact ⟨fun _ member => member, forall_mem_nil _⟩
  | cons first rest ih =>
    obtain ⟨grows, covers⟩ := ih (addMember base first)
    have old : ∀ row ∈ base, row ∈ addMember base first := by
      intro row member
      unfold addMember
      split
      · exact member
      · exact mem_append_left _ member
    refine ⟨fun row member => grows row (old row member), ?_⟩
    apply forall_mem_cons.mpr ⟨?_, covers⟩
    by_cases known : base.any fun existing => existing.id = first.id
    · obtain ⟨existing, member, same⟩ := any_eq_true.mp known
      exact ⟨existing, grows existing (old existing member), of_decide_eq_true same⟩
    · refine ⟨first, grows first ?_, rfl⟩
      unfold addMember
      rw [if_neg known]
      exact mem_append_right _ mem_cons_self

theorem nodup_foldl_addMember (distinct : (base.map (·.id)).Nodup) :
    ((members.foldl addMember base).map (·.id)).Nodup := by
  induction members generalizing base with
  | nil => exact distinct
  | cons first rest ih =>
    apply ih
    unfold addMember
    split
    · exact distinct
    · rename_i fresh
      rw [map_append, nodup_append]
      refine ⟨distinct, nodup_singleton _, ?_⟩
      intro id member other last same
      obtain ⟨existing, listed, rfl⟩ := mem_map.mp member
      rw [map_singleton, mem_singleton] at last
      apply fresh
      exact any_eq_true.mpr ⟨existing, listed, decide_eq_true (same.trans last)⟩

theorem mem_namedRows {row : LedgerFinding} :
    row ∈ namedRows findings group ↔ row ∈ findings ∧ row.id ∈ group.named := by
  rw [namedRows, mem_filter, contains_iff_mem]

/-- The map `byRoot` after some groups. -/
structure Filled (findings : List LedgerFinding) (done : List FindingGroup)
    (buckets : List RootBucket) : Prop where
  roots : (buckets.map (·.root)).Nodup
  sound : ∀ bucket ∈ buckets, ∀ row ∈ bucket.members, row ∈ findings ∧
    ∃ group ∈ done, group.rootCauseId = bucket.root ∧ row.id ∈ group.named
  covers : ∀ group ∈ done, ∀ row ∈ findings, row.id ∈ group.named →
    ∃ bucket ∈ buckets, bucket.root = group.rootCauseId ∧ ∃ kept ∈ bucket.members, kept.id = row.id
  distinct : (findings.map (·.id)).Nodup → ∀ bucket ∈ buckets, (bucket.members.map (·.id)).Nodup

section

variable (filled : Filled findings done buckets)

include filled

theorem filled_grow : Filled findings (done ++ [group]) (buckets.map fun bucket =>
      if bucket.root = group.rootCauseId then
        { bucket with members := (namedRows findings group).foldl addMember bucket.members }
      else bucket) ∨ ∀ bucket ∈ buckets, bucket.root ≠ group.rootCauseId := by
  by_cases known : ∃ bucket ∈ buckets, bucket.root = group.rootCauseId
  · left
    constructor
    · rw [map_map]
      have same : (buckets.map ((·.root) ∘ fun bucket : RootBucket =>
          if bucket.root = group.rootCauseId then
            { bucket with members := (namedRows findings group).foldl addMember bucket.members }
          else bucket)) = buckets.map (·.root) := by
        apply map_congr_left
        intro bucket _
        rw [Function.comp_apply]
        split
        · rfl
        · rfl
      rw [same]
      exact filled.roots
    · intro bucket member row inside
      obtain ⟨old, listed, rfl⟩ := mem_map.mp member
      have before : ∀ kept ∈ old.members, kept ∈ findings ∧
          ∃ other ∈ done ++ [group], other.rootCauseId = old.root ∧ kept.id ∈ other.named := by
        intro kept present
        obtain ⟨known_, other, among, root, named⟩ := filled.sound old listed kept present
        exact ⟨known_, other, mem_append_left _ among, root, named⟩
      split at inside
      · rename_i root
        rw [if_pos root]
        cases mem_foldl_addMember inside with
        | inl kept => exact before row kept
        | inr added =>
          obtain ⟨present, named⟩ := mem_namedRows.mp added
          exact ⟨present, group, mem_append_right _ mem_cons_self, root.symm, named⟩
      · rename_i root
        rw [if_neg root]
        exact before row inside
    · intro other member row present named
      cases mem_append.mp member with
      | inl earlier =>
        obtain ⟨bucket, listed, root, kept, inside, same⟩ := filled.covers other earlier row present named
        refine ⟨_, mem_map_of_mem listed, ?_, kept, ?_, same⟩
        · split
          · exact root
          · exact root
        · split
          · exact (foldl_addMember_ids _ _).1 kept inside
          · exact inside
      | inr last =>
        rw [mem_singleton] at last
        subst last
        obtain ⟨bucket, listed, root⟩ := known
        refine ⟨_, mem_map_of_mem listed, ?_, ?_⟩
        · rw [if_pos root]
          exact root
        · rw [if_pos root]
          exact (foldl_addMember_ids _ _).2 row (mem_namedRows.mpr ⟨present, named⟩)
    · intro unique_ bucket member
      obtain ⟨old, listed, rfl⟩ := mem_map.mp member
      have before := filled.distinct unique_ old listed
      split
      · exact nodup_foldl_addMember before
      · exact before
  · right
    intro bucket listed root
    exact known ⟨bucket, listed, root⟩

theorem filled_fresh (fresh : ∀ bucket ∈ buckets, bucket.root ≠ group.rootCauseId) :
    Filled findings (done ++ [group])
      (buckets ++ [⟨group.rootCauseId, namedRows findings group, group.basis⟩]) := by
  constructor
  · rw [map_append, nodup_append]
    refine ⟨filled.roots, nodup_singleton _, ?_⟩
    intro root member other last same
    obtain ⟨bucket, listed, rfl⟩ := mem_map.mp member
    rw [map_singleton, mem_singleton] at last
    exact fresh bucket listed (same.trans last)
  · intro bucket member row inside
    cases mem_append.mp member with
    | inl old =>
      obtain ⟨known, other, among, root, named⟩ := filled.sound bucket old row inside
      exact ⟨known, other, mem_append_left _ among, root, named⟩
    | inr new =>
      rw [mem_singleton] at new
      subst new
      obtain ⟨present, named⟩ := mem_namedRows.mp inside
      exact ⟨present, group, mem_append_right _ mem_cons_self, rfl, named⟩
  · intro other member row present named
    cases mem_append.mp member with
    | inl earlier =>
      obtain ⟨bucket, listed, own⟩ := filled.covers other earlier row present named
      exact ⟨bucket, mem_append_left _ listed, own⟩
    | inr last =>
      rw [mem_singleton] at last
      subst last
      exact ⟨_, mem_append_right _ mem_cons_self, rfl, row,
        mem_namedRows.mpr ⟨present, named⟩, rfl⟩
  · intro unique_ bucket member
    cases mem_append.mp member with
    | inl old => exact filled.distinct unique_ bucket old
    | inr new =>
      rw [mem_singleton] at new
      subst new
      exact unique_.sublist (filter_sublist.map _)

theorem filled_idle (idle : namedRows findings group = []) :
    Filled findings (done ++ [group]) buckets := by
  constructor
  · exact filled.roots
  · intro bucket member row inside
    obtain ⟨known, other, among, root, named⟩ := filled.sound bucket member row inside
    exact ⟨known, other, mem_append_left _ among, root, named⟩
  · intro other member row present named
    cases mem_append.mp member with
    | inl earlier => exact filled.covers other earlier row present named
    | inr last =>
      rw [mem_singleton] at last
      subst last
      have listed := mem_namedRows.mpr ⟨present, named⟩
      rw [idle] at listed
      cases listed
  · exact filled.distinct

theorem filled_addBucket :
    Filled findings (done ++ [group]) (addBucket findings buckets group) := by
  unfold addBucket
  dsimp only
  split
  · rename_i idle
    exact filled_idle filled idle
  · split
    · rename_i known
      cases @filled_grow findings group done buckets filled with
      | inl grown => exact grown
      | inr fresh =>
        obtain ⟨bucket, listed, root⟩ := any_eq_true.mp known
        exact absurd (of_decide_eq_true root) (fresh bucket listed)
    · rename_i unknown
      apply filled_fresh filled
      intro bucket listed root
      exact unknown (any_eq_true.mpr ⟨bucket, listed, decide_eq_true root⟩)

theorem filled_foldl (rest : List FindingGroup) :
    Filled findings (done ++ rest) (rest.foldl (addBucket findings) buckets) := by
  induction rest generalizing done buckets with
  | nil =>
    rw [append_nil]
    exact filled
  | cons group rest ih =>
    have stepped := ih (@filled_addBucket findings group done buckets filled)
    rw [append_assoc] at stepped
    exact stepped

end

theorem filled_bucketsByRoot (findings : List LedgerFinding) (groups : Option FindingGroupsFile) :
    Filled findings (groups.elim [] (·.groups)) (bucketsByRoot findings groups) := by
  apply @filled_foldl findings [] []
  constructor
  · exact nodup_nil
  · exact forall_mem_nil _
  · exact forall_mem_nil _
  · intro _
    exact forall_mem_nil _

end Buckets

variable (findings : List LedgerFinding) (groups : Option FindingGroupsFile)

def groupsOf : List FindingGroup := groups.elim [] (·.groups)

def OneRoot : Prop :=
  ∀ group ∈ groupsOf groups, ∀ other ∈ groupsOf groups, ∀ id, id ∈ group.named → id ∈ other.named →
    group.rootCauseId = other.rootCauseId

def SameRoot (a b : LedgerFinding) : Prop :=
  ∃ group ∈ groupsOf groups, ∃ other ∈ groupsOf groups, a.id ∈ group.named ∧ b.id ∈ other.named ∧
    group.rootCauseId = other.rootCauseId

def unnamedRows : List LedgerFinding :=
  findings.filter fun row => !(groupsOf groups).any fun group => group.named.contains row.id

theorem usable_oneRoot (groups : Option FindingGroupsFile) (findings : List LedgerFinding) :
    OneRoot (usableFindingGroups groups findings) := by
  intro group member other among id first second
  cases usable : usableFindingGroups groups findings with
  | none =>
    rw [usable] at member
    cases member
  | some file =>
    rw [usable] at member among
    obtain ⟨-, accepted⟩ := Option.filter_eq_some_iff.mp usable
    split at accepted
    · rename_i checked
      exact (validateFindingGroups_wellGrouped checked).single group member other among id first second
    · cases accepted

theorem mem_unnamedRows {findings : List LedgerFinding} {groups : Option FindingGroupsFile}
    {row : LedgerFinding} : row ∈ unnamedRows findings groups ↔
      row ∈ findings ∧ ∀ group ∈ groupsOf groups, row.id ∉ group.named := by
  rw [unnamedRows, mem_filter, Bool.not_eq_true', any_eq_false]
  simp only [contains_iff_mem]

theorem unclaimedRows_eq :
    unclaimedRows findings (bucketsByRoot findings groups) = unnamedRows findings groups := by
  have filled := filled_bucketsByRoot findings groups
  apply filter_congr
  intro row present
  apply congrArg
  apply Bool.eq_iff_iff.mpr
  rw [any_eq_true, any_eq_true]
  constructor
  · intro claimed
    obtain ⟨bucket, listed, inside⟩ := claimed
    obtain ⟨kept, member, same⟩ := any_eq_true.mp inside
    obtain ⟨-, group, among, -, named⟩ := filled.sound bucket listed kept member
    rw [of_decide_eq_true same] at named
    exact ⟨group, among, contains_iff_mem.mpr named⟩
  · intro found
    obtain ⟨group, among, named⟩ := found
    obtain ⟨bucket, listed, -, kept, member, same⟩ :=
      filled.covers group among row present (contains_iff_mem.mp named)
    exact ⟨bucket, listed, any_eq_true.mpr ⟨kept, member, decide_eq_true same⟩⟩

def Whole : Prop :=
  (findings.map (·.id)).Nodup ∨ groups = none

section Initial

variable {findings : List LedgerFinding} {groups : Option FindingGroupsFile}

theorem eq_of_id {a b : LedgerFinding} (distinct : (findings.map (·.id)).Nodup)
    (first : a ∈ findings) (second : b ∈ findings) (same : a.id = b.id) : a = b :=
  inj_on_of_nodup_map distinct first second same

theorem buckets_separate (oneRoot : OneRoot groups) :
    Separate RootBucket.members (bucketsByRoot findings groups) := by
  have filled := filled_bucketsByRoot findings groups
  have roots := pairwise_map.mp filled.roots
  apply roots.imp_of_mem
  intro left right leftIn rightIn differ row first second
  obtain ⟨-, group, among, root, named⟩ := filled.sound left leftIn row first
  obtain ⟨-, other, alsoAmong, otherRoot, alsoNamed⟩ := filled.sound right rightIn row second
  exact differ (root.symm.trans ((oneRoot group among other alsoAmong _ named alsoNamed).trans otherRoot))

theorem buckets_perm (oneRoot : OneRoot groups) (whole : Whole findings groups) :
    ((bucketsByRoot findings groups).flatMap (·.members) ++ unnamedRows findings groups).Perm findings := by
  cases whole with
  | inr bare =>
    subst bare
    have all : unnamedRows findings none = findings := filter_eq_self.mpr fun _ _ => rfl
    rw [all]
    exact List.Perm.refl _
  | inl distinct =>
    have filled := filled_bucketsByRoot findings groups
    apply (perm_ext_iff_of_nodup ?_ distinct.of_map).mpr
    · intro row
      rw [mem_append, mem_flatMap, mem_unnamedRows]
      constructor
      · intro either
        cases either with
        | inl inside =>
          obtain ⟨bucket, listed, member⟩ := inside
          exact (filled.sound bucket listed row member).1
        | inr outside => exact outside.1
      · intro present
        by_cases named : ∃ group ∈ groupsOf groups, row.id ∈ group.named
        · obtain ⟨group, among, own⟩ := named
          obtain ⟨bucket, listed, -, kept, member, same⟩ := filled.covers group among row present own
          rw [eq_of_id distinct (filled.sound bucket listed kept member).1 present same] at member
          exact Or.inl ⟨bucket, listed, member⟩
        · exact Or.inr ⟨present, fun group among own => named ⟨group, among, own⟩⟩
    · rw [nodup_append]
      refine ⟨?_, distinct.of_map.filter _, ?_⟩
      · rw [nodup_flatMap]
        refine ⟨fun bucket listed => (filled.distinct distinct bucket listed).of_map, ?_⟩
        exact (buckets_separate oneRoot).imp fun free row first second => free row first second
      · intro row inside other outside same
        subst same
        obtain ⟨bucket, listed, member⟩ := mem_flatMap.mp inside
        obtain ⟨-, group, among, -, own⟩ := filled.sound bucket listed row member
        exact (mem_unnamedRows.mp outside).2 group among own

theorem bucket_together {a b : LedgerFinding} (whole : Whole findings groups)
    (first : a ∈ findings) (second : b ∈ findings) :
    Together RootBucket.members (bucketsByRoot findings groups) a b ↔ SameRoot groups a b := by
  have filled := filled_bucketsByRoot findings groups
  constructor
  · intro together
    obtain ⟨bucket, listed, inside, alsoInside⟩ := together
    obtain ⟨-, group, among, root, named⟩ := filled.sound bucket listed a inside
    obtain ⟨-, other, alsoAmong, otherRoot, alsoNamed⟩ := filled.sound bucket listed b alsoInside
    exact ⟨group, among, other, alsoAmong, named, alsoNamed, root.trans otherRoot.symm⟩
  · intro rooted
    obtain ⟨group, among, other, alsoAmong, named, alsoNamed, roots⟩ := rooted
    cases whole with
    | inr bare =>
      subst bare
      cases among
    | inl distinct =>
      obtain ⟨left, leftIn, root, kept, inside, same⟩ := filled.covers group among a first named
      obtain ⟨right, rightIn, otherRoot, alsoKept, alsoInside, alsoSame⟩ :=
        filled.covers other alsoAmong b second alsoNamed
      rw [eq_of_id distinct (filled.sound left leftIn kept inside).1 first same] at inside
      rw [eq_of_id distinct (filled.sound right rightIn alsoKept alsoInside).1 second alsoSame]
        at alsoInside
      have one : left = right :=
        inj_on_of_nodup_map filled.roots leftIn rightIn
          (root.trans (roots.trans otherRoot.symm))
      subst one
      exact ⟨left, leftIn, inside, alsoInside⟩

end Initial

section Problems

variable [Unicode] [Collation] {findings : List LedgerFinding}
  {groups : Option FindingGroupsFile} {sha : Nullish JsString}

theorem toProblem_members (members : List LedgerFinding) (given : ProblemMeta) :
    (toProblem members sha given).members.Perm members := sortLedgerFindings_perm members

theorem joinProblems_members (left right : FindingListProblem) :
    (joinProblems sha left right).members.Perm (left.members ++ right.members) :=
  toProblem_members _ _

theorem bucketProblem_members (bucket : RootBucket) :
    (bucketProblem sha bucket).members.Perm bucket.members := toProblem_members _ _

theorem inferredProblem_members (group : List LedgerFinding) :
    (inferredProblem sha group).members.Perm group := toProblem_members _ _

omit [Unicode] in
theorem sortProblems_perm (problems : List FindingListProblem) : (sortProblems problems).Perm problems := by
  have sorted := (mergeSort_perm problems.zipIdx fun a b => decide (compareProblems a b ≤ 0)).map (·.1)
  rwa [zipIdx_map_fst] at sorted

variable [UnicodeProperties]

theorem separateProblems_eq : separateProblems findings sha groups =
    (bucketsByRoot findings groups).map (bucketProblem sha) ++
      (inferDuplicateGroups (unnamedRows findings groups)).map (inferredProblem sha) := by
  rw [← unclaimedRows_eq]
  rfl

theorem separateProblems_perm : ((separateProblems findings sha groups).flatMap (·.members)).Perm
    ((bucketsByRoot findings groups).flatMap (·.members) ++ unnamedRows findings groups) := by
  rw [separateProblems_eq, flatMap_append, flatMap_map, flatMap_map]
  apply List.Perm.append
  · exact List.Perm.flatMap_left _ fun bucket _ => bucketProblem_members bucket
  · have members := List.Perm.flatMap_left (inferDuplicateGroups (unnamedRows findings groups))
      (g := id) fun group _ => @inferredProblem_members _ _ sha group
    apply members.trans
    rw [flatMap_id]
    exact classes_perm _

variable {a b : LedgerFinding}

theorem together_separateProblems :
    Together FindingListProblem.members (separateProblems findings sha groups) a b ↔
      Together RootBucket.members (bucketsByRoot findings groups) a b ∨
        ∃ group ∈ inferDuplicateGroups (unnamedRows findings groups), a ∈ group ∧ b ∈ group := by
  rw [separateProblems_eq]
  constructor
  · intro together
    obtain ⟨problem, member, first, second⟩ := together
    cases mem_append.mp member with
    | inl old =>
      obtain ⟨bucket, listed, rfl⟩ := mem_map.mp old
      have order := @bucketProblem_members _ _ sha bucket
      exact Or.inl ⟨bucket, listed, order.mem_iff.mp first, order.mem_iff.mp second⟩
    | inr new =>
      obtain ⟨group, listed, rfl⟩ := mem_map.mp new
      have order := @inferredProblem_members _ _ sha group
      exact Or.inr ⟨group, listed, order.mem_iff.mp first, order.mem_iff.mp second⟩
  · intro either
    cases either with
    | inl shared =>
      obtain ⟨bucket, listed, first, second⟩ := shared
      have order := @bucketProblem_members _ _ sha bucket
      exact ⟨_, mem_append_left _ (mem_map_of_mem listed), order.mem_iff.mpr first,
        order.mem_iff.mpr second⟩
    | inr shared =>
      obtain ⟨group, listed, first, second⟩ := shared
      have order := @inferredProblem_members _ _ sha group
      exact ⟨_, mem_append_right _ (mem_map_of_mem listed), order.mem_iff.mpr first,
        order.mem_iff.mpr second⟩

omit [Collation] in
theorem mem_inferred {rows group : List LedgerFinding} {row : LedgerFinding}
    (member : group ∈ inferDuplicateGroups rows) (inside : row ∈ group) : row ∈ rows :=
  (classes_perm rows).mem_iff.mp (mem_flatten.mpr ⟨group, member, inside⟩)

theorem separateProblems_separate (oneRoot : OneRoot groups)
    (equivalent : EquivalentOn isProvenDuplicate (unnamedRows findings groups)) :
    Separate FindingListProblem.members (separateProblems findings sha groups) := by
  unfold Separate
  rw [separateProblems_eq, pairwise_append, pairwise_map, pairwise_map]
  refine ⟨?_, ?_, ?_⟩
  · apply (buckets_separate oneRoot).imp
    intro left right free row first second
    exact free row ((bucketProblem_members left).mem_iff.mp first)
      ((bucketProblem_members right).mem_iff.mp second)
  · apply (classes_classified equivalent).apart.imp_of_mem
    intro left right leftIn _ free row first second
    have here := (inferredProblem_members left).mem_iff.mp first
    have differ := free row here row ((inferredProblem_members right).mem_iff.mp second)
    rw [equivalent.refl row (mem_inferred leftIn here)] at differ
    cases differ
  · intro left leftIn right rightIn row first second
    obtain ⟨bucket, listed, rfl⟩ := mem_map.mp leftIn
    obtain ⟨group, among, rfl⟩ := mem_map.mp rightIn
    have inside := (bucketProblem_members bucket).mem_iff.mp first
    have outside := mem_unnamedRows.mp
      (mem_inferred among ((inferredProblem_members group).mem_iff.mp second))
    obtain ⟨-, own, member, -, named⟩ :=
      (filled_bucketsByRoot findings groups).sound bucket listed row inside
    exact outside.2 own member named

theorem together_start (oneRoot : OneRoot groups) (whole : Whole findings groups)
    (equivalent : EquivalentOn isProvenDuplicate (unnamedRows findings groups)) :
    Together FindingListProblem.members (separateProblems findings sha groups) a b ↔
      a ∈ findings ∧ b ∈ findings ∧ (SameRoot groups a b ∨
        (a ∈ unnamedRows findings groups ∧ b ∈ unnamedRows findings groups ∧
          isProvenDuplicate a b = true)) := by
  rw [together_separateProblems]
  have every := buckets_perm oneRoot whole
  constructor
  · intro either
    cases either with
    | inl shared =>
      have here := shared
      obtain ⟨bucket, listed, first, second⟩ := here
      have filled := filled_bucketsByRoot findings groups
      have known := (filled.sound bucket listed a first).1
      have alsoKnown := (filled.sound bucket listed b second).1
      exact ⟨known, alsoKnown, Or.inl ((bucket_together whole known alsoKnown).mp shared)⟩
    | inr shared =>
      obtain ⟨group, listed, first, second⟩ := shared
      have left := mem_inferred listed first
      have right := mem_inferred listed second
      refine ⟨(mem_unnamedRows.mp left).1, (mem_unnamedRows.mp right).1, Or.inr ⟨left, right, ?_⟩⟩
      exact (classes_classified equivalent).within group listed a first b second
  · intro given
    obtain ⟨known, alsoKnown, either⟩ := given
    cases either with
    | inl rooted => exact Or.inl ((bucket_together whole known alsoKnown).mpr rooted)
    | inr same =>
      obtain ⟨left, right, holds⟩ := same
      exact Or.inr (same_class equivalent left right holds)

theorem separateProblems_blocking : ∀ problem ∈ separateProblems findings sha groups,
    problem.blocking = problem.members.any (isFindingBlocking · sha) := by
  intro problem member
  cases mem_append.mp member with
  | inl old =>
    obtain ⟨bucket, -, rfl⟩ := mem_map.mp old
    rfl
  | inr new =>
    obtain ⟨group, -, rfl⟩ := mem_map.mp new
    rfl

variable {other : List LedgerFinding}

omit [Unicode] [Collation] [UnicodeProperties] in
theorem perm_usable (order : other.Perm findings) :
    usableFindingGroups groups other = usableFindingGroups groups findings := by
  have same : (fun id => other.any fun row => decide (row.id = id)) =
      fun id => findings.any fun row => decide (row.id = id) := by
    funext id
    exact order.any_eq
  unfold usableFindingGroups
  rw [same]

theorem perm_together (order : other.Perm findings)
    (oneRoot : OneRoot groups) (whole : Whole findings groups)
    (equivalent : EquivalentOn isProvenDuplicate (unnamedRows findings groups)) :
    Together FindingListProblem.members (mergeExplicitReferences (separateProblems other sha groups) sha) =
      Together FindingListProblem.members
        (mergeExplicitReferences (separateProblems findings sha groups) sha) := by
  have members : ∀ row, row ∈ unnamedRows other groups ↔ row ∈ unnamedRows findings groups := by
    intro row
    rw [mem_unnamedRows, mem_unnamedRows, order.mem_iff]
  have alsoWhole : Whole other groups := by
    apply whole.imp_left
    intro distinct
    exact (order.map (·.id)).nodup_iff.mpr distinct
  have alsoEquivalent : EquivalentOn isProvenDuplicate (unnamedRows other groups) := by
    constructor
    · intro a first
      exact equivalent.refl a ((members a).mp first)
    · intro a first b second
      exact equivalent.symm a ((members a).mp first) b ((members b).mp second)
    · intro a first b second c third
      exact equivalent.trans a ((members a).mp first) b ((members b).mp second) c ((members c).mp third)
  have start : Together FindingListProblem.members (separateProblems other sha groups) =
      Together FindingListProblem.members (separateProblems findings sha groups) := by
    funext a b
    apply propext
    rw [together_start oneRoot alsoWhole alsoEquivalent, together_start oneRoot whole equivalent,
      order.mem_iff, order.mem_iff, members, members]
  funext a b
  apply propext
  unfold mergeExplicitReferences
  rw [together_mergeLinked_iff joinProblems_members (Nat.le_refl _)
      (separateProblems_separate oneRoot alsoEquivalent),
    together_mergeLinked_iff joinProblems_members (Nat.le_refl _)
      (separateProblems_separate oneRoot equivalent)]
  unfold Bound
  rw [start]

def joinedProblems (findings : List LedgerFinding) (sha : Option JsString)
    (groups : Option FindingGroupsFile) : List FindingListProblem :=
  let sha : Nullish JsString := sha.elim .null .value
  mergeExplicitReferences
    (separateProblems findings sha (usableFindingGroups groups findings)) sha

theorem projectFindingList_perm (findings : List LedgerFinding) (sha : Option JsString)
    (groups : Option FindingGroupsFile) :
    (projectFindingList findings sha groups).problems.Perm (joinedProblems findings sha groups) :=
  sortProblems_perm _

theorem members_perm (findings : List LedgerFinding) (sha : Option JsString)
    (groups : Option FindingGroupsFile) :
    ((projectFindingList findings sha groups).problems.flatMap (·.members)).Perm
      ((bucketsByRoot findings (usableFindingGroups groups findings)).flatMap (·.members) ++
        unnamedRows findings (usableFindingGroups groups findings)) := by
  have sorted := (projectFindingList_perm findings sha groups).flatMap_right FindingListProblem.members
  apply sorted.trans
  exact (mergeLinked_perm joinProblems_members).trans separateProblems_perm

theorem together_project (findings : List LedgerFinding) (sha : Option JsString)
    (groups : Option FindingGroupsFile) (a b : LedgerFinding) :
    Together FindingListProblem.members (projectFindingList findings sha groups).problems a b ↔
      Together FindingListProblem.members (joinedProblems findings sha groups) a b := by
  have order := projectFindingList_perm findings sha groups
  unfold Together
  simp only [order.mem_iff]

/-- Each row of a whole ledger is in one problem, the totals are sums over the problems, no
two problems are linked by a reference, a problem blocks when a member does, and where
`isProvenDuplicate` is an equivalence the order of the rows does not matter. -/
theorem finding_problems (findings : List LedgerFinding) (sha : Option JsString)
    (groups : Option FindingGroupsFile) :
    let list := projectFindingList findings sha groups
    let used := usableFindingGroups groups findings
    (Whole findings used → (list.problems.flatMap (·.members)).Perm findings ∧
      list.originalCount = (list.problems.map (·.members.length)).sum) ∧
    (list.displayCount = list.problems.length ∧ list.blockingCount = list.problems.countP (·.blocking) ∧
      list.pendingCount = list.problems.countP (·.pending) ∧
      list.resolvedCount = list.problems.countP (·.resolved)) ∧
    (list.problems.Pairwise fun left right => ∀ a ∈ left.members, ∀ b ∈ right.members,
      explicitlyReferences a b.id = false ∧ explicitlyReferences b a.id = false) ∧
    (∀ problem ∈ list.problems, problem.blocking = true ↔
      ∃ row ∈ problem.members, isFindingBlocking row (sha.elim .null .value) = true) ∧
    (∀ other : List LedgerFinding, other.Perm findings → Whole findings used →
      EquivalentOn isProvenDuplicate (unnamedRows findings used) →
      ∀ a b, Together FindingListProblem.members (projectFindingList other sha groups).problems a b ↔
        Together FindingListProblem.members list.problems a b) := by
  intro list used
  have oneRoot : OneRoot used := usable_oneRoot groups findings
  refine ⟨?_, ?_, ?_, ?_, ?_⟩
  · intro whole
    have every := (members_perm findings sha groups).trans (buckets_perm oneRoot whole)
    refine ⟨every, ?_⟩
    have size := every.length_eq
    rw [length_flatMap] at size
    exact size.symm
  · have counted : ∀ test : FindingListProblem → Bool,
        (list.problems.filter test).length = list.problems.countP test :=
      fun test => countP_eq_length_filter.symm
    exact ⟨rfl, counted _, counted _, counted _⟩
  · have order := projectFindingList_perm findings sha groups
    have apart : (joinedProblems findings sha groups).Pairwise fun left right =>
        linked FindingListProblem.members (fun a b => explicitlyReferences a b.id) left right = false :=
      mergeLinked_apart joinProblems_members (Nat.le_refl _)
    have sorted := (order.pairwise_iff fun free => linked_comm.trans free).mpr apart
    apply sorted.imp
    intro left right free a first b second
    constructor
    · by_contra refers
      rw [linked_iff.mpr ⟨a, first, b, second, Or.inl (Bool.not_eq_false _ ▸ refers)⟩] at free
      cases free
    · by_contra refers
      rw [linked_iff.mpr ⟨a, first, b, second, Or.inr (Bool.not_eq_false _ ▸ refers)⟩] at free
      cases free
  · intro problem member
    have known := (projectFindingList_perm findings sha groups).mem_iff.mp member
    have blocks := mergeLinked_forall separateProblems_blocking (fun _ _ _ _ _ => rfl) problem known
    rw [blocks, any_eq_true]
  · intro other order whole equivalent a b
    rw [together_project, together_project]
    unfold joinedProblems
    rw [perm_usable order, perm_together order oneRoot whole equivalent]

theorem together_plain (sha : Option JsString)
    (free : ∀ row ∈ findings, ∀ other ∈ findings, explicitlyReferences row other.id = false) :
    Together FindingListProblem.members (projectFindingList findings sha none).problems a b ↔
      ∃ group ∈ inferDuplicateGroups findings, a ∈ group ∧ b ∈ group := by
  have all : unnamedRows findings none = findings := filter_eq_self.mpr fun _ _ => rfl
  have listed : ∀ problem ∈ separateProblems findings (sha.elim .null .value) none,
      ∀ row ∈ problem.members, row ∈ findings := by
    intro problem member row inside
    have present := (@separateProblems_perm _ _ findings none (sha.elim .null .value) _).mem_iff.mp
      (mem_flatMap.mpr ⟨problem, member, inside⟩)
    rw [all] at present
    exact present
  have apart : (separateProblems findings (sha.elim .null .value) none).Pairwise fun left right =>
      linked FindingListProblem.members (fun a b => explicitlyReferences a b.id) left right = false := by
    apply pairwise_of_forall_mem_list
    intro left leftIn right rightIn
    rw [← Bool.not_eq_true, linked_iff]
    intro found
    obtain ⟨row, first, other, second, either⟩ := found
    have here := listed left leftIn row first
    have there := listed right rightIn other second
    rw [free row here other there, free other there row here] at either
    cases either with
    | inl forth => cases forth
    | inr back => cases back
  rw [together_project]
  unfold joinedProblems mergeExplicitReferences
  have none_ : usableFindingGroups none findings = none := rfl
  rw [none_, mergeLinked_free apart, together_separateProblems, all]
  constructor
  · intro either
    cases either with
    | inl shared =>
      obtain ⟨bucket, member, -⟩ := shared
      cases member
    | inr shared => exact shared
  · exact Or.inr

end Problems

section Sample

attribute [local instance] Unicode.ascii UnicodeProperties.ascii Collation.units

def sampleRow (id title : String) : LedgerFinding := {
  id := js id
  severity := .major
  status := .open
  title := js title
  text := js "text"
  source := .unique
  reviewer := none
  files := [] }

def firstRow : LedgerFinding := sampleRow "F-1" "a.ts:1 TOCTOU RACE"

def middleRow : LedgerFinding := sampleRow "F-2" "a.ts:1 b.ts:2 TOCTOU RACE"

def lastRow : LedgerFinding := sampleRow "F-3" "b.ts:2 TOCTOU RACE"

def twoGroups : FindingGroupsFile :=
  ⟨[⟨js "root", [js "F-1"], [], js "basis", none⟩, ⟨js "root", [js "F-2"], [], js "basis", none⟩]⟩

theorem finding_problems_sidecar :
    let groups : FindingGroupsFile := ⟨[⟨js "root", [js "F-3"], [], js "basis", none⟩]⟩
    ((projectFindingList [firstRow, middleRow, lastRow] none (some groups)).problems.flatMap
      (·.members)).Perm [firstRow, middleRow, lastRow] ∧
    ∀ a b, Together FindingListProblem.members
        (projectFindingList [lastRow, middleRow, firstRow] none (some groups)).problems a b ↔
      Together FindingListProblem.members
        (projectFindingList [firstRow, middleRow, lastRow] none (some groups)).problems a b := by
  intro groups
  obtain ⟨once, -, -, -, ordered⟩ :=
    finding_problems [firstRow, middleRow, lastRow] none (some groups)
  have whole : Whole [firstRow, middleRow, lastRow]
      (usableFindingGroups (some groups) [firstRow, middleRow, lastRow]) := by
    left
    decide +kernel
  refine ⟨(once whole).1, ordered _ (by decide +kernel) whole ?_⟩
  constructor
  · decide +kernel
  · decide +kernel
  · decide +kernel

/-- The first row duplicates the middle one and that one the last, so the order decides which
two are one problem; and a row whose id another row has is in no problem at all. -/
theorem order_decides :
    (Together FindingListProblem.members
        (projectFindingList [firstRow, middleRow, lastRow] none none).problems firstRow middleRow ∧
      ¬ Together FindingListProblem.members
        (projectFindingList [middleRow, lastRow, firstRow] none none).problems firstRow middleRow) ∧
    ¬ ((projectFindingList [firstRow, middleRow, sampleRow "F-2" "again"] none
        (some twoGroups)).problems.flatMap (·.members)).Perm
      [firstRow, middleRow, sampleRow "F-2" "again"] := by
  refine ⟨⟨?_, ?_⟩, ?_⟩
  · apply (together_plain none (by decide +kernel)).mpr
    exact ⟨[firstRow, middleRow], by decide +kernel, by decide +kernel, by decide +kernel⟩
  · intro together
    have found := (together_plain none (by decide +kernel)).mp together
    revert found
    decide +kernel
  · intro every
    have members := (members_perm [firstRow, middleRow, sampleRow "F-2" "again"] none
      (some twoGroups)).length_eq
    rw [every.length_eq] at members
    revert members
    decide +kernel

end Sample

end CouncilKit.Review.FindingList
