import CouncilKit.Data.Fallible
import CouncilKit.Review.LedgerFinding

namespace CouncilKit.Review

open Data List Function

inductive GroupAdjudicationKind where
  | duplicate | unsupported | dismissed | still_open_disagreement
deriving DecidableEq

structure FindingGroupAdjudication where
  kind : GroupAdjudicationKind
  reason : JsString
  evidenceHash : Option JsString := none

structure FindingGroup where
  rootCauseId : JsString
  findingIds : List JsString
  aliases : List JsString
  basis : JsString
  adjudication : Option FindingGroupAdjudication := none

structure FindingGroupsFile where
  groups : List FindingGroup

namespace FindingGroupsFile

/-- One group of `rootCauseByFindingId`: members overwrite, aliases fill gaps. -/
def recordGroup (map : JsString → Option JsString) (group : FindingGroup) : JsString → Option JsString :=
  let members := group.findingIds.foldl
    (fun map id => update map id (some group.rootCauseId)) map
  group.aliases.foldl
    (fun map other =>
      if (map other).isSome then map else update map other (some group.rootCauseId))
    members

def rootCauseByFindingId (groups : Option FindingGroupsFile) : JsString → Option JsString :=
  match groups with
  | none => fun _ => none
  | some file => file.groups.foldl recordGroup fun _ => none

def resolveRootCause (findingId : JsString) (groups : Option FindingGroupsFile) : JsString :=
  (rootCauseByFindingId groups findingId).getD findingId

end FindingGroupsFile

/-- The messages of `FindingGroupsError`. -/
inductive FindingGroupsError where
  | conflict (id previous root : JsString)
  | unknownMember (id : JsString)
  | emptyGroup (index : Nat)
  | cycle (root pointed : JsString)
deriving DecidableEq

def FindingGroupsError.message : FindingGroupsError → JsString
  | .conflict id previous root =>
    js "finding-groups conflict: " ++ id ++ js " maps to both " ++ previous ++ js " and " ++ root
  | .unknownMember id => js "finding-groups unknown member: " ++ id
  | .emptyGroup index => js "finding-groups[" ++ .ofNat index ++ js "] has no findingIds"
  | .cycle root pointed => js "finding-groups cycle: " ++ root ++ js " → " ++ pointed

/-- The two maps the validation loop accumulates; `membersOfRoot` keeps the
roots in order of first appearance. -/
structure Claims where
  claimed : JsString → Option JsString
  membersOfRoot : List (JsString × List JsString)

namespace Claims

def empty : Claims := ⟨fun _ => none, []⟩

def claim (group : FindingGroup) (knownIds : Option (JsString → Bool))
    (claimed : JsString → Option JsString) (id : JsString) :
    Except FindingGroupsError (JsString → Option JsString) :=
  match claimed id with
  | some previous =>
    if previous ≠ group.rootCauseId then .error (.conflict id previous group.rootCauseId)
    else known id
  | none => known id
where
  known (id : JsString) : Except FindingGroupsError (JsString → Option JsString) :=
    if knownIds.any fun isKnown => group.findingIds.contains id && !isKnown id then
      .error (.unknownMember id)
    else .ok (update claimed id (some group.rootCauseId))

def addMembers (members : List (JsString × List JsString)) (group : FindingGroup) :
    List (JsString × List JsString) :=
  match members.lookup group.rootCauseId with
  | none => members ++ [(group.rootCauseId, unique group.findingIds)]
  | some bucket => members.map fun entry =>
    if entry.1 = group.rootCauseId then (entry.1, unique (bucket ++ group.findingIds)) else entry

def addGroup (knownIds : Option (JsString → Bool)) (claims : Claims)
    (entry : FindingGroup × Nat) : Except FindingGroupsError Claims := do
  let (group, index) := entry
  let claimed ← (group.findingIds ++ group.aliases).foldlM (claim group knownIds) claims.claimed
  if group.findingIds = [] then .error (.emptyGroup index)
  pure ⟨claimed, addMembers claims.membersOfRoot group⟩

/-- The check after the loop: a root claimed elsewhere must be its own member. -/
def checkRoot (claims : Claims) (entry : JsString × List JsString) : Except FindingGroupsError Unit :=
  match claims.claimed entry.1 with
  | some pointed =>
    if pointed ≠ entry.1 ∧ entry.1 ∉ entry.2 then .error (.cycle entry.1 pointed) else .ok ()
  | none => .ok ()

end Claims

def validateFindingGroups (groups : FindingGroupsFile) (knownIds : Option (JsString → Bool)) :
    Except FindingGroupsError Unit := do
  let claims ← groups.groups.zipIdx.foldlM (Claims.addGroup knownIds) .empty
  claims.membersOfRoot.forM claims.checkRoot

def FindingGroup.named (group : FindingGroup) : List JsString := group.findingIds ++ group.aliases

/-- Members are ledger rows, an id belongs to one root, and a root that is named
anywhere is named by its own group. -/
structure WellGrouped (groups : List FindingGroup) (isKnown : JsString → Bool) : Prop where
  known : ∀ group ∈ groups, ∀ id ∈ group.findingIds, isKnown id = true
  single : ∀ group ∈ groups, ∀ other ∈ groups, ∀ id, id ∈ group.named → id ∈ other.named →
    group.rootCauseId = other.rootCauseId
  rooted : ∀ group ∈ groups, ∀ other ∈ groups, group.rootCauseId ∈ other.named →
    other.rootCauseId = group.rootCauseId

namespace Claims

variable {group : FindingGroup} {isKnown : JsString → Bool}
  {claimed next : JsString → Option JsString} {id : JsString}

theorem claim_ok (stepped : claim group (some isKnown) claimed id = .ok next) :
    (claimed id = none ∨ claimed id = some group.rootCauseId) ∧
      (id ∈ group.findingIds → isKnown id = true) ∧
      next = update claimed id (some group.rootCauseId) := by
  have accepted : claim.known group (some isKnown) claimed id = .ok next →
      (id ∈ group.findingIds → isKnown id = true) ∧
        next = update claimed id (some group.rootCauseId) := by
    intro passed
    simp only [claim.known] at passed
    split at passed
    · contradiction
    · rename_i unrefused
      refine ⟨fun member => ?_, (Except.ok.inj passed).symm⟩
      by_contra unknown
      simp [member, unknown] at unrefused
  cases previous : claimed id with
  | none =>
    simp only [claim, previous] at stepped
    exact ⟨.inl rfl, accepted stepped⟩
  | some root =>
    simp only [claim, previous] at stepped
    split at stepped
    · contradiction
    · rename_i same
      rw [ne_eq, not_not] at same
      exact ⟨.inr (by rw [same]), accepted stepped⟩

theorem claims_ok (folded : group.named.foldlM (claim group (some isKnown)) claimed = .ok next) :
    (∀ id ∈ group.named, next id = some group.rootCauseId ∧
      (claimed id = none ∨ claimed id = some group.rootCauseId) ∧
      (id ∈ group.findingIds → isKnown id = true)) ∧
    ∀ id, id ∉ group.named → next id = claimed id := by
  exact foldlM_invariant
    (fun (done : List JsString) (state : JsString → Option JsString) =>
      (∀ id ∈ done, state id = some group.rootCauseId ∧
        (claimed id = none ∨ claimed id = some group.rootCauseId) ∧
        (id ∈ group.findingIds → isKnown id = true)) ∧
      ∀ id, id ∉ done → state id = claimed id)
    (by
      intro done state turn after held stepped
      obtain ⟨before, known, rfl⟩ := claim_ok stepped
      refine ⟨fun id member => ?_, fun id absent => ?_⟩
      · by_cases same : id = turn
        · subst same
          refine ⟨update_self .., ?_, known⟩
          by_cases earlier : id ∈ done
          · exact (held.1 id earlier).2.1
          · rwa [← held.2 id earlier]
        · have earlier : id ∈ done := by simpa [same] using member
          rw [update_of_ne same]
          exact held.1 id earlier
      · have different : id ≠ turn := by rintro rfl; simp at absent
        rw [update_of_ne different]
        exact held.2 id (by rintro earlier; simp [earlier] at absent))
    ⟨by simp, by simp⟩ folded

theorem mem_addMembers {members : List (JsString × List JsString)}
    {entry : JsString × List JsString} (member : entry ∈ addMembers members group) :
    ∀ id ∈ entry.2, (entry.1 = group.rootCauseId ∧ id ∈ group.findingIds) ∨
      ∃ old ∈ members, old.1 = entry.1 ∧ id ∈ old.2 := by
  intro id inside
  simp only [addMembers] at member
  cases found : members.lookup group.rootCauseId with
  | none =>
    simp only [found, mem_append, mem_singleton] at member
    rcases member with old | rfl
    · exact .inr ⟨entry, old, rfl, inside⟩
    · exact .inl ⟨rfl, mem_unique.mp inside⟩
  | some bucket =>
    simp only [found, mem_map] at member
    obtain ⟨old, oldMember, rfl⟩ := member
    by_cases same : old.1 = group.rootCauseId
    · rw [if_pos same] at inside ⊢
      rcases mem_append.mp (mem_unique.mp inside) with earlier | added
      · obtain ⟨before, after, split, -⟩ := lookup_eq_some_iff.mp found
        refine .inr ⟨(group.rootCauseId, bucket), ?_, same.symm, earlier⟩
        simp [split]
      · exact .inl ⟨same, added⟩
    · rw [if_neg same] at inside ⊢
      exact .inr ⟨old, oldMember, rfl, inside⟩

theorem roots_addMembers (members : List (JsString × List JsString)) (group : FindingGroup) :
    group.rootCauseId ∈ (addMembers members group).map (·.1) ∧
      ∀ root ∈ members.map (·.1), root ∈ (addMembers members group).map (·.1) := by
  simp only [addMembers]
  cases found : members.lookup group.rootCauseId with
  | none => simp +contextual
  | some bucket =>
    have roots : (members.map fun entry =>
        if entry.1 = group.rootCauseId then (entry.1, unique (bucket ++ group.findingIds))
        else entry).map (·.1) = members.map (·.1) := by
      rw [map_map]
      refine map_congr_left fun entry _ => ?_
      simp only [comp_apply]
      split <;> rfl
    obtain ⟨before, after, split, -⟩ := lookup_eq_some_iff.mp found
    simp only [roots]
    exact ⟨by simp [split], fun _ member => member⟩

structure Records (isKnown : JsString → Bool) (done : List FindingGroup) (claims : Claims) :
    Prop where
  claimed : ∀ group ∈ done, ∀ id ∈ group.named, claims.claimed id = some group.rootCauseId
  known : ∀ group ∈ done, ∀ id ∈ group.findingIds, isKnown id = true
  roots : ∀ group ∈ done, group.rootCauseId ∈ claims.membersOfRoot.map (·.1)
  members : ∀ entry ∈ claims.membersOfRoot, ∀ id ∈ entry.2,
    ∃ group ∈ done, group.rootCauseId = entry.1 ∧ id ∈ group.findingIds

theorem addGroup_records {done : List FindingGroup} {claims after : Claims} {index : Nat}
    (records : Records isKnown done claims)
    (stepped : addGroup (some isKnown) claims (group, index) = .ok after) :
    Records isKnown (done ++ [group]) after := by
  simp only [addGroup] at stepped
  rw [except_bind_ok] at stepped
  obtain ⟨claimed, folded, rest⟩ := stepped
  have result : after = ⟨claimed, addMembers claims.membersOfRoot group⟩ := by
    split at rest
    · simp [bind, Except.bind] at rest
    · exact (Except.ok.inj rest).symm
  subst result
  obtain ⟨own, others⟩ := claims_ok folded
  obtain ⟨ownRoot, oldRoots⟩ := roots_addMembers claims.membersOfRoot group
  refine ⟨?_, ?_, ?_, ?_⟩
  · intro member inDone id named
    rcases mem_append.mp inDone with earlier | last
    · have before := records.claimed member earlier id named
      by_cases again : id ∈ group.named
      · have agrees := (own id again).2.1
        rw [before] at agrees
        simp only [reduceCtorEq, false_or] at agrees
        exact (own id again).1.trans agrees.symm
      · exact (others id again).trans before
    · obtain rfl := mem_singleton.mp last
      exact (own id named).1
  · intro member inDone id inside
    rcases mem_append.mp inDone with earlier | last
    · exact records.known member earlier id inside
    · obtain rfl := mem_singleton.mp last
      exact (own id (mem_append_left _ inside)).2.2 inside
  · intro member inDone
    rcases mem_append.mp inDone with earlier | last
    · exact oldRoots _ (records.roots member earlier)
    · obtain rfl := mem_singleton.mp last
      exact ownRoot
  · intro entry inMembers id inside
    rcases mem_addMembers inMembers id inside with ⟨root, added⟩ | ⟨old, oldMember, root, earlier⟩
    · exact ⟨group, by simp, root.symm, added⟩
    · obtain ⟨source, inDone, sourceRoot, sourceMember⟩ := records.members old oldMember id earlier
      exact ⟨source, by simp [inDone], sourceRoot.trans root, sourceMember⟩

end Claims

theorem validateFindingGroups_wellGrouped {file : FindingGroupsFile} {isKnown : JsString → Bool}
    (accepted : validateFindingGroups file (some isKnown) = .ok ()) :
    WellGrouped file.groups isKnown := by
  simp only [validateFindingGroups] at accepted
  rw [except_bind_ok] at accepted
  obtain ⟨claims, folded, roots⟩ := accepted
  have records := foldlM_invariant
    (fun (done : List (FindingGroup × Nat)) state => Claims.Records isKnown (done.map (·.1)) state)
    (fun held stepped => by
      rw [map_append]
      exact Claims.addGroup_records held stepped)
    ⟨by simp, by simp, by simp, by simp [Claims.empty]⟩ folded
  rw [zipIdx_map_fst] at records
  refine ⟨records.known, ?_, ?_⟩
  · intro group member other otherMember id named otherNamed
    have claimed := records.claimed group member id named
    rw [records.claimed other otherMember id otherNamed] at claimed
    exact (Option.some.inj claimed).symm
  · intro group member other otherMember named
    have claimed := records.claimed other otherMember _ named
    obtain ⟨entry, entryMember, root⟩ := mem_map.mp (records.roots group member)
    have checked := forM_ok roots entry entryMember
    rw [← root] at claimed ⊢
    by_contra different
    have own : entry.1 ∈ entry.2 := by
      by_contra outside
      simp [Claims.checkRoot, claimed, different, outside] at checked
    obtain ⟨source, sourceMember, sourceRoot, inside⟩ := records.members entry entryMember _ own
    have self := records.claimed source sourceMember _ (mem_append_left _ inside)
    rw [claimed, sourceRoot] at self
    exact different (Option.some.inj self)

namespace Claims

variable {group : FindingGroup} {isKnown : JsString → Bool} {claimed : JsString → Option JsString}
  {done : List FindingGroup} {claims : Claims}

theorem claims_succeed {ids : List JsString}
    (free : ∀ id ∈ ids, claimed id = none ∨ claimed id = some group.rootCauseId)
    (known : ∀ id ∈ ids, id ∈ group.findingIds → isKnown id = true) :
    ∃ next, ids.foldlM (claim group (some isKnown)) claimed = .ok next ∧
      ∀ id root, next id = some root → claimed id = some root ∨ (id ∈ ids ∧ root = group.rootCauseId) := by
  induction ids generalizing claimed with
  | nil => exact ⟨claimed, rfl, fun _ _ same => Or.inl same⟩
  | cons id rest ih =>
    rw [forall_mem_cons] at free known
    have passed : (some isKnown).any (fun isKnown => group.findingIds.contains id && !isKnown id) =
        false := by
      rw [Option.any_some]
      cases listed : group.findingIds.contains id with
      | false => rfl
      | true => rw [known.1 (contains_iff_mem.mp listed)]; rfl
    have stepped : claim group (some isKnown) claimed id =
        .ok (update claimed id (some group.rootCauseId)) := by
      unfold claim claim.known
      rw [passed]
      cases free.1 with
      | inl fresh => rw [fresh]; rfl
      | inr same => rw [same]; simp
    have later : ∀ other ∈ rest,
        update claimed id (some group.rootCauseId) other = none ∨
          update claimed id (some group.rootCauseId) other = some group.rootCauseId := by
      intro other listed
      by_cases same : other = id
      · subst same
        exact Or.inr (update_self ..)
      · rw [update_of_ne same]
        exact free.2 other listed
    obtain ⟨next, folded, sourced⟩ := ih later known.2
    refine ⟨next, by rw [foldlM_cons, except_bind_ok]; exact ⟨_, stepped, folded⟩, ?_⟩
    intro other root found
    cases sourced other root found with
    | inr inside => exact Or.inr ⟨mem_cons_of_mem _ inside.1, inside.2⟩
    | inl before =>
      by_cases same : other = id
      · subst same
        rw [update_self, Option.some_inj] at before
        exact Or.inr ⟨mem_cons_self, before.symm⟩
      · rw [update_of_ne same] at before
        exact Or.inl before

structure Sourced (done : List FindingGroup) (claims : Claims) : Prop where
  claim : ∀ id root, claims.claimed id = some root →
    ∃ group ∈ done, id ∈ group.named ∧ group.rootCauseId = root
  root : ∀ entry ∈ claims.membersOfRoot, ∃ group ∈ done, group.rootCauseId = entry.1

theorem root_addMembers {members : List (JsString × List JsString)}
    {entry : JsString × List JsString} (member : entry ∈ addMembers members group) :
    entry.1 = group.rootCauseId ∨ ∃ old ∈ members, old.1 = entry.1 := by
  unfold addMembers at member
  split at member
  · cases mem_append.mp member with
    | inl old => exact Or.inr ⟨entry, old, rfl⟩
    | inr last =>
      rw [mem_singleton] at last
      exact Or.inl (by rw [last])
  · obtain ⟨old, listed, rfl⟩ := mem_map.mp member
    right
    refine ⟨old, listed, ?_⟩
    split
    · rfl
    · rfl

theorem addGroup_succeeds {index : Nat} (sourced : Sourced done claims)
    (single : ∀ id ∈ group.named, ∀ other ∈ done, id ∈ other.named → other.rootCauseId = group.rootCauseId)
    (known : ∀ id ∈ group.findingIds, isKnown id = true) (some_ : group.findingIds ≠ []) :
    ∃ after, addGroup (some isKnown) claims (group, index) = .ok after ∧
      Sourced (done ++ [group]) after := by
  have free : ∀ id ∈ group.findingIds ++ group.aliases,
      claims.claimed id = none ∨ claims.claimed id = some group.rootCauseId := by
    intro id named
    cases claimed : claims.claimed id with
    | none => exact Or.inl rfl
    | some root =>
      obtain ⟨other, listed, alsoNamed, same⟩ := sourced.claim id root claimed
      rw [← same, single id named other listed alsoNamed]
      exact Or.inr rfl
  obtain ⟨next, folded, found⟩ := claims_succeed free fun id _ listed => known id listed
  refine ⟨⟨next, addMembers claims.membersOfRoot group⟩, ?_, ?_, ?_⟩
  · unfold addGroup
    rw [except_bind_ok]
    refine ⟨next, folded, ?_⟩
    dsimp only
    rw [if_neg some_]
    rfl
  · intro id root claimed
    cases found id root claimed with
    | inl before =>
      obtain ⟨other, listed, named, same⟩ := sourced.claim id root before
      exact ⟨other, mem_append_left _ listed, named, same⟩
    | inr own => exact ⟨group, mem_append_right _ mem_cons_self, own.1, own.2.symm⟩
  · intro entry member
    cases root_addMembers member with
    | inl own => exact ⟨group, mem_append_right _ mem_cons_self, own.symm⟩
    | inr old =>
      obtain ⟨earlier, listed, same⟩ := old
      obtain ⟨other, among, root⟩ := sourced.root earlier listed
      exact ⟨other, mem_append_left _ among, root.trans same⟩

theorem addGroups_succeed {rest : List FindingGroup} {start : Nat} (sourced : Sourced done claims)
    (grouped : WellGrouped (done ++ rest) isKnown) (some_ : ∀ group ∈ rest, group.findingIds ≠ []) :
    ∃ after, (rest.zipIdx start).foldlM (addGroup (some isKnown)) claims = .ok after ∧
      Sourced (done ++ rest) after := by
  induction rest generalizing done claims start with
  | nil =>
    rw [append_nil]
    exact ⟨claims, rfl, sourced⟩
  | cons group rest ih =>
    rw [forall_mem_cons] at some_
    have here : group ∈ done ++ group :: rest := mem_append_right _ mem_cons_self
    have single : ∀ id ∈ group.named, ∀ other ∈ done, id ∈ other.named →
        other.rootCauseId = group.rootCauseId := by
      intro id named other listed alsoNamed
      exact grouped.single other (mem_append_left _ listed) group here id alsoNamed named
    obtain ⟨next, stepped, longer⟩ :=
      @addGroup_succeeds _ _ _ _ start sourced single (grouped.known group here) some_.1
    have shifted : done ++ group :: rest = (done ++ [group]) ++ rest := by simp
    rw [shifted] at grouped ⊢
    obtain ⟨after, folded, whole⟩ := @ih _ next (start + 1) longer grouped some_.2
    refine ⟨after, ?_, whole⟩
    rw [zipIdx_cons, foldlM_cons, except_bind_ok]
    exact ⟨next, stepped, folded⟩

theorem addGroup_nonempty {index : Nat} {known : Option (JsString → Bool)} {after : Claims}
    (stepped : addGroup known claims (group, index) = .ok after) : group.findingIds ≠ [] := by
  intro empty
  unfold addGroup at stepped
  rw [except_bind_ok] at stepped
  obtain ⟨claimed, -, rest⟩ := stepped
  dsimp only at rest
  rw [if_pos empty] at rest
  cases rest

end Claims

/-- A sidecar is accepted against a ledger exactly when it is well grouped and no group is empty. -/
theorem validateFindingGroups_iff {file : FindingGroupsFile} {isKnown : JsString → Bool} :
    validateFindingGroups file (some isKnown) = .ok () ↔
      WellGrouped file.groups isKnown ∧ ∀ group ∈ file.groups, group.findingIds ≠ [] := by
  constructor
  · intro accepted
    refine ⟨validateFindingGroups_wellGrouped accepted, ?_⟩
    unfold validateFindingGroups at accepted
    rw [except_bind_ok] at accepted
    obtain ⟨claims, folded, -⟩ := accepted
    have nonempty := foldlM_invariant
      (fun (done : List (FindingGroup × Nat)) (_ : Claims) =>
        ∀ entry ∈ done, entry.1.findingIds ≠ [])
      (fun {done} _ turn _ held stepped => by
        intro entry member
        cases mem_append.mp member with
        | inl earlier => exact held entry earlier
        | inr last =>
          rw [mem_singleton.mp last]
          exact Claims.addGroup_nonempty stepped)
      (by intro entry member; cases member) folded
    intro group listed
    have numbered : group ∈ file.groups.zipIdx.map (·.1) := by
      rw [zipIdx_map_fst]
      exact listed
    obtain ⟨entry, member, same⟩ := mem_map.mp numbered
    rw [← same]
    exact nonempty entry member
  · intro given
    obtain ⟨grouped, nonempty⟩ := given
    have start : Claims.Sourced [] Claims.empty := by
      constructor
      · intro id root claimed
        cases claimed
      · intro entry member
        cases member
    obtain ⟨claims, folded, sourced⟩ :=
      @Claims.addGroups_succeed isKnown [] Claims.empty file.groups 0 start grouped nonempty
    unfold validateFindingGroups
    rw [except_bind_ok]
    refine ⟨claims, folded, ?_⟩
    apply forM_succeeds
    intro entry member
    obtain ⟨group, listed, root⟩ := sourced.root entry member
    unfold Claims.checkRoot
    cases claimed : claims.claimed entry.1 with
    | none => rfl
    | some pointed =>
      obtain ⟨other, among, named, same⟩ := sourced.claim entry.1 pointed claimed
      rw [← root] at named
      have own : pointed = entry.1 := by
        rw [← same, ← root]
        exact grouped.rooted group listed other among named
      dsimp only
      rw [if_neg (fun differs => differs.1 own)]

end CouncilKit.Review
