import CouncilKit.Data.Decimal
import CouncilKit.Data.Grouping
import CouncilKit.Repair.RepairPackage

namespace CouncilKit.Repair

open Data Data.JsString Review List PackageScope

namespace PackageInput

variable {input : PackageInput} {scope : PackageScope} {ledger : PackageLedger} {sha : JsString}

section

variable [Unicode]

structure Scoped (input : PackageInput) (scope : PackageScope) : Prop where
  ledger : input.ledger = some scope.ledger
  sha : scope.ledger.sha.bind fullSha = some scope.sha
  selected : scope.selected.Sublist ((input.planLock.map (·.clusters)).getD [])
  remaining : scope.remaining = PackageInput.remaining scope.ledger
  included : scope.included = scope.remaining.filter fun row =>
    input.cluster.isNone || (scope.selected.flatMap (·.closes)).contains row.id
  filled : scope.included ≠ []

theorem checkLedger_ok (passed : input.checkLedger = .ok (ledger, sha)) :
    input.ledger = some ledger ∧ ledger.sha.bind fullSha = some sha := by
  unfold checkLedger at passed
  split at passed
  · cases passed
  · split at passed
    · cases passed
    · split at passed
      · cases passed
      · rename_i given _ _ known _
        cases passed
        exact ⟨given, known⟩

omit [Unicode] in
theorem checkPlan_ok {selected : List PlanCluster} (passed : input.checkPlan = .ok selected) :
    selected.Sublist ((input.planLock.map (·.clusters)).getD []) := by
  simp only [checkPlan] at passed
  split at passed
  · cases passed
  · split at passed
    · cases passed
      exact List.Sublist.refl _
    · split at passed
      · cases passed
      · cases passed
        exact filter_sublist

theorem scope_ok (passed : input.scope = .ok scope) : input.Scoped scope := by
  unfold PackageInput.scope at passed
  obtain ⟨_, -, passed⟩ := except_bind_ok.mp passed
  obtain ⟨⟨ledger, sha⟩, checked, passed⟩ := except_bind_ok.mp passed
  obtain ⟨_, -, passed⟩ := except_bind_ok.mp passed
  obtain ⟨selected, plan, passed⟩ := except_bind_ok.mp passed
  obtain ⟨_, filled, passed⟩ := except_bind_ok.mp passed
  obtain ⟨given, known⟩ := checkLedger_ok checked
  rw [require_ok] at filled
  cases passed
  exact ⟨given, known, checkPlan_ok plan, rfl, rfl, filled⟩

theorem buildRepairPackage_ok [WebUrl] {package : RepairPackage} :
    input.buildRepairPackage = .ok package ↔ ∃ scope, input.scope = .ok scope ∧
      package = input.assemble scope ∧ package.accepted = true := by
  simp only [buildRepairPackage, except_bind_ok, require_ok, pure, Except.pure, Except.ok.injEq]
  constructor
  · rintro ⟨scope, passed, _, accepted, rfl⟩
    exact ⟨scope, passed, rfl, accepted⟩
  · rintro ⟨scope, passed, rfl, accepted⟩
    exact ⟨scope, passed, (), accepted, rfl⟩

end

theorem mem_mergeDeferred {rows : List Deferral} {taken : List JsString} {id : JsString} :
    id ∈ (mergeDeferred rows taken).map (·.id) ↔ (∃ row ∈ rows, row.id = id) ∧ id ∉ taken := by
  have ids : (mergeDeferred rows taken).map (·.id) =
      unique ((rows.filter fun row => !taken.contains row.id).map (·.id)) := by
    rw [mergeDeferred, map_map]
    exact map_id _
  rw [ids, mem_unique, mem_map]
  simp only [mem_filter, Bool.not_eq_true', contains_eq_mem, decide_eq_false_iff_not]
  constructor
  · rintro ⟨row, ⟨member, free⟩, rfl⟩
    exact ⟨⟨row, member, rfl⟩, free⟩
  · rintro ⟨⟨row, member, rfl⟩, free⟩
    exact ⟨row, ⟨member, free⟩, rfl⟩

def Closed (ledger : PackageLedger) (row : LedgerFinding) : Prop :=
  row.isFindingVerifiedClosed (ledger.sha.elim .null .value) = true

def planDeferralIds (input : PackageInput) (scope : PackageScope) : List JsString :=
  (scope.planDeferrals input.planDeferred).map (·.id)

/-- Every row that is not verified closed is in one of the two lists, and a verified
one in none but for another row of its id or a plan deferral. -/
structure Partitions (input : PackageInput) (scope : PackageScope) (package : RepairPackage) : Prop where
  placed : ∀ row ∈ scope.ledger.findings, ¬ Closed scope.ledger row →
    Xor (row.id ∈ package.findings.map (·.id)) (row.id ∈ package.deferred.map (·.id))
  closed : ∀ row ∈ scope.ledger.findings, Closed scope.ledger row →
    (∀ other ∈ scope.ledger.findings, other.id = row.id → Closed scope.ledger other) →
    row.id ∉ package.findings.map (·.id) ∧
      (row.id ∈ package.deferred.map (·.id) ↔ row.id ∈ input.planDeferralIds scope)
  task : package.findings.map (·.id) = scope.included.map (·.id)

variable {row : LedgerFinding}

theorem accepted_unblocking {sha : Nullish JsString}
    (accepted : row.status = .accepted) : isFindingBlocking row sha = false := by
  simp [isFindingBlocking, accepted]

theorem closed_status (closed : Closed ledger row) : row.status = .closed := by
  unfold Closed LedgerFinding.isFindingVerifiedClosed at closed
  split at closed
  · cases closed
  · simp only [Bool.and_eq_true, beq_iff_eq] at closed
    exact closed.1.1.1.1.1.1

theorem mem_remaining : row ∈ remaining ledger ↔
    row ∈ ledger.findings ∧ ¬ Closed ledger row ∧ row.status ≠ .accepted := by
  simp only [remaining, mem_filter, Bool.and_eq_true, Bool.not_eq_true', Bool.or_eq_true,
    decide_eq_true_eq, Closed, Bool.not_eq_true]
  constructor
  · rintro ⟨member, unclosed, going | blocking⟩
    · exact ⟨member, unclosed, going⟩
    · refine ⟨member, unclosed, fun accepted => ?_⟩
      rw [accepted_unblocking accepted] at blocking
      cases blocking
  · rintro ⟨member, unclosed, going⟩
    exact ⟨member, unclosed, .inl going⟩

theorem findings_ids (input : PackageInput) (scope : PackageScope) :
    (input.assemble scope).findings.map (·.id) = scope.included.map (·.id) := by
  simp only [assemble, map_map]
  rfl

section

variable [Unicode]

theorem Scoped.mem_included (scoped_ : input.Scoped scope) {row : LedgerFinding} :
    row ∈ scope.included ↔ row ∈ scope.ledger.findings ∧ ¬ Closed scope.ledger row ∧
      row.status ≠ .accepted ∧
      (input.cluster.isNone || (scope.selected.flatMap (·.closes)).contains row.id) = true := by
  rw [scoped_.included, mem_filter, scoped_.remaining, mem_remaining]
  simp only [and_assoc]

variable {id : JsString}

section

omit [Unicode]

theorem mem_outOfScope : (∃ row ∈ scope.outOfScope, row.id = id) ↔
    ∃ row ∈ scope.remaining, row ∉ scope.included ∧ row.id = id := by
  simp only [outOfScope, mem_map, mem_filter, Bool.not_eq_true', contains_eq_mem, decide_eq_false_iff_not]
  constructor
  · rintro ⟨_, ⟨row, ⟨remains, outside⟩, rfl⟩, rfl⟩
    exact ⟨row, remains, outside, rfl⟩
  · rintro ⟨row, remains, outside, rfl⟩
    exact ⟨_, ⟨row, ⟨remains, outside⟩, rfl⟩, rfl⟩

theorem mem_acceptedRows : (∃ row ∈ scope.acceptedRows, row.id = id) ↔
    ∃ row ∈ scope.ledger.findings, row.status = .accepted ∧ row.id = id := by
  simp only [acceptedRows, mem_map, mem_filter, Bool.and_eq_true,
    decide_eq_true_eq, Bool.not_eq_true', blocking]
  constructor
  · rintro ⟨_, ⟨row, ⟨member, accepted, -⟩, rfl⟩, rfl⟩
    exact ⟨row, member, accepted, rfl⟩
  · rintro ⟨row, member, accepted, rfl⟩
    exact ⟨_, ⟨row, ⟨member, accepted, accepted_unblocking accepted⟩, rfl⟩, rfl⟩

theorem mem_deferred : id ∈ (input.assemble scope).deferred.map (·.id) ↔
    ((∃ row ∈ scope.remaining, row ∉ scope.included ∧ row.id = id) ∨
      (∃ row ∈ scope.ledger.findings, row.status = .accepted ∧ row.id = id) ∨
      id ∈ input.planDeferralIds scope) ∧ id ∉ scope.included.map (·.id) := by
  have merged : (input.assemble scope).deferred = mergeDeferred
      (scope.outOfScope ++ scope.acceptedRows ++ scope.planDeferrals input.planDeferred)
      ((input.assemble scope).findings.map (·.id)) := rfl
  have named : id ∈ input.planDeferralIds scope ↔
      ∃ row ∈ scope.planDeferrals input.planDeferred, row.id = id := by
    rw [planDeferralIds, mem_map]
  rw [merged, mem_mergeDeferred, findings_ids, ← mem_outOfScope, ← mem_acceptedRows, named]
  simp only [mem_append, or_and_right, exists_or, or_assoc]

end

theorem Scoped.partitions (scoped_ : input.Scoped scope) :
    input.Partitions scope (input.assemble scope) where
  placed row member unclosed := by
    rw [findings_ids]
    by_cases inTask : row.id ∈ scope.included.map (·.id)
    · refine .inl ⟨inTask, fun deferred => ?_⟩
      exact (mem_deferred.mp deferred).2 inTask
    · refine .inr ⟨mem_deferred.mpr ⟨?_, inTask⟩, inTask⟩
      by_cases accepted : row.status = .accepted
      · exact .inr (.inl ⟨row, member, accepted, rfl⟩)
      · have remains : row ∈ scope.remaining := by
          rw [scoped_.remaining, mem_remaining]
          exact ⟨member, unclosed, accepted⟩
        exact .inl ⟨row, remains, fun included => inTask (mem_map_of_mem included), rfl⟩
  closed row member closed alone := by
    have outside : row.id ∉ scope.included.map (·.id) := by
      intro inTask
      obtain ⟨other, included, same⟩ := mem_map.mp inTask
      obtain ⟨inLedger, unclosed, -⟩ := scoped_.mem_included.mp included
      exact unclosed (alone other inLedger same)
    rw [findings_ids, mem_deferred]
    refine ⟨outside, ?_, fun named => ⟨.inr (.inr named), outside⟩⟩
    rintro ⟨⟨other, remains, -, same⟩ | ⟨other, inLedger, accepted, same⟩ | named, -⟩
    · rw [scoped_.remaining, mem_remaining] at remains
      exact absurd (alone other remains.1 same) remains.2.1
    · have closedToo := closed_status (alone other inLedger same)
      rw [accepted] at closedToo
      cases closedToo
    · exact named
  task := findings_ids input scope

end

theorem length_unique_le {α : Type*} [DecidableEq α] (values : List α) :
    (unique values).length ≤ values.length := by
  have among : unique values ⊆ values := fun value member => mem_unique.mp member
  exact (subperm_of_subset (nodup_unique values) among).length_le

theorem length_filters_le {α : Type*} (first second : α → Bool) (rows : List α)
    (apart : ∀ row ∈ rows, first row = true → second row = false) :
    (rows.filter first).length + (rows.filter second).length ≤ rows.length := by
  induction rows with
  | nil => simp
  | cons row rest ih =>
    have later := ih fun other member => apart other (mem_cons_of_mem _ member)
    have here := apart row mem_cons_self
    cases one : first row with
    | true =>
      rw [filter_cons_of_pos one, filter_cons_of_neg (by simp [here one])]
      simp only [length_cons]
      omega
    | false =>
      rw [filter_cons_of_neg (by simp [one])]
      cases two : second row with
      | true =>
        rw [filter_cons_of_pos two]
        simp only [length_cons]
        omega
      | false =>
        rw [filter_cons_of_neg (by simp [two])]
        simp only [length_cons]
        omega

theorem length_mergeDeferred_le (rows : List Deferral) (taken : List JsString) :
    (mergeDeferred rows taken).length ≤ rows.length := by
  rw [mergeDeferred, length_map]
  have kept : (rows.filter fun row => !taken.contains row.id).length ≤ rows.length :=
    length_filter_le _ rows
  have ids := length_unique_le ((rows.filter fun row => !taken.contains row.id).map (·.id))
  rw [length_map] at ids
  omega

theorem mergeDeferred_nodup (rows : List Deferral) (taken : List JsString) :
    ((mergeDeferred rows taken).map (·.id)).Nodup := by
  have ids : (mergeDeferred rows taken).map (·.id) =
      unique ((rows.filter fun row => !taken.contains row.id).map (·.id)) := by
    rw [mergeDeferred, map_map]
    exact map_id _
  rw [ids]
  exact nodup_unique _

def PackageFindingFits (finding : PackageFinding) : Prop :=
  plainText finding.id = true ∧ plainText finding.title = true ∧
    text 400 finding.rootCause = true ∧ text 8000 finding.invariant = true ∧
    plainText finding.evidence = true ∧ finding.files.all repoPath = true ∧
    finding.files.length ≤ 64

/-- The limits that a ledger and a plan can break: plain texts, joined texts and lists
in bounds, and no two rows of the task with one id. -/
structure Fits [WebUrl] (package : RepairPackage) : Prop where
  runId : text 160 package.runId = true
  prUrl : package.prUrl.all httpUrl = true
  findings : ∀ finding ∈ package.findings, PackageFindingFits finding
  distinct : (package.findings.map (·.id)).Nodup
  forbidden : package.forbidden.all plainText = true
  acceptance : package.acceptance.all plainText = true
  tests : package.acceptance.length ≤ 200
  deferred : ∀ row ∈ package.deferred, plainText row.id = true ∧ text 8000 row.reason = true
  size : Json.utf8Length package.json.stringify ≤ 4 * 1024 * 1024

theorem text_iff {most : Nat} {value : JsString} :
    text most value = true ↔ plainText value = true ∧ value.length ≤ most := by
  rw [text, Bool.and_eq_true, decide_eq_true_eq]

theorem within_le {least most : Nat} {value : JsString} (fits : within least most value = true) :
    value.length ≤ most := by
  rw [within, Bool.and_eq_true, decide_eq_true_eq, decide_eq_true_eq] at fits
  exact fits.2

structure RowBounds (row : LedgerFinding) : Prop where
  id : row.id.length ≤ 160
  title : row.title.length ≤ 400
  text : row.text.length ≤ 8000

theorem rowBounds (accepted : ledgerFindingAccepted row = true) :
    RowBounds row := by
  simp only [ledgerFindingAccepted, Bool.and_eq_true] at accepted
  obtain ⟨⟨⟨⟨⟨⟨⟨⟨⟨⟨id, title⟩, text⟩, -⟩, -⟩, -⟩, -⟩, -⟩, -⟩, -⟩, -⟩ := accepted
  exact ⟨within_le id, within_le title, within_le text⟩

structure ClusterBounds (cluster : PlanCluster) : Prop where
  gates : ∀ gate ∈ cluster.gates, gate.length ≤ 400
  forbidden : cluster.forbidden.length ≤ 2000
  tests : cluster.tests.length ≤ 2000

theorem clusterBounds {cluster : PlanCluster} (accepted : cluster.accepted = true) :
    ClusterBounds cluster := by
  simp only [PlanCluster.accepted, Bool.and_eq_true, all_eq_true] at accepted
  obtain ⟨⟨⟨⟨-, ⟨gates, -⟩⟩, -⟩, forbidden⟩, tests⟩ := accepted
  exact ⟨fun gate member => within_le (gates gate member), within_le forbidden, within_le tests⟩

structure Bounds (input : PackageInput) (scope : PackageScope) : Prop where
  rows : ∀ row ∈ scope.ledger.findings, RowBounds row
  count : scope.ledger.findings.length ≤ 200
  clusters : ∀ cluster ∈ scope.selected, ClusterBounds cluster
  selected : scope.selected.length ≤ 32
  deferrals : input.planDeferred.length ≤ 64

section

variable [Unicode]

theorem Scoped.bounds (scoped_ : input.Scoped scope) (ledger : input.ledger.all (·.accepted) = true)
    (plan : input.planLock.all (·.accepted) = true) : input.Bounds scope := by
  rw [scoped_.ledger, Option.all_some] at ledger
  simp only [PackageLedger.accepted, Bool.and_eq_true, all_eq_true, decide_eq_true_eq] at ledger
  obtain ⟨⟨-, rows⟩, count⟩ := ledger
  have sub := scoped_.selected
  cases given : input.planLock with
  | none =>
    rw [given] at sub
    have none_ : scope.selected = [] := sublist_nil.mp sub
    refine ⟨fun row member => rowBounds (rows row member), count, ?_, ?_, ?_⟩
    · rw [none_]
      intro cluster member
      cases member
    · rw [none_]
      exact Nat.zero_le 32
    · rw [planDeferred, given]
      exact Nat.zero_le 64
  | some lock =>
    rw [given] at sub plan
    simp only [Option.all_some, PlanLock.accepted, Bool.and_eq_true, all_eq_true, decide_eq_true_eq] at plan
    obtain ⟨⟨-, clusters, few⟩, -, deferred⟩ := plan
    refine ⟨fun row member => rowBounds (rows row member), count, ?_, ?_, ?_⟩
    · exact fun cluster member => clusterBounds (clusters cluster (sub.subset member))
    · exact sub.length_le.trans few
    · rw [planDeferred, given]
      exact deferred

theorem Scoped.sha_full (scoped_ : input.Scoped scope) : FULL_COMMIT_SHA scope.sha = true := by
  obtain ⟨raw, -, full⟩ := Option.bind_eq_some_iff.mp scoped_.sha
  rw [fullSha] at full
  split at full
  · rename_i hex
    rw [← Option.some.inj full]
    exact FULL_COMMIT_SHA_toLowerCase hex
  · cases full

end

section

variable (bounds : input.Bounds scope)

include bounds

theorem packageFinding_accepted (groups : Option FindingGroupsFile) {row : LedgerFinding}
    (member : row ∈ scope.ledger.findings) : (scope.packageFinding groups row).accepted = true ↔
      PackageFindingFits (scope.packageFinding groups row) := by
  have own := bounds.rows row member
  have evidence : (scope.packageFinding groups row).evidence.length ≤ 8000 := by
    simp only [packageFinding]
    split
    · exact (length_trim_le _).trans own.text
    · exact own.title.trans (by omega)
  have id : (scope.packageFinding groups row).id.length ≤ 160 := own.id
  have title : (scope.packageFinding groups row).title.length ≤ 400 := own.title
  simp only [PackageFinding.accepted, PackageFindingFits, Bool.and_eq_true, decide_eq_true_eq]
  constructor
  · rintro ⟨⟨⟨⟨⟨plainId, plainTitle⟩, root⟩, invariant⟩, plainEvidence⟩, paths, few⟩
    exact ⟨(text_iff.mp plainId).1, (text_iff.mp plainTitle).1, root, invariant,
      (text_iff.mp plainEvidence).1, paths, few⟩
  · rintro ⟨plainId, plainTitle, root, invariant, plainEvidence, paths, few⟩
    exact ⟨⟨⟨⟨⟨text_iff.mpr ⟨plainId, id⟩, text_iff.mpr ⟨plainTitle, title⟩⟩, root⟩, invariant⟩,
      text_iff.mpr ⟨plainEvidence, evidence⟩⟩, paths, few⟩

theorem forbidden_bounds : (input.assemble scope).forbidden.length ≤ 200 ∧
    ∀ entry ∈ (input.assemble scope).forbidden, entry.length ≤ 8000 := by
  have selected := bounds.selected
  have count := length_unique_le (js "未经单独授权不得 push、合并 PR、访问生产或扩大修改范围。" ::
    (scope.selected.map fun cluster => trim cluster.forbidden).filter (· ≠ []))
  have kept := length_filter_le (fun entry : JsString => decide (entry ≠ []))
    (scope.selected.map fun cluster => trim cluster.forbidden)
  rw [length_map] at kept
  rw [length_cons] at count
  refine ⟨?_, fun entry member => ?_⟩
  · change (unique _).length ≤ 200
    omega
  · rcases mem_cons.mp (mem_unique.mp member) with fixed | given
    · rw [fixed]
      decide
    · obtain ⟨cluster, among, rfl⟩ := mem_map.mp (mem_of_mem_filter given)
      have own := (bounds.clusters cluster among).forbidden
      have trimmed := length_trim_le cluster.forbidden
      omega

theorem acceptance_bounds : ∀ entry ∈ (input.assemble scope).acceptance, entry.length ≤ 8000 := by
  intro entry member
  rcases mem_cons.mp (mem_unique.mp member) with fixed | later
  · rw [fixed]
    decide
  · rcases mem_cons.mp later with fixed | given
    · rw [fixed]
      decide
    · obtain ⟨cluster, among, own⟩ := mem_flatMap.mp (mem_of_mem_filter given)
      rcases mem_append.mp own with gate | tests
      · exact ((bounds.clusters cluster among).gates entry gate).trans (by omega)
      · rw [mem_singleton.mp tests]
        have own := (bounds.clusters cluster among).tests
        have trimmed := length_trim_le cluster.tests
        omega

section

variable [Unicode] (scoped_ : input.Scoped scope)

include scoped_

theorem leftOut_count : scope.outOfScope.length + scope.acceptedRows.length ≤ 200 := by
  have count := bounds.count
  have outside : scope.outOfScope.length ≤ scope.remaining.length := by
    rw [outOfScope, length_map]
    exact length_filter_le _ _
  have accepted : scope.acceptedRows.length = (scope.ledger.findings.filter fun row =>
      row.status = .accepted && !scope.blocking row).length := by
    rw [acceptedRows, length_map]
  rw [scoped_.remaining, remaining] at outside
  have apart := length_filters_le _ (fun row => row.status = .accepted && !scope.blocking row)
    scope.ledger.findings fun row member (stays : (!row.isFindingVerifiedClosed
      (scope.ledger.sha.elim .null .value) && (row.status ≠ .accepted ||
        isFindingBlocking row (scope.ledger.sha.elim .null .value))) = true) => by
      by_cases accepted : row.status = .accepted
      · simp [accepted, accepted_unblocking accepted] at stays
      · simp [accepted]
  rw [accepted]
  exact (Nat.add_le_add_right outside _).trans (apart.trans count)

theorem deferred_bounds : (input.assemble scope).deferred.length ≤ 264 ∧
    ∀ row ∈ (input.assemble scope).deferred, row.id.length ≤ 160 := by
  have leftOut := leftOut_count bounds scoped_
  have plan := bounds.deferrals
  have planCount : (scope.planDeferrals input.planDeferred).length = input.planDeferred.length := by
    rw [planDeferrals, length_mapIdx]
  constructor
  · have merged := length_mergeDeferred_le
      (scope.outOfScope ++ scope.acceptedRows ++ scope.planDeferrals input.planDeferred)
      ((input.assemble scope).findings.map (·.id))
    rw [length_append, length_append] at merged
    apply merged.trans
    omega
  · intro row member
    rcases (mem_deferred.mp (mem_map_of_mem member)).1 with
      ⟨other, remains, -, same⟩ | ⟨other, inLedger, -, same⟩ | named
    · rw [scoped_.remaining, mem_remaining] at remains
      rw [← same]
      exact (bounds.rows other remains.1).id
    · rw [← same]
      exact (bounds.rows other inLedger).id
    · obtain ⟨deferral, among, same⟩ := mem_map.mp named
      obtain ⟨index, bound, item⟩ := mem_mapIdx.mp among
      rw [← same, ← item]
      simp only [planDeferralId]
      split
      · rename_i found
        exact (bounds.rows _ (mem_of_find?_eq_some found)).id
      · rw [length_append]
        have digits := @length_ofNat_le
          (scope.outOfScope.length + scope.acceptedRows.length + index + 1) 3 (by omega) (by omega)
        have fixed : (js "plan-deferred-").length = 14 := by decide
        omega

theorem accepted_iff_fits [WebUrl] : (input.assemble scope).accepted = true ↔
    Fits (input.assemble scope) := by
  have findings : ∀ finding ∈ (input.assemble scope).findings,
      (finding.accepted = true ↔ PackageFindingFits finding) := by
    intro finding member
    obtain ⟨row, included, rfl⟩ := mem_map.mp member
    exact packageFinding_accepted bounds _ (scoped_.mem_included.mp included).1
  have few : (input.assemble scope).findings.length ≤ 200 := by
    have kept := length_filter_le (fun row => input.cluster.isNone ||
      (scope.selected.flatMap (·.closes)).contains row.id) scope.remaining
    have remains : scope.remaining.length ≤ scope.ledger.findings.length := by
      rw [scoped_.remaining, remaining]
      exact length_filter_le _ _
    have count := bounds.count
    change (scope.included.map _).length ≤ 200
    rw [length_map, scoped_.included]
    omega
  have some_ : 1 ≤ (input.assemble scope).findings.length := by
    change 1 ≤ (scope.included.map _).length
    rw [length_map]
    exact length_pos_iff.mpr scoped_.filled
  have invariants : (input.assemble scope).invariants.length ≤ 200 := by
    have count := length_unique_le ((input.assemble scope).findings.map (·.invariant))
    rw [length_map] at count
    exact count.trans few
  obtain ⟨forbiddenFew, forbiddenShort⟩ := forbidden_bounds bounds
  have acceptanceShort := acceptance_bounds bounds
  obtain ⟨deferredFew, deferredIds⟩ := deferred_bounds bounds scoped_
  have outside : (!(input.assemble scope).deferred.any fun row =>
      ((input.assemble scope).findings.map (·.id)).contains row.id) = true := by
    simp only [Bool.not_eq_true', any_eq_false, contains_eq_mem, decide_eq_true_eq]
    intro row member inTask
    rw [findings_ids] at inTask
    exact (mem_deferred.mp (mem_map_of_mem member)).2 inTask
  have once : ((input.assemble scope).deferred.map (·.id)).Nodup := mergeDeferred_nodup _ _
  have sha : FULL_COMMIT_SHA (input.assemble scope).sha = true := scoped_.sha_full
  simp only [RepairPackage.accepted, Bool.and_eq_true, decide_eq_true_eq, sha, some_, few, invariants,
    forbiddenFew, deferredFew, outside, once, and_true, all_eq_true]
  constructor
  · rintro ⟨⟨⟨⟨⟨⟨⟨⟨runId, prUrl⟩, rows⟩, -⟩, forbidden⟩, acceptance, tests⟩, deferred⟩, size⟩, distinct⟩
    refine ⟨runId, prUrl, fun finding member => (findings finding member).mp (rows finding member),
      distinct, ?_, ?_, tests, fun row member => ?_, size⟩
    · exact all_eq_true.mpr fun entry member => (text_iff.mp (forbidden entry member)).1
    · exact all_eq_true.mpr fun entry member => (text_iff.mp (acceptance entry member)).1
    · exact ⟨(text_iff.mp (deferred row member).1).1, (deferred row member).2⟩
  · rintro ⟨runId, prUrl, rows, distinct, forbidden, acceptance, tests, deferred, size⟩
    have given := fun finding member => (findings finding member).mpr (rows finding member)
    refine ⟨⟨⟨⟨⟨⟨⟨⟨runId, prUrl⟩, given⟩, ?_⟩, ?_⟩, ?_, tests⟩, ?_⟩, size⟩, distinct⟩
    · intro entry member
      obtain ⟨finding, among, rfl⟩ := mem_map.mp (mem_unique.mp member)
      exact (rows finding among).2.2.2.1
    · intro entry member
      exact text_iff.mpr ⟨all_eq_true.mp forbidden entry member, forbiddenShort entry member⟩
    · intro entry member
      exact text_iff.mpr ⟨all_eq_true.mp acceptance entry member, acceptanceShort entry member⟩
    · intro row member
      exact ⟨text_iff.mpr ⟨(deferred row member).1, deferredIds row member⟩, (deferred row member).2⟩

end

end

theorem repair_package_built [Unicode] [WebUrl] (input : PackageInput)
    (ledger : input.ledger.all (·.accepted) = true) (plan : input.planLock.all (·.accepted) = true) :
    (∀ package, input.buildRepairPackage = .ok package → package.accepted = true ∧
      ∃ scope, input.scope = .ok scope ∧ input.Partitions scope package) ∧
    ∀ scope, input.scope = .ok scope →
      ((∃ package, input.buildRepairPackage = .ok package) ↔ Fits (input.assemble scope)) := by
  constructor
  · intro package built
    obtain ⟨scope, passed, rfl, accepted⟩ := buildRepairPackage_ok.mp built
    exact ⟨accepted, scope, passed, (scope_ok passed).partitions⟩
  · intro scope passed
    have scoped_ := scope_ok passed
    rw [← accepted_iff_fits (scoped_.bounds ledger plan) scoped_]
    constructor
    · rintro ⟨package, built⟩
      obtain ⟨other, also, same, accepted⟩ := buildRepairPackage_ok.mp built
      rw [passed] at also
      cases also
      rwa [← same]
    · exact fun accepted => ⟨_, buildRepairPackage_ok.mpr ⟨scope, passed, rfl, accepted⟩⟩

end PackageInput

section Samples

/-- A parser that knows no URL; the samples have none. -/
@[reducible] def noUrls : WebUrl := ⟨fun _ => false⟩

attribute [local instance] Unicode.ascii noUrls

def SAMPLE_SHA : JsString := List.replicate 40 0x61

def packageRow (id : JsString) (files : List JsString) : LedgerFinding where
  id
  severity := .major
  status := .open
  title := id
  text := []
  source := .unique
  reviewer := none
  files

def verifiedRow (id : JsString) : LedgerFinding :=
  { packageRow id [] with
    status := .closed
    verification := some {
      outcome := .verified_closed
      candidateSha := SAMPLE_SHA
      runId := js "r"
      attemptId := js "a"
      reviewer := js "ada"
      method := .regression_test
      reason := js "fixed"
      evidence := js "passes"
      command := some (js "test")
      runComplete := true } }

def sampleInput (findings : List LedgerFinding) (deferred : List PlanDeferral) : PackageInput where
  runId := js "r"
  complete := true
  prUrl := none
  ledger := some ⟨js "r", some SAMPLE_SHA, findings, none⟩
  planLock := some ⟨js "r", .approve, [], deferred⟩

def deferredInput : PackageInput :=
  sampleInput [packageRow (js "F-1") [], verifiedRow (js "F-2")] [⟨js "F-2", js "later"⟩]

def absoluteInput : PackageInput := sampleInput [packageRow (js "F-1") [js "/etc/hosts"]] []

namespace PackageInput

theorem deferredInput_built : ∃ package, deferredInput.buildRepairPackage = .ok package ∧
    js "F-2" ∈ package.deferred.map (·.id) := by
  have deferred : (deferredInput.buildRepairPackage.toOption.any fun package =>
      (package.deferred.map (·.id)).contains (js "F-2")) = true := by decide +kernel
  cases built : deferredInput.buildRepairPackage with
  | error reason =>
    rw [built] at deferred
    cases deferred
  | ok package =>
    rw [built] at deferred
    exact ⟨package, rfl, contains_iff_mem.mp deferred⟩

theorem repair_package_built_sample : ∃ package, deferredInput.buildRepairPackage = .ok package ∧
    package.accepted = true ∧ ∃ scope, deferredInput.scope = .ok scope ∧
      deferredInput.Partitions scope package := by
  obtain ⟨package, built, -⟩ := deferredInput_built
  have both := (repair_package_built deferredInput (by decide +kernel) (by decide +kernel)).1
    package built
  exact ⟨package, built, both⟩

theorem closed_finding_deferred :
    (∃ package, deferredInput.buildRepairPackage = .ok package ∧ js "F-2" ∈ package.deferred.map (·.id)) ∧
    (verifiedRow (js "F-2")).isFindingVerifiedClosed (.value SAMPLE_SHA) = true ∧
    (∃ scope, absoluteInput.scope = .ok scope) ∧
    absoluteInput.buildRepairPackage = .error .schema := by
  refine ⟨deferredInput_built, by decide +kernel, ?_, ?_⟩
  · have passes : absoluteInput.scope.toOption.isSome = true := by decide +kernel
    cases passed : absoluteInput.scope with
    | error reason =>
      rw [passed] at passes
      cases passes
    | ok scope => exact ⟨scope, rfl⟩
  · have refused : (match absoluteInput.buildRepairPackage with
        | .error .schema => true
        | _ => false) = true := by decide +kernel
    split at refused
    · assumption
    · cases refused

end PackageInput

end Samples

end CouncilKit.Repair
