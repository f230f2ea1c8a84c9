import CouncilKit.Repair.Gate

namespace CouncilKit.Repair

open Data Review AcceptanceDisposition AdjudicationInput List

section

variable [Unicode]

/-- A gate input on which only the acceptance view and the required assertions
can raise a reason. -/
def unobstructed (candidateSha : JsString) (acceptance : Option GateAcceptanceView)
    (requiredAssertionIds : List JsString) (verificationAssets : List VerificationAsset) :
    RepairGateInput where
  source := ⟨js "ck-review-1", js "https://host/pull/1", candidateSha⟩
  candidateSha
  publishedSha := none
  remoteHead := none
  baseUnchanged := .known true
  prOpen := .known true
  squad := some ⟨js "task-1", false, true, true, true, candidateSha, js "policy"⟩
  review := {
    runId := js "ck-review-2"
    incomplete := false
    seatsAllSuccess := true
    aggregatorComplete := true
    artifactsOk := true
    sha := candidateSha
    evidenceComplete := some true
    uncoveredIds := []
    aggregatorVerdict := some .approve
    findings := [] }
  policyHash := js "policy"
  checkedAt := js "2026-01-01T00:00:00.000Z"
  stage := some .local_candidate
  acceptance
  verificationAssets := some verificationAssets
  requiredAssertionIds := some requiredAssertionIds

variable {candidateSha : JsString} {acceptance : Option GateAcceptanceView}
  {required : List JsString} {assets : List VerificationAsset}

theorem unknownText_not_sha : FULL_SHA (toLowerCase unknownText) = false := by
  have ascii : toLowerCase unknownText = unknownText.map lowerAscii :=
    toLowerCase_ascii unknownText (by decide)
  rw [ascii]
  decide

theorem unobstructed_passes (commit : FULL_SHA (toLowerCase candidateSha) = true)
    (clear : (unobstructed candidateSha acceptance required assets).openFindings = [])
    (covered : (unobstructed candidateSha acceptance required assets).uncovered = [])
    (evidence : (unobstructed candidateSha acceptance required assets).assetReasons = []) :
    (evaluateRepairGate (unobstructed candidateSha acceptance required assets)).passed = true := by
  have known : candidateSha ≠ unknownText := by
    rintro rfl
    rw [unknownText_not_sha] at commit
    contradiction
  have policy : js "policy" ≠ unknownText := by decide
  have prUrl : js "https://host/pull/1" ≠ [] := by decide
  have runId : js "ck-review-1" ≠ [] := by decide
  refine evaluateRepairGate_passed.mpr ⟨?_, ?_, ?_, ?_, ?_, ?_, evidence, ?_, ?_, ?_⟩
  · simp [RepairGateInput.policyReasons, unobstructed, policy]
  · simp [RepairGateInput.identityReasons, RepairGateInput.candidate, RepairGateInput.differs,
      unobstructed, fullSha, commit, known, prUrl, runId]
  · simp [RepairGateInput.squadReasons, RepairGateInput.squadAccepted, RepairGateInput.candidate,
      policyHashMatches, unobstructed, policy]
  · simp [RepairGateInput.reviewReasons, unobstructed]
  · exact RepairGateInput.coverageReasons_nil.mpr ⟨rfl, covered⟩
  · exact RepairGateInput.openReasons_nil.mpr clear
  · simp [RepairGateInput.exceptionReasons, RepairGateInput.untraceable, unobstructed]
  · simp [RepairGateInput.verdictReasons, unobstructed]
  · simp [RepairGateInput.stageReasons, RepairGateInput.stageOrDefault, unobstructed]

end

namespace AdjudicationInput

variable (input : AdjudicationInput) (row : LedgerFinding)

/-- No alias, falsification or scope decision names the row. -/
structure Undecided : Prop where
  unaliased : input.aliasFor row.id = none
  unfalsified : input.falsifiedFor row.id = none
  unscoped : input.scopedFor row.id = none

/-- A critical or major row whose verification was not evaluated, with no
reviewer responsible for it and no reason to accept it. -/
structure Silent : Prop extends input.Undecided row where
  severe : BLOCKING_SEVERITY row.severity = true
  notEvaluated : isNotEvaluated row = true
  unassigned : isRequired row = false
  unaccepted : row.acceptedWithReason = false

inductive Loud : Prop where
  | unresolved (undecided : input.Undecided row)
      (unverified : row.isFindingVerifiedClosed (.value input.candidateSha) = false)
      (unaccepted : row.acceptedWithReason = false)
      (evaluated : isNotEvaluated row = false ∨ isRequired row = true)
  | outOfScope (found : ScopedInput) (unaliased : input.aliasFor row.id = none)
      (unfalsified : input.falsifiedFor row.id = none)
      (placed : input.scopedFor row.id = some found) (blocking : found.blocking = true)

inductive Resolved : Prop where
  | aliased (found : AliasInput) (named : input.aliasFor row.id = some found)
  | falsified (found : FalsifiedInput) (named : input.falsifiedFor row.id = some found)
  | recorded (found : ScopedInput) (named : input.scopedFor row.id = some found)
      (recorded : found.blocking = false)
  | accepted (accepted : row.acceptedWithReason = true)
  | closed (closed : row.isFindingVerifiedClosed (.value input.candidateSha) = true)

end AdjudicationInput

/-- The dispositions `gateAcceptanceView` hands to the gate's checks. -/
def AcceptanceDisposition.IsRead : AcceptanceDisposition → Prop
  | .still_open | .coverage_gap | .out_of_scope_blocking => True
  | _ => False

theorem gateAcceptanceView_clear {projection : AdjudicationProjection}
    (covered : projection.uncoveredSourceIds = []) :
    ((gateAcceptanceView projection).openIds ++ (gateAcceptanceView projection).blockingOutOfScope = [] ∧
      (gateAcceptanceView projection).coverageGaps = []) ↔
      ∀ item ∈ projection.items, ¬ item.disposition.IsRead := by
  rw [append_eq_nil_iff]
  simp only [gateAcceptanceView, covered, append_nil, eq_nil_iff_forall_not_mem,
    mem_idsWith, not_exists, not_and]
  constructor
  · rintro ⟨⟨opened, placed⟩, gaps⟩ item member read
    cases disposition : item.disposition <;> simp only [disposition,
      IsRead] at read
    · exact opened item.sourceId item member disposition rfl
    · exact gaps item.sourceId item member disposition rfl
    · exact placed item.sourceId item member disposition rfl
  · intro unread
    refine ⟨⟨?_, ?_⟩, ?_⟩ <;> intro id item member disposition _ <;>
      exact unread item member (by simp [disposition, IsRead])

theorem notEvaluated_unverified {row : LedgerFinding} {sha : Nullish JsString}
    (notEvaluated : isNotEvaluated row = true) : row.isFindingVerifiedClosed sha = false := by
  cases present : row.verification with
  | none => simp [LedgerFinding.isFindingVerifiedClosed, present]
  | some verification =>
    have outcome : verification.outcome = .not_evaluated := by
      simpa [isNotEvaluated, present] using notEvaluated
    cases parsed : verification.safeParse with
    | none => simp [LedgerFinding.isFindingVerifiedClosed, present, parsed]
    | some value =>
      have same := (FindingVerification.safeParse_outcome parsed).trans outcome
      simp [LedgerFinding.isFindingVerifiedClosed, present, parsed, same]

namespace AdjudicationInput

variable {input : AdjudicationInput} {row : LedgerFinding}

theorem itemOf_undecided (undecided : input.Undecided row) :
    (input.itemOf row).disposition = rowDisposition row input.candidateSha ∧
      (input.itemOf row).blocking =
        (BLOCKING_SEVERITY row.severity &&
          rowDisposition row input.candidateSha ≠ .verified_closed && !row.acceptedWithReason) := by
  obtain ⟨unaliased, unfalsified, unscoped⟩ := undecided
  simp only [itemOf, itemFromFinding, unaliased, unfalsified, unscoped, and_self]

theorem itemOf_scoped {found : ScopedInput} (unaliased : input.aliasFor row.id = none)
    (unfalsified : input.falsifiedFor row.id = none)
    (placed : input.scopedFor row.id = some found) :
    (input.itemOf row).disposition =
        (if found.blocking then .out_of_scope_blocking else .out_of_scope_recorded) ∧
      (input.itemOf row).blocking = found.blocking := by
  simp only [itemOf, itemFromFinding, unaliased, unfalsified, placed, and_self]

theorem rowDisposition_read {candidateSha : JsString}
    (unverified : row.isFindingVerifiedClosed (.value candidateSha) = false)
    (unaccepted : row.acceptedWithReason = false) :
    (rowDisposition row candidateSha).IsRead ↔ (isNotEvaluated row = false ∨ isRequired row = true) := by
  simp only [rowDisposition, unverified, unaccepted, Bool.false_eq_true, if_false]
  cases isNotEvaluated row <;> cases isRequired row <;> simp [IsRead]

theorem Loud.read (loud : input.Loud row) : (input.itemOf row).disposition.IsRead := by
  cases loud with
  | unresolved undecided unverified unaccepted evaluated =>
    rw [(itemOf_undecided undecided).1]
    exact (rowDisposition_read unverified unaccepted).mpr evaluated
  | outOfScope found unaliased unfalsified placed blocking =>
    rw [(itemOf_scoped unaliased unfalsified placed).1, blocking]
    trivial

theorem Silent.blocks (silent : input.Silent row) : (input.itemOf row).blocking = true := by
  have unverified : row.isFindingVerifiedClosed (.value input.candidateSha) = false :=
    notEvaluated_unverified silent.notEvaluated
  have disposition : rowDisposition row input.candidateSha ≠ .verified_closed := by
    simp [rowDisposition, unverified, silent.unaccepted, silent.notEvaluated, silent.unassigned]
  rw [(itemOf_undecided silent.toUndecided).2]
  simp [silent.severe, disposition, silent.unaccepted]

theorem decision_cases (input : AdjudicationInput) (row : LedgerFinding) :
    (∃ found, input.aliasFor row.id = some found) ∨
    (∃ found, input.aliasFor row.id = none ∧ input.falsifiedFor row.id = some found) ∨
    (∃ found, input.aliasFor row.id = none ∧ input.falsifiedFor row.id = none ∧
      input.scopedFor row.id = some found) ∨
    input.Undecided row := by
  cases renamed : input.aliasFor row.id with
  | some found => exact .inl ⟨found, rfl⟩
  | none =>
    cases falsified : input.falsifiedFor row.id with
    | some found => exact .inr (.inl ⟨found, rfl, rfl⟩)
    | none =>
      cases placed : input.scopedFor row.id with
      | some found => exact .inr (.inr (.inl ⟨found, rfl, rfl, rfl⟩))
      | none => exact .inr (.inr (.inr ⟨renamed, falsified, placed⟩))

theorem blocks_loud (heard : ¬ input.Silent row) (blocks : (input.itemOf row).blocking = true) :
    input.Loud row := by
  obtain ⟨found, aliased⟩ | ⟨found, unaliased, falsified⟩ | ⟨found, unaliased, unfalsified, placed⟩ |
    undecided := decision_cases input row
  · simp [itemOf, itemFromFinding, aliased] at blocks
  · simp [itemOf, itemFromFinding, unaliased, falsified] at blocks
  · rw [(itemOf_scoped unaliased unfalsified placed).2] at blocks
    exact .outOfScope found unaliased unfalsified placed blocks
  · rw [(itemOf_undecided undecided).2] at blocks
    simp only [Bool.and_eq_true, decide_eq_true_eq, Bool.not_eq_true'] at blocks
    obtain ⟨⟨severe, opened⟩, unaccepted⟩ := blocks
    have unverified : row.isFindingVerifiedClosed (.value input.candidateSha) = false := by
      by_contra verified
      simp [rowDisposition, verified] at opened
    refine .unresolved undecided unverified unaccepted ?_
    by_contra hidden
    simp only [not_or, Bool.not_eq_false, Bool.not_eq_true] at hidden
    exact heard ⟨undecided, severe, hidden.1, hidden.2, unaccepted⟩

theorem read_loud (read : (input.itemOf row).disposition.IsRead) : input.Loud row := by
  obtain ⟨found, aliased⟩ | ⟨found, unaliased, falsified⟩ | ⟨found, unaliased, unfalsified, placed⟩ |
    undecided := decision_cases input row
  · simp [itemOf, itemFromFinding, aliased, IsRead] at read
  · simp [itemOf, itemFromFinding, unaliased, falsified, IsRead] at read
  · refine .outOfScope found unaliased unfalsified placed ?_
    rw [(itemOf_scoped unaliased unfalsified placed).1] at read
    by_contra recorded
    simp [recorded, IsRead] at read
  · rw [(itemOf_undecided undecided).1] at read
    have unverified : row.isFindingVerifiedClosed (.value input.candidateSha) = false := by
      by_contra verified
      rw [rowDisposition, if_pos (by simpa using verified)] at read
      exact read
    have unaccepted : row.acceptedWithReason = false := by
      by_contra accepted
      rw [rowDisposition, unverified, if_neg (by simp), if_pos (by simpa using accepted)] at read
      exact read
    exact .unresolved undecided unverified unaccepted ((rowDisposition_read unverified unaccepted).mp read)

theorem resolved_or_blocks (severe : BLOCKING_SEVERITY row.severity = true) :
    input.Resolved row ∨ (input.itemOf row).blocking = true := by
  obtain ⟨found, aliased⟩ | ⟨found, unaliased, falsified⟩ | ⟨found, unaliased, unfalsified, placed⟩ |
    undecided := decision_cases input row
  · exact .inl (.aliased found aliased)
  · exact .inl (.falsified found falsified)
  · cases blocking : found.blocking with
    | false => exact .inl (.recorded found placed blocking)
    | true => exact .inr ((itemOf_scoped unaliased unfalsified placed).2.trans blocking)
  · by_cases verified : row.isFindingVerifiedClosed (.value input.candidateSha) = true
    · exact .inl (.closed verified)
    · by_cases accepted : row.acceptedWithReason = true
      · exact .inl (.accepted accepted)
      · have disposition : rowDisposition row input.candidateSha ≠ .verified_closed := by
          simp only [rowDisposition, verified, accepted, Bool.false_eq_true, if_false]
          split
          · simp
          · split <;> simp
        refine .inr ?_
        rw [(itemOf_undecided undecided).2]
        simp [severe, disposition, accepted]

end AdjudicationInput

section

variable [Unicode] {input : AdjudicationInput}

theorem passed_unread {gate : RepairGateInput}
    (viewed : gate.acceptance = some (gateAcceptanceView (projectAdjudication input)))
    (passed : (evaluateRepairGate gate).passed = true) :
    ∀ row ∈ input.findings, ¬ (input.itemOf row).disposition.IsRead := by
  obtain ⟨-, -, -, -, coverage, opened, -⟩ := evaluateRepairGate_passed.mp passed
  have uncovered := (RepairGateInput.coverageReasons_nil.mp coverage).2
  have clear := RepairGateInput.openReasons_nil.mp opened
  simp only [RepairGateInput.uncovered, RepairGateInput.openFindings, viewed] at uncovered clear
  have unread := (gateAcceptanceView_clear (projectAdjudication_covered input)).mp ⟨clear, uncovered⟩
  intro row member
  exact unread _ (by rw [projectAdjudication_items]; exact mem_map_of_mem member)

theorem quiet_passes (quiet : ∀ row ∈ input.findings, ¬ input.Loud row) :
    (evaluateRepairGate (unobstructed (replicate 40 0x61)
      (some (gateAcceptanceView (projectAdjudication input))) [] [])).passed = true := by
  have unread : ∀ item ∈ (projectAdjudication input).items, ¬ item.disposition.IsRead := by
    intro item member read
    rw [projectAdjudication_items] at member
    obtain ⟨row, rowMember, rfl⟩ := mem_map.mp member
    exact quiet row rowMember (read_loud read)
  obtain ⟨clear, covered⟩ :=
    (gateAcceptanceView_clear (projectAdjudication_covered input)).mpr unread
  refine unobstructed_passes ?_ clear covered rfl
  rw [toLowerCase_ascii _ (by decide)]
  decide

/-- The gate is sound for a projection exactly when no row of it is silent, or
some loud row keeps the gate closed whatever else it is given. -/
theorem gateAcceptance_sound_iff (input : AdjudicationInput) :
    (∀ gate : RepairGateInput, gate.acceptance = some (gateAcceptanceView (projectAdjudication input)) →
        (evaluateRepairGate gate).passed = true →
        (∀ item ∈ (projectAdjudication input).items, item.blocking = false) ∧
          ∀ row ∈ input.findings, BLOCKING_SEVERITY row.severity = true → input.Resolved row) ↔
      (∀ row ∈ input.findings, ¬ input.Silent row) ∨ ∃ row ∈ input.findings, input.Loud row := by
  constructor
  · intro sound
    by_contra neither
    simp only [not_or, not_forall, not_not, not_exists, not_and] at neither
    obtain ⟨⟨row, member, silent⟩, quiet⟩ := neither
    have passed := quiet_passes quiet
    have unblocked := (sound _ rfl passed).1 (input.itemOf row)
      (by rw [projectAdjudication_items]; exact mem_map_of_mem member)
    rw [silent.blocks] at unblocked
    contradiction
  · intro condition gate viewed passed
    have unread := passed_unread viewed passed
    have unblocked : ∀ row ∈ input.findings, (input.itemOf row).blocking = false := by
      intro row member
      by_contra blocks
      rcases condition with heard | ⟨loudRow, loudMember, loud⟩
      · have loud := blocks_loud (heard row member) (by simpa using blocks)
        exact unread row member loud.read
      · exact unread loudRow loudMember loud.read
    refine ⟨?_, ?_⟩
    · intro item member
      rw [projectAdjudication_items] at member
      obtain ⟨row, rowMember, rfl⟩ := mem_map.mp member
      exact unblocked row rowMember
    · intro row member severe
      rcases resolved_or_blocks severe with resolved | blocks
      · exact resolved
      · rw [unblocked row member] at blocks
        contradiction

end

def commitA : JsString := replicate 40 0x61

def commitB : JsString := replicate 40 0x62

/-- A critical row that no reviewer owns and whose verification was not evaluated. -/
def silentFinding : LedgerFinding where
  id := js "F-1"
  severity := .critical
  status := .open
  title := js "lost write"
  text := js "lost write"
  source := .consensus
  reviewer := none
  files := []
  verification := some {
    outcome := .not_evaluated
    candidateSha := commitA
    runId := js "ck-review-2"
    attemptId := js "a-1"
    reviewer := js "reviewer"
    method := .not_evaluated
    reason := js "not reached"
    evidence := js "not reached"
    runComplete := true }

def silentInput : AdjudicationInput where
  sourceRunId := js "ck-review-1"
  candidateSha := commitA
  findings := [silentFinding]

theorem gateAcceptance_silent :
    ∃ gate : RepairGateInput, gate.candidateSha = silentInput.candidateSha ∧
      gate.acceptance = some (gateAcceptanceView (projectAdjudication silentInput)) ∧
      (@evaluateRepairGate .ascii gate).passed = true ∧
      ∃ item ∈ (projectAdjudication silentInput).items, item.blocking = true :=
  ⟨unobstructed commitA (some (gateAcceptanceView (projectAdjudication silentInput))) [] [],
    rfl, rfl, by decide, by decide⟩

section

variable [Unicode]

/-- What a passing gate should say about the commits of its evidence. -/
structure IdentityBound (gate : RepairGateInput) : Prop where
  assets : ∀ assertionId ∈ gate.requiredAssertionIds.getD [],
    ∃ asset, gate.assetFor assertionId = some asset ∧
      toLowerCase asset.snapshotSha = gate.candidate
  review : toLowerCase gate.review.sha = gate.candidate
  squad : ∃ squad, gate.squad = some squad ∧ toLowerCase squad.sha = gate.candidate ∧
    squad.gatePolicyHash = gate.policyHash
  remote : gate.stageOrDefault = .published_pr →
    ∃ head, gate.remoteHead = some head ∧ toLowerCase head = gate.candidate

def matchingAsset (assets : List VerificationAsset) (assertionId : JsString) : Option VerificationAsset :=
  assets.find? (·.assertionId = assertionId)

theorem passed_evidence {gate : RepairGateInput} {assertionId : JsString}
    (passed : (evaluateRepairGate gate).passed = true)
    (needed : assertionId ∈ gate.requiredAssertionIds.getD []) :
    ∃ asset, gate.assetFor assertionId = some asset ∧
      (evaluateVerificationAsset asset assertionId).ok = true := by
  obtain ⟨-, -, -, -, -, -, evidence, -⟩ := evaluateRepairGate_passed.mp passed
  cases named : gate.requiredAssertionIds with
  | none => simp [named] at needed
  | some required =>
    refine (RepairGateInput.assetReasons_nil named).mp evidence assertionId ?_
    simpa only [named, Option.getD_some] using needed

/-- For given required assertions and assets the gate binds its evidence to the
candidate exactly when it can never pass on them, or when the assets it
consults were all taken on the candidate. -/
theorem gateEvidence_bound_iff (candidateSha : JsString) (required : List JsString)
    (assets : List VerificationAsset) :
    (∀ gate : RepairGateInput, gate.candidateSha = candidateSha →
        gate.requiredAssertionIds.getD [] = required →
        gate.verificationAssets.getD [] = assets →
        (evaluateRepairGate gate).passed = true → IdentityBound gate) ↔
      FULL_SHA (toLowerCase candidateSha) = false ∨
        (∃ assertionId ∈ required, ∀ asset, matchingAsset assets assertionId = some asset →
          (evaluateVerificationAsset asset assertionId).ok = false) ∨
        ∀ assertionId ∈ required, ∀ asset, matchingAsset assets assertionId = some asset →
          toLowerCase asset.snapshotSha = toLowerCase candidateSha := by
  constructor
  · intro bound
    by_contra failing
    simp only [not_or, Bool.not_eq_false, not_exists, not_and, not_forall] at failing
    obtain ⟨commit, usable, assertionId, needed, asset, found, stale⟩ := failing
    have evidence : (unobstructed candidateSha (some ⟨[], [], [], [], [], [], false⟩) required
        assets).assetReasons = [] := by
      refine (RepairGateInput.assetReasons_nil rfl).mpr fun assertionId needed => ?_
      obtain ⟨asset, found, ok⟩ := usable assertionId needed
      exact ⟨asset, found, ok⟩
    have identity := bound _ rfl rfl rfl (unobstructed_passes commit rfl rfl evidence)
    obtain ⟨consulted, same, fresh⟩ := identity.assets assertionId needed
    have equal : asset = consulted := Option.some.inj (found.symm.trans same)
    exact stale (equal ▸ fresh)
  · intro condition gate sameCandidate sameRequired sameAssets passed
    have checks := evaluateRepairGate_passed.mp passed
    obtain ⟨commit, -, review⟩ := RepairGateInput.identityReasons_nil checks.2.1
    obtain ⟨squad, present, squadSha, -, policy⟩ := RepairGateInput.squadReasons_nil checks.2.2.1
    refine ⟨?_, review, ⟨squad, present, squadSha, policy.symm⟩,
      RepairGateInput.stageReasons_nil checks.2.2.2.2.2.2.2.2.2⟩
    intro assertionId needed
    obtain ⟨asset, found, ok⟩ := passed_evidence passed needed
    have matched : matchingAsset assets assertionId = some asset := by
      rw [← sameAssets]
      exact found
    rcases condition with partialSha | ⟨unusable, unusableNeeded, refused⟩ | fresh
    · exact absurd commit (by simp [fullSha, RepairGateInput.candidate, sameCandidate, partialSha])
    · obtain ⟨other, otherFound, otherOk⟩ :=
        passed_evidence passed (sameRequired ▸ unusableNeeded)
      have otherMatched : matchingAsset assets unusable = some other := by
        rw [← sameAssets]
        exact otherFound
      rw [refused other otherMatched] at otherOk
      contradiction
    · refine ⟨asset, found, ?_⟩
      rw [RepairGateInput.candidate, sameCandidate]
      exact fresh assertionId (sameRequired ▸ needed) asset matched

end

def staleFinding : LedgerFinding where
  id := js "F-1"
  severity := .critical
  status := .closed
  title := js "lost write"
  text := js "lost write"
  source := .consensus
  reviewer := some (js "reviewer")
  files := []
  verification := some {
    outcome := .verified_closed
    candidateSha := commitB
    runId := js "ck-review-2"
    attemptId := js "a-1"
    reviewer := js "reviewer"
    method := .code_trace
    reason := js "fixed"
    evidence := js "fixed"
    locations := some [js "log.go:12"]
    runComplete := true }

theorem gateEvidence_stale :
    ∃ (gate : RepairGateInput) (asset : VerificationAsset),
      @codeTraceFromReview .ascii (fun _ => js "v1") [staleFinding] (js "A-F-1-v1") commitA = some asset ∧
      gate.candidateSha = commitA ∧ gate.requiredAssertionIds = some [js "A-F-1-v1"] ∧
      gate.verificationAssets = some [asset] ∧
      (@evaluateRepairGate .ascii gate).passed = true ∧
      gate.assetFor (js "A-F-1-v1") = some asset ∧ asset.snapshotSha = commitB :=
  let asset : VerificationAsset := {
    assertionId := js "A-F-1-v1"
    snapshotSha := commitB
    testAssetVersion := js "v1"
    extraProbesDeclared := false
    extraProbeManifestVersion := some EMPTY_EXTRA_PROBE_MANIFEST
    kind := some .code_trace
    receipts := [{
      cwd := some (js "ck-review-2")
      snapshotSha := commitB
      testAssetVersion := js "v1"
      dirtyTree := false
      skipped := false
      ranZeroTests := false
      role := .independent_adjudicator
      executionSource := some .independent_reviewer_trace
      locations := some [js "log.go:12"] }] }
  ⟨unobstructed commitA none [js "A-F-1-v1"] [asset], asset,
    by decide, rfl, rfl, rfl, by decide, by decide, rfl⟩

end CouncilKit.Repair
