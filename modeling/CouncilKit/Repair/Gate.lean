import CouncilKit.Repair.Adjudication
import CouncilKit.Repair.Contract

namespace CouncilKit.Repair

open Data Review

inductive RepairGateReasonCode where
  | identity_mismatch | squad_candidate_invalid | councilkit_incomplete | coverage_incomplete
  | findings_open | verdict_contradiction | exception_untraceable | pr_drift
  | policy_unknown | identity_unknown

inductive AggregatorVerdict where
  | approve | changes_requested | comment
deriving DecidableEq

inductive RepairGateStage where
  | local_candidate | published_pr

/-- `boolean | "unknown"` -/
inductive BoolFact where
  | unknown
  | known (value : Bool)
deriving DecidableEq

def BoolFact.text : BoolFact → JsString
  | .unknown => js "unknown"
  | .known value => .ofBool value

structure RepairGateSquadCandidate where
  taskId : JsString
  invalidated : Bool
  independentReview : Bool
  independentVerify : Bool
  requiredGatesPassed : Bool
  sha : JsString
  gatePolicyHash : JsString

structure RepairGateReview where
  runId : JsString
  incomplete : Bool
  seatsAllSuccess : Bool
  aggregatorComplete : Bool
  artifactsOk : Bool
  sha : JsString
  evidenceComplete : Option Bool
  uncoveredIds : List JsString
  aggregatorVerdict : Option AggregatorVerdict
  findings : List LedgerFinding

structure RepairGateSource where
  runId : JsString
  prUrl : JsString
  sha : JsString

/-- `none` in `publishedSha` and `remoteHead` is `null`. -/
structure RepairGateInput where
  source : RepairGateSource
  candidateSha : JsString
  publishedSha : Option JsString
  remoteHead : Option JsString
  baseUnchanged : BoolFact
  prOpen : BoolFact
  squad : Option RepairGateSquadCandidate
  review : RepairGateReview
  policyHash : JsString
  checkedAt : JsString
  adoptedExistingRemote : Bool := false
  stage : Option RepairGateStage := none
  acceptance : Option GateAcceptanceView := none
  verificationAssets : Option (List VerificationAsset) := none
  requiredAssertionIds : Option (List JsString) := none

structure RepairGateReason where
  code : RepairGateReasonCode
  evidence : JsString

structure RepairGateResult where
  passed : Bool
  candidateSha : JsString
  checkedAt : JsString
  policyHash : JsString
  sourceReviewRunId : JsString
  finalReviewRunId : JsString
  squadTaskId : Option JsString
  reasons : List RepairGateReason
  stage : RepairGateStage

def unknownText : JsString := js "unknown"

def orNull (text : Option JsString) : JsString := text.getD (js "null")

def policyHashMatches (expected observed : JsString) : Bool :=
  expected ≠ unknownText && expected = observed

namespace RepairGateInput

variable [Unicode] (input : RepairGateInput)

def candidate : JsString := toLowerCase input.candidateSha

def stageOrDefault : RepairGateStage := input.stage.getD .published_pr

def differs (sha : Option JsString) : Bool :=
  sha.any fun sha => sha ≠ unknownText && toLowerCase sha ≠ input.candidate

def policyReasons : List RepairGateReason :=
  if input.policyHash = unknownText then
    [⟨.policy_unknown, js "frozen gate policy hash is unknown; refusing to use candidate-claimed hash"⟩]
  else []

def identityReasons : List RepairGateReason :=
  if fullSha input.candidate = none ∨ input.source.sha = unknownText ∨
      toLowerCase input.source.sha ≠ input.candidate ∨
      toLowerCase input.review.sha ≠ input.candidate ∨ input.differs input.publishedSha ∨
      input.source.prUrl = [] ∨ input.source.runId = [] then
    [⟨.identity_mismatch, js "source=" ++ input.source.sha ++ js " review=" ++ input.review.sha ++
      js " published=" ++ orNull input.publishedSha⟩]
  else []

/-- The squad's candidate is the one under the gate, checked independently
under the frozen policy. -/
def squadAccepted (squad : RepairGateSquadCandidate) : Bool :=
  !squad.invalidated && squad.independentReview && squad.independentVerify &&
    squad.requiredGatesPassed && toLowerCase squad.sha = input.candidate &&
    policyHashMatches input.policyHash squad.gatePolicyHash

def squadReasons : List RepairGateReason :=
  match input.squad with
  | none => [⟨.squad_candidate_invalid, js "missing squad candidate"⟩]
  | some squad =>
    if input.squadAccepted squad then []
    else [⟨.squad_candidate_invalid, js "task=" ++ squad.taskId ++ js " sha=" ++ squad.sha ++
      js " expectedPolicy=" ++ input.policyHash ++ js " observedPolicy=" ++ squad.gatePolicyHash⟩]

def reviewReasons : List RepairGateReason :=
  if input.review.incomplete ∨ !input.review.seatsAllSuccess ∨ !input.review.aggregatorComplete ∨
      !input.review.artifactsOk then
    [⟨.councilkit_incomplete, js "incomplete=" ++ .ofBool input.review.incomplete ++ js " seats=" ++
      .ofBool input.review.seatsAllSuccess ++ js " aggregator=" ++
      .ofBool input.review.aggregatorComplete⟩]
  else []

def uncovered : List JsString :=
  match input.acceptance with
  | some acceptance => acceptance.coverageGaps
  | none => input.review.uncoveredIds

def coverageReasons : List RepairGateReason :=
  if input.review.evidenceComplete ≠ some true ∨ input.uncovered ≠ [] then
    [⟨.coverage_incomplete,
      if input.review.evidenceComplete = none then js "evidenceComplete omitted"
      else js "uncovered=" ++ JsString.join (js ",") input.uncovered⟩]
  else []

/-- The findings that keep the gate closed: the view's, or the review's own rows. -/
def openFindings : List JsString :=
  match input.acceptance with
  | some acceptance => acceptance.openIds ++ acceptance.blockingOutOfScope
  | none =>
    (input.review.findings.filter fun row =>
      !row.acceptedWithReason && !row.isFindingVerifiedClosed (.value input.candidate)).map (·.id)

def openReasons : List RepairGateReason :=
  if input.openFindings ≠ [] then
    [⟨.findings_open, JsString.join (js ",") input.openFindings⟩]
  else []

def assetFor (assertionId : JsString) : Option VerificationAsset :=
  (input.verificationAssets.getD []).find? (·.assertionId = assertionId)

def assertionReasons (assertionId : JsString) : List RepairGateReason :=
  match input.assetFor assertionId with
  | none => [⟨.coverage_incomplete, js "missing verification asset for " ++ assertionId⟩]
  | some asset =>
    let evaluated := evaluateVerificationAsset asset assertionId
    if evaluated.ok then []
    else [⟨.coverage_incomplete, assertionId ++ js ": " ++ evaluated.reason⟩]

def assetReasons : List RepairGateReason :=
  (input.requiredAssertionIds.getD []).flatMap input.assertionReasons

def untraceable : List LedgerFinding :=
  input.review.findings.filter fun row => row.status = .accepted && !row.acceptedWithReason

def exceptionReasons : List RepairGateReason :=
  if input.untraceable ≠ [] then
    [⟨.exception_untraceable, JsString.join (js ",") (input.untraceable.map (·.id))⟩]
  else []

def verdictReasons : List RepairGateReason :=
  if input.review.aggregatorVerdict = some .changes_requested ∧ input.openFindings = [] then
    [⟨.verdict_contradiction, js "aggregator=changes-requested with no open findings"⟩]
  else []

def adopted : Bool :=
  input.adoptedExistingRemote && input.remoteHead.any fun head =>
    head ≠ unknownText && toLowerCase head = input.candidate

def publishedUnknown : Bool := input.publishedSha = some unknownText

def publicationReasons : List RepairGateReason :=
  if input.baseUnchanged = .unknown ∨ input.prOpen = .unknown ∨
      (input.publishedUnknown ∧ !input.adopted) ∨
      input.remoteHead = some unknownText ∨ input.remoteHead = none ∨
      input.differs input.remoteHead ∨ input.differs input.publishedSha ∨
      input.baseUnchanged ≠ .known true ∨ input.prOpen ≠ .known true then
    [⟨if input.baseUnchanged = .unknown ∨ input.prOpen = .unknown ∨ input.publishedUnknown then
        .identity_unknown
      else .pr_drift,
      js "head=" ++ orNull input.remoteHead ++ js " baseUnchanged=" ++ input.baseUnchanged.text ++
        js " open=" ++ input.prOpen.text ++ js " published=" ++ orNull input.publishedSha ++
        js " adopted=" ++ .ofBool input.adopted⟩]
  else []

def stageReasons : List RepairGateReason :=
  match input.stageOrDefault with
  | .published_pr => input.publicationReasons
  | .local_candidate => []

def reasons : List RepairGateReason :=
  input.policyReasons ++ input.identityReasons ++ input.squadReasons ++ input.reviewReasons ++
    input.coverageReasons ++ input.openReasons ++ input.assetReasons ++ input.exceptionReasons ++
    input.verdictReasons ++ input.stageReasons

end RepairGateInput

section

variable [Unicode]

def evaluateRepairGate (input : RepairGateInput) : RepairGateResult where
  passed := input.reasons = []
  candidateSha := input.candidate
  checkedAt := input.checkedAt
  policyHash := input.policyHash
  sourceReviewRunId := input.source.runId
  finalReviewRunId := input.review.runId
  squadTaskId := input.squad.map (·.taskId)
  reasons := input.reasons
  stage := input.stageOrDefault

variable {input : RepairGateInput}

theorem evaluateRepairGate_passed :
    (evaluateRepairGate input).passed = true ↔
      input.policyReasons = [] ∧ input.identityReasons = [] ∧ input.squadReasons = [] ∧
        input.reviewReasons = [] ∧ input.coverageReasons = [] ∧ input.openReasons = [] ∧
        input.assetReasons = [] ∧ input.exceptionReasons = [] ∧ input.verdictReasons = [] ∧
        input.stageReasons = [] := by
  simp only [evaluateRepairGate, RepairGateInput.reasons, decide_eq_true_eq,
    List.append_eq_nil_iff, and_assoc]

namespace RepairGateInput

theorem identityReasons_nil (clear : input.identityReasons = []) :
    fullSha input.candidate ≠ none ∧ toLowerCase input.source.sha = input.candidate ∧
      toLowerCase input.review.sha = input.candidate := by
  simp only [identityReasons] at clear
  split at clear
  · contradiction
  · rename_i passed
    simp only [not_or, ne_eq, not_not] at passed
    exact ⟨passed.1, passed.2.2.1, passed.2.2.2.1⟩

theorem squadReasons_nil (clear : input.squadReasons = []) :
    ∃ squad, input.squad = some squad ∧ toLowerCase squad.sha = input.candidate ∧
      input.policyHash ≠ unknownText ∧ input.policyHash = squad.gatePolicyHash := by
  cases found : input.squad with
  | none => simp [squadReasons, found] at clear
  | some squad =>
    simp only [squadReasons, found] at clear
    split at clear
    · rename_i accepted
      simp only [squadAccepted, policyHashMatches, Bool.and_eq_true, decide_eq_true_eq,
        ne_eq, decide_not, Bool.not_eq_true'] at accepted
      refine ⟨squad, rfl, accepted.1.2, ?_, accepted.2.2⟩
      simpa using accepted.2.1
    · contradiction

theorem openReasons_nil : input.openReasons = [] ↔ input.openFindings = [] := by
  by_cases empty : input.openFindings = [] <;> simp [openReasons, empty]

omit [Unicode] in
theorem coverageReasons_nil : input.coverageReasons = [] ↔
    input.review.evidenceComplete = some true ∧ input.uncovered = [] := by
  by_cases complete : input.review.evidenceComplete = some true <;>
    by_cases covered : input.uncovered = [] <;> simp [coverageReasons, complete, covered]

theorem assertionReasons_nil {assertionId : JsString} :
    input.assertionReasons assertionId = [] ↔
      ∃ asset, input.assetFor assertionId = some asset ∧
        (evaluateVerificationAsset asset assertionId).ok = true := by
  cases found : input.assetFor assertionId with
  | none => simp [assertionReasons, found]
  | some asset => simp [assertionReasons, found]

theorem assetReasons_nil {required : List JsString} (named : input.requiredAssertionIds = some required) :
    input.assetReasons = [] ↔
      ∀ assertionId ∈ required, ∃ asset, input.assetFor assertionId = some asset ∧
        (evaluateVerificationAsset asset assertionId).ok = true := by
  simp only [assetReasons, named, Option.getD_some, List.flatMap_eq_nil_iff, assertionReasons_nil]

theorem stageReasons_nil (clear : input.stageReasons = [])
    (published : input.stageOrDefault = .published_pr) :
    ∃ head, input.remoteHead = some head ∧ toLowerCase head = input.candidate := by
  simp only [stageReasons, published, publicationReasons] at clear
  split at clear
  · contradiction
  · rename_i passed
    simp only [not_or] at passed
    obtain ⟨-, -, -, knownHead, present, sameHead, -⟩ := passed
    cases remote : input.remoteHead with
    | none => exact absurd remote present
    | some head =>
      refine ⟨head, rfl, ?_⟩
      by_contra other
      have known : head ≠ unknownText := fun same => knownHead (by rw [remote, same])
      simp [differs, remote, known, other] at sameHead

end RepairGateInput

end

end CouncilKit.Repair
