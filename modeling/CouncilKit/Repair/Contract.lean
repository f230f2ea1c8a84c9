import CouncilKit.Review.LedgerFinding

namespace CouncilKit.Repair

open Data Review Regex UInt16 Bool List

inductive VerdictRole where
  | controller | independent_adjudicator | builder
deriving DecidableEq

inductive ExecutionSource where
  | squadctl_host_run | squadctl_evidence | ck_isolated_run | independent_reviewer_trace
deriving DecidableEq

inductive EvidenceKind where
  | regression_test | code_trace | command_receipt
deriving DecidableEq

structure TestRunReceipt where
  command : Option JsString := none
  cwd : Option JsString := none
  exitCode : Option Int := none
  snapshotSha : JsString
  testAssetVersion : JsString
  dirtyTree : Bool
  skipped : Bool
  ranZeroTests : Bool
  failed : Option Bool := none
  role : VerdictRole
  executionSource : Option ExecutionSource := none
  locations : Option (List JsString) := none
deriving DecidableEq

structure VerificationAsset where
  assertionId : JsString
  snapshotSha : JsString
  testAssetVersion : JsString
  extraProbesDeclared : Bool
  extraProbeManifestVersion : Option JsString := none
  kind : Option EvidenceKind := none
  receipts : List TestRunReceipt
deriving DecidableEq

/-- `{ ok, reason }` -/
structure AssetVerdict where
  ok : Bool
  reason : JsString

def inferAssetKind (asset : VerificationAsset) : EvidenceKind :=
  if asset.receipts.all (·.executionSource == some .independent_reviewer_trace) then .code_trace
  else .command_receipt

/-- `!text?.trim()` -/
def isBlank (text : Option JsString) : Bool := text.all fun text => text.trim = []

variable [Unicode]

def receiptRefusal (asset : VerificationAsset) (kind : EvidenceKind) (receipt : TestRunReceipt) :
    Option JsString :=
  if receipt.role = .builder then some (js "builder cannot certify verification")
  else if receipt.dirtyTree then some (js "dirty tree is not the same verification object")
  else if toLowerCase receipt.snapshotSha ≠ toLowerCase asset.snapshotSha then
    some (js "receipt snapshot drifted from asset")
  else if receipt.testAssetVersion ≠ asset.testAssetVersion then
    some (js "test asset version mismatch")
  else if kind = .code_trace then
    if receipt.executionSource ≠ some .independent_reviewer_trace then
      some (js "code_trace requires an independent reviewer trace")
    else if receipt.locations.all (· = []) then some (js "code_trace missing locations")
    else none
  else if isBlank receipt.command then some (js "command receipt missing command")
  else if isBlank receipt.cwd then some (js "command receipt missing cwd")
  else match receipt.exitCode with
    | none => some (js "command receipt missing exit code")
    | some exitCode =>
      if receipt.executionSource = none then some (js "command receipt missing execution source")
      else if receipt.failed = some true then some (js "failing tests cannot prove pass")
      else if receipt.skipped ∨ receipt.ranZeroTests then
        some (js "zero tests or skipped tests cannot prove pass")
      else if exitCode ≠ 0 then some (js "command exited " ++ js (toString exitCode))
      else none

def evaluateVerificationAsset (asset : VerificationAsset) (assertionId : JsString) :
    AssetVerdict :=
  if asset.assertionId ≠ assertionId then ⟨false, js "asset is bound to a different assertion"⟩
  else if asset.receipts = [] then ⟨false, js "no test receipts"⟩
  else
    match asset.receipts.findSome? (receiptRefusal asset (asset.kind.getD (inferAssetKind asset))) with
    | some reason => ⟨false, reason⟩
    | none => ⟨true, js "verified"⟩

/-- `/^[0-9a-f]{40}$/i` -/
def FULL_SHA (text : JsString) : Bool :=
  text.length = 40 && text.all fun unit => isHex unit || (0x41 ≤ unit && unit ≤ 0x46)

omit [Unicode] in
theorem isHex_lowerAscii {unit : CodeUnit}
    (hex : isHex unit = true ∨ 0x41 ≤ unit ∧ unit ≤ 0x46) :
    isHex (lowerAscii unit) = true ∧ unit < 0x80 := by
  have sum : (unit + 0x20).toNat = (unit.toNat + 0x20) % 65536 := UInt16.toNat_add unit 0x20
  simp only [isHex, or_eq_true, and_eq_true, decide_eq_true_eq,
    le_iff_toNat_le, lt_iff_toNat_lt, reduceToNat] at hex ⊢
  simp only [lowerAscii, and_eq_true, decide_eq_true_eq, le_iff_toNat_le, reduceToNat]
  split
  · omega
  · omega

theorem FULL_COMMIT_SHA_toLowerCase {value : JsString} (full : FULL_SHA value = true) :
    FULL_COMMIT_SHA (toLowerCase value) = true := by
  simp only [FULL_SHA, and_eq_true, decide_eq_true_eq, all_eq_true, or_eq_true] at full
  obtain ⟨length, units⟩ := full
  have ascii : isAscii value = true := by
    simp only [isAscii, all_eq_true, decide_eq_true_eq]
    exact fun unit member => (isHex_lowerAscii (units unit member)).2
  rw [toLowerCase_ascii value ascii, FULL_COMMIT_SHA, length_map, length]
  simp only [decide_true, Bool.true_and, all_map, all_eq_true]
  exact fun unit member => (isHex_lowerAscii (units unit member)).1

omit [Unicode] in
theorem hex_lower {unit : CodeUnit} (hex : isHex unit = true) : unit < 0x80 ∧ lowerAscii unit = unit := by
  simp only [isHex, Bool.or_eq_true, Bool.and_eq_true, decide_eq_true_eq,
    le_iff_toNat_le, reduceToNat] at hex
  constructor
  · simp only [lt_iff_toNat_lt, reduceToNat]
    omega
  · simp only [lowerAscii, and_eq_true, decide_eq_true_eq, le_iff_toNat_le, reduceToNat]
    rw [if_neg (by omega)]

theorem FULL_COMMIT_SHA_lower {text : JsString} (full : FULL_COMMIT_SHA text = true) :
    toLowerCase text = text := by
  simp only [FULL_COMMIT_SHA, and_eq_true, all_eq_true] at full
  have digits := full.2
  have ascii : isAscii text = true := by
    simp only [isAscii, all_eq_true, decide_eq_true_eq]
    exact fun unit member => (hex_lower (digits unit member)).1
  rw [toLowerCase_ascii text ascii]
  have same : ∀ unit ∈ text, lowerAscii unit = unit :=
    fun unit member => (hex_lower (digits unit member)).2
  exact (map_congr_left same).trans (map_id' text)

/-- A 40-hex commit in lowercase, or `none` when the value is not one. -/
def fullSha (value : JsString) : Option JsString :=
  if FULL_SHA value then some (toLowerCase value) else none

def EMPTY_EXTRA_PROBE_MANIFEST : JsString := js "empty-extra-probes:none"

def bindCodeTraceAsset (assertionId snapshotSha : JsString) (locations : List JsString)
    (runId testAssetVersion : JsString) : Option VerificationAsset :=
  if !FULL_SHA snapshotSha || locations = [] then none
  else some {
    assertionId
    snapshotSha := toLowerCase snapshotSha
    testAssetVersion
    extraProbesDeclared := false
    extraProbeManifestVersion := some EMPTY_EXTRA_PROBE_MANIFEST
    kind := some .code_trace
    receipts := [{
      cwd := some runId
      snapshotSha := toLowerCase snapshotSha
      testAssetVersion
      dirtyTree := false
      skipped := false
      ranZeroTests := false
      role := .independent_adjudicator
      executionSource := some .independent_reviewer_trace
      locations := some locations }] }

/-- `assertionId.replace(/-v\d+$/, "").replace(/^A-/, "")` -/
def findingOfAssertion (assertionId : JsString) : JsString :=
  let unversioned := replaceFirst
    (all [lit (js "-v"), plus digit, .stop]) (fun _ => []) assertionId
  replaceFirst (all [.start, lit (js "A-")]) (fun _ => []) unversioned

/-- The trace a review recorded for a finding.  The snapshot is the one its
verification names; `snapshotSha` stands in when it names none. -/
def codeTraceFromReview (hashTestAssetContents : List JsString → JsString)
    (findings : List LedgerFinding) (assertionId snapshotSha : JsString) :
    Option VerificationAsset :=
  match findings.find? (·.id = findingOfAssertion assertionId) with
  | none => none
  | some row =>
    let locations := (row.verification.bind (·.locations)).getD []
    let sha := (row.verification.map (·.candidateSha)).getD snapshotSha
    if locations = [] then none
    else bindCodeTraceAsset assertionId sha locations
      ((row.verification.map (·.runId)).getD (js "unknown")) (hashTestAssetContents locations)

end CouncilKit.Repair
