import CouncilKit.Data.Binary64
import CouncilKit.Data.Regex

namespace CouncilKit.Review

open Data Data.Regex

/-- `[\w.-]` -/
def pathUnit : Regex := .unitWhere fun unit => isWord unit || unit == 0x2E || unit == 0x2D

/-- `[\w.-]+\.[A-Za-z][A-Za-z0-9]{0,7}` -/
def SOURCE_FILE_EXT : Regex :=
  all [plus pathUnit, lit (js "."), .unitWhere isAlpha,
    between 0 7 (.unitWhere fun unit => isAlpha unit || isDigit unit)]

/-- `((?:[\w.-]+\/)*SOURCE_FILE_EXT):(\d+)(?:-(\d+))?` -/
def FILE_LINE_CITATION_SOURCE : Regex :=
  all [.capture 1 (all [star (all [plus pathUnit, lit (js "/")]), SOURCE_FILE_EXT]),
    lit (js ":"), .capture 2 (plus digit), optional (all [lit (js "-"), .capture 3 (plus digit)])]

def ASSESSMENT_LOCATION : Regex := all [.start, FILE_LINE_CITATION_SOURCE, .stop]

example : test ASSESSMENT_LOCATION (js "pkg/log.go:12-20") = true := by decide
example : test ASSESSMENT_LOCATION (js "12:30") = false := by decide

structure FileLineCitation where
  path : JsString
  start : ℚ
  «end» : ℚ

def normalizeSourcePath [Unicode] (path : JsString) : JsString :=
  let slashes := replaceAll (lit (js "\\")) (fun _ => js "/") path
  let relative := replaceFirst (all [.start, lit (js "./")]) (fun _ => []) slashes
  toLowerCase (replaceAll (plus (lit (js "/"))) (fun _ => js "/") relative)

def citationOf (found : Match) : Option FileLineCitation := do
  let path ← found.group 1
  let start ← numberOf ((found.group 2).getD [])
  let finish ← match found.group 3 with
    | none => some start
    | some digits => numberOf digits
  pure ⟨path, start, finish⟩

def citationKey [Unicode] (citation : FileLineCitation) : JsString × ℚ × ℚ :=
  (normalizeSourcePath citation.path, citation.start, citation.end)

def parseFileLineCitations [Unicode] (text : JsString) : List FileLineCitation :=
  ((matchAll FILE_LINE_CITATION_SOURCE text).filterMap citationOf).foldl
    (fun out citation =>
      if out.any fun seen => citationKey seen = citationKey citation then out
      else out ++ [citation]) []

inductive FindingStatus where
  | «open» | closed | accepted | regress
deriving DecidableEq

inductive FindingSeverity where
  | critical | major | minor | nit
deriving DecidableEq

inductive FindingSource where
  | consensus | unique | unknown
deriving DecidableEq

inductive FindingContractClass where
  | in_contract | out_of_spec
deriving DecidableEq

inductive VerificationOutcome where
  | verified_closed | still_open | not_evaluated
deriving DecidableEq

inductive VerificationMethod where
  | regression_test | code_trace | not_evaluated
deriving DecidableEq

structure FindingVerification where
  outcome : VerificationOutcome
  candidateSha : JsString
  runId : JsString
  attemptId : JsString
  reviewer : JsString
  method : VerificationMethod
  reason : JsString
  evidence : JsString
  command : Option JsString := none
  locations : Option (List JsString) := none
  runComplete : Bool
deriving DecidableEq

structure FindingRepairClaim where
  candidateSha : Option JsString
  runId : JsString
  «at» : JsString
deriving DecidableEq

structure LedgerFinding where
  id : JsString
  severity : FindingSeverity
  status : FindingStatus
  title : JsString
  text : JsString
  source : FindingSource
  reviewer : Option JsString
  files : List JsString
  contractClass : Nullish FindingContractClass := .absent
  invariantId : Nullish JsString := .absent
  counterexample : Nullish JsString := .absent
  repairClaim : Option FindingRepairClaim := none
  verification : Option FindingVerification := none
  acceptedReason : Option JsString := none
  acceptedAt : Option JsString := none
deriving DecidableEq

def isHex (unit : CodeUnit) : Bool :=
  (0x30 ≤ unit && unit ≤ 0x39) || (0x61 ≤ unit && unit ≤ 0x66)

/-- `/^[0-9a-f]{40}$/` -/
def FULL_COMMIT_SHA (text : JsString) : Bool := text.length = 40 && text.all isHex

def sized (least most : Nat) (text : JsString) : Option JsString :=
  if least ≤ text.length ∧ text.length ≤ most then some text else none

/-- `z.string().trim().min(1).max(most)` -/
def trimmed (most : Nat) (text : JsString) : Option JsString := sized 1 most text.trim

def checked {α : Type*} (check : α → Option α) : Option α → Option (Option α)
  | none => some none
  | some value => (check value).map some

namespace FindingVerification

/-- `findingVerificationSchema.safeParse`: the checked value, its free texts trimmed. -/
def safeParse (verification : FindingVerification) : Option FindingVerification := do
  guard (FULL_COMMIT_SHA verification.candidateSha)
  guard (1 ≤ verification.runId.length)
  guard (1 ≤ verification.attemptId.length)
  let reviewer ← sized 1 120 verification.reviewer
  let reason ← trimmed 2000 verification.reason
  let evidence ← trimmed 4000 verification.evidence
  let command ← checked (trimmed 2000) verification.command
  let locations ← checked (fun locations =>
    if 1 ≤ locations.length ∧ locations.length ≤ 32 ∧
        locations.all (Regex.test ASSESSMENT_LOCATION) then some locations
    else none) verification.locations
  pure { verification with reviewer, reason, evidence, command, locations }

theorem safeParse_outcome {verification parsed : FindingVerification}
    (accepted : verification.safeParse = some parsed) : parsed.outcome = verification.outcome := by
  simp only [safeParse, Option.bind_eq_bind, Option.bind_eq_some_iff,
    Option.pure_def, Option.some.injEq] at accepted
  obtain ⟨_, _, _, _, _, _, _, _, _, _, _, _, _, _, _, _, rfl⟩ := accepted
  rfl

end FindingVerification

namespace LedgerFinding

/-- Legacy closed is a historical claim, never proof of a verified resolution.
`sha` is the optional argument: absent accepts the recorded candidate. -/
def isFindingVerifiedClosed (row : LedgerFinding) (sha : Nullish JsString) : Bool :=
  match row.verification.bind FindingVerification.safeParse with
  | none => false
  | some verification =>
    row.status == .closed &&
    verification.outcome == .verified_closed &&
    verification.runComplete &&
    verification.method != .not_evaluated &&
    (if verification.method = .regression_test then verification.command.any (· ≠ [])
      else verification.locations.any (· ≠ [])) &&
    row.repairClaim.all (·.candidateSha == some verification.candidateSha) &&
    (sha == .absent || sha == .value verification.candidateSha)

/-- `row.status === "accepted" && Boolean(row.acceptedReason?.trim())` -/
def acceptedWithReason (row : LedgerFinding) : Bool :=
  row.status == .accepted && row.acceptedReason.any fun reason => reason.trim ≠ []

end LedgerFinding

end CouncilKit.Review
