import CouncilKit.Data.JsonParse
import CouncilKit.Repair.PolicyFreeze

namespace CouncilKit.Review

open Data Repair Regex

structure ReviewerAssessment where
  findingId : JsString
  candidateSha : JsString
  outcome : VerificationOutcome
  method : VerificationMethod
  reason : JsString
  evidence : JsString
  command : Option JsString := none
  locations : Option (List JsString) := none
deriving DecidableEq

structure SchemaIssue where
  unrecognizedKeys : Bool := false
  path : List JsString

def outcomeOf (text : JsString) : Option VerificationOutcome :=
  if text = js "verified_closed" then some .verified_closed
  else if text = js "still_open" then some .still_open
  else if text = js "not_evaluated" then some .not_evaluated
  else none

def methodOf (text : JsString) : Option VerificationMethod :=
  if text = js "regression_test" then some .regression_test
  else if text = js "code_trace" then some .code_trace
  else if text = js "not_evaluated" then some .not_evaluated
  else none

abbrev Members := List (JsString × Json)

def textMember {α : Type} (row : Members) (key : String) (check : JsString → Option α) :
    Except SchemaIssue α :=
  match (stringOf (property row key)).bind check with
  | some value => .ok value
  | none => .error { path := [js key] }

def optionalMember {α : Type} (row : Members) (key : String)
    (check : Json → Except SchemaIssue α) : Except SchemaIssue (Option α) :=
  match property row key with
  | none => .ok none
  | some value => (check value).map some

def commandText (value : Json) : Except SchemaIssue JsString :=
  match (stringOf (some value)).bind (trimmed 2000) with
  | some text => .ok text
  | none => .error { path := [js "command"] }

def locationText (value : Json) : Option JsString :=
  (stringOf (some value)).filter (test ASSESSMENT_LOCATION)

def locationTexts (value : Json) : Except SchemaIssue (List JsString) :=
  match value with
  | .array items =>
    match items.findIdx? fun item => (locationText item).isNone with
    | some index => .error { path := [js "locations", .ofNat index] }
    | none =>
      if 1 ≤ items.length ∧ items.length ≤ 32 then .ok (items.filterMap locationText)
      else .error { path := [js "locations"] }
  | _ => .error { path := [js "locations"] }

def ASSESSMENT_KEYS : List JsString :=
  [js "findingId", js "candidateSha", js "outcome", js "method", js "reason", js "evidence",
    js "command", js "locations"]

/-- `reviewerAssessmentSchema.safeParse` -/
def reviewerAssessmentSchema (value : Json) : Except SchemaIssue ReviewerAssessment :=
  match value with
  | .object row => do
    let findingId ← textMember row "findingId" (sized 1 160)
    let candidateSha ← textMember row "candidateSha" fun text =>
      if FULL_COMMIT_SHA text then some text else none
    let outcome ← textMember row "outcome" outcomeOf
    let method ← textMember row "method" methodOf
    let reason ← textMember row "reason" (trimmed 2000)
    let evidence ← textMember row "evidence" (trimmed 4000)
    let command ← optionalMember row "command" commandText
    let locations ← optionalMember row "locations" locationTexts
    if row.all fun entry => ASSESSMENT_KEYS.contains entry.1 then
      .ok { findingId, candidateSha, outcome, method, reason, evidence, command, locations }
    else .error { unrecognizedKeys := true, path := [] }
  | _ => .error { path := [] }

/-- Drop unknown keys so a `verifiedAt` extra cannot veto an otherwise valid row. -/
def stripUnknownAssessmentKeys : Json → Json
  | .object row => .object (row.filter fun entry => ASSESSMENT_KEYS.contains entry.1)
  | row => row

inductive DiagnosticStatus where
  | valid | invalid | missing | semantic_mismatch
deriving DecidableEq

structure AssessmentDiagnosticItem where
  findingId : Option JsString
  attemptId : JsString
  status : DiagnosticStatus
  errorClass : JsString
  errorPath : JsString

structure DiagnosedAssessment where
  assessment : ReviewerAssessment
  attemptId : JsString
  reviewer : JsString
deriving DecidableEq

def pathOnly (issuePath : List JsString) : JsString :=
  if issuePath = [] then js "/" else js "/" ++ JsString.join (js "/") issuePath

/-- `/```councilkit-findings\s*\n([\s\S]*?)\n```/g` -/
def assessmentBlock : Regex :=
  Regex.all [lit (js "```councilkit-findings"), star space, lit (js "\n"),
    .capture 1 (lazyStar (.unitWhere fun _ => true)), lit (js "\n```")]

def extractAssessmentBlocks (output : JsString) : List JsString :=
  (matchAll assessmentBlock output).map fun found => (found.group 1).getD []

def rowFindingId : Json → Option JsString
  | .object row => (stringOf (property row "findingId")).map fun id => id.clipUtf16 160
  | _ => none

def rowPath (blockIndex index : Nat) : JsString :=
  js "/blocks/" ++ .ofNat blockIndex ++ js "/" ++ .ofNat index

def diagnoseRow (attemptId candidateSha : JsString) (blockIndex index : Nat) (row : Json) :
    AssessmentDiagnosticItem × Option ReviewerAssessment :=
  let path := rowPath blockIndex index
  match reviewerAssessmentSchema (stripUnknownAssessmentKeys row) with
  | .error first =>
    ({ findingId := rowFindingId row
       attemptId
       status := .invalid
       errorClass := if first.unrecognizedKeys then js "unknown_key" else js "schema"
       errorPath := path ++ pathOnly first.path }, none)
  | .ok data =>
    if data.candidateSha ≠ candidateSha then
      ({ findingId := data.findingId
         attemptId
         status := .semantic_mismatch
         errorClass := js "candidate_sha"
         errorPath := path ++ js "/candidateSha" }, none)
    else if data.outcome = .verified_closed ∧ data.method = .not_evaluated then
      ({ findingId := data.findingId
         attemptId
         status := .semantic_mismatch
         errorClass := js "close_without_method"
         errorPath := path ++ js "/method" }, none)
    else
      ({ findingId := data.findingId
         attemptId
         status := .valid
         errorClass := js "ok"
         errorPath := path }, some data)

def blockIssue (attemptId errorClass : JsString) (blockIndex : Nat) (suffix : JsString) :
    AssessmentDiagnosticItem :=
  { findingId := none
    attemptId
    status := .invalid
    errorClass
    errorPath := js "/blocks/" ++ .ofNat blockIndex ++ suffix }

structure Diagnosed where
  items : List AssessmentDiagnosticItem
  valid : List DiagnosedAssessment

def diagnoseBlock (attemptId candidateSha raw : JsString) (blockIndex : Nat) : Diagnosed :=
  match Json.parse raw with
  | none => ⟨[blockIssue attemptId (js "json") blockIndex []], []⟩
  | some (.array rows) =>
    if 200 < rows.length then
      ⟨[blockIssue attemptId (js "schema") blockIndex (js "/length")], []⟩
    else
      let diagnosed := rows.zipIdx.map fun entry =>
        diagnoseRow attemptId candidateSha blockIndex entry.2 entry.1
      ⟨diagnosed.map (·.1), (diagnosed.filterMap (·.2)).map fun data => ⟨data, attemptId, []⟩⟩
  | some _ => ⟨[blockIssue attemptId (js "schema") blockIndex []], []⟩

def diagnoseAttemptAssessments (attemptId output candidateSha : JsString) : Diagnosed :=
  let blocks := (extractAssessmentBlocks output).zipIdx.map fun entry =>
    diagnoseBlock attemptId candidateSha entry.1 entry.2
  ⟨blocks.flatMap (·.items), blocks.flatMap (·.valid)⟩

structure AssessedAttempt where
  attemptId : JsString
  status : JsString
  exitCode : Option Int
  output : JsString
  agentName : JsString

structure DiagnosticsInput where
  runId : JsString
  sha : Option JsString
  requiredFindingIds : List JsString
  attempts : List AssessedAttempt
  extraAssessments : List DiagnosedAssessment := []

structure AssessmentDiagnosticsFile where
  runId : JsString
  sha : Option JsString
  requiredFindingIds : List JsString
  coverageComplete : Bool
  items : List AssessmentDiagnosticItem

def DiagnosticsInput.candidateSha (input : DiagnosticsInput) : JsString :=
  (input.sha.filter FULL_COMMIT_SHA).getD []

def AssessedAttempt.counts (attempt : AssessedAttempt) : Bool :=
  attempt.attemptId ≠ js "aggregator" && attempt.status = js "success" &&
    attempt.exitCode = some 0

def diagnoseAttempt (candidateSha : JsString) (attempt : AssessedAttempt) : Diagnosed :=
  if attempt.counts then
    let diagnosed := diagnoseAttemptAssessments attempt.attemptId attempt.output candidateSha
    ⟨diagnosed.items, diagnosed.valid.map fun row => { row with reviewer := attempt.agentName }⟩
  else ⟨[], []⟩

def extraItem (extra : DiagnosedAssessment) : AssessmentDiagnosticItem :=
  { findingId := extra.assessment.findingId
    attemptId := extra.attemptId
    status := .valid
    errorClass := js "ok"
    errorPath := js "/correction/" ++ extra.assessment.findingId }

def decisiveOutcomes (valid : List DiagnosedAssessment) (id : JsString) : List VerificationOutcome :=
  unique ((valid.filter fun row => row.assessment.findingId = id &&
    row.assessment.outcome ≠ .not_evaluated).map (·.assessment.outcome))

def missingItem (id : JsString) : AssessmentDiagnosticItem :=
  { findingId := id
    attemptId := js "coverage"
    status := .missing
    errorClass := js "missing_required_id"
    errorPath := js "/required/" ++ id }

def contradictoryItem (id : JsString) : AssessmentDiagnosticItem :=
  { findingId := id
    attemptId := js "coverage"
    status := .semantic_mismatch
    errorClass := js "contradictory_outcome"
    errorPath := js "/required/" ++ id ++ js "/outcome" }

def coverageItems (valid : List DiagnosedAssessment) (id : JsString) : List AssessmentDiagnosticItem :=
  let covered := (valid.filter (·.assessment.outcome ≠ .not_evaluated)).map (·.assessment.findingId)
  (if covered.contains id then [] else [missingItem id]) ++
    (if 1 < (decisiveOutcomes valid id).length then [contradictoryItem id] else [])

def buildAssessmentDiagnostics (input : DiagnosticsInput) :
    AssessmentDiagnosticsFile × List DiagnosedAssessment :=
  let diagnosed := input.attempts.map (diagnoseAttempt input.candidateSha)
  let valid := diagnosed.flatMap (·.valid) ++ input.extraAssessments
  let items := diagnosed.flatMap (·.items) ++ input.extraAssessments.map extraItem ++
    input.requiredFindingIds.flatMap (coverageItems valid)
  ({ runId := input.runId
     sha := if input.candidateSha = [] then none else some input.candidateSha
     requiredFindingIds := input.requiredFindingIds
     coverageComplete := input.requiredFindingIds.all fun id =>
       (decisiveOutcomes valid id).length = 1
     items }, valid)

end CouncilKit.Review
