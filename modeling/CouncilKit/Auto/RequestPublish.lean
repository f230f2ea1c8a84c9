import CouncilKit.Auto.PinnedRef

namespace CouncilKit.Auto

open Data Repair Review Dialogue

/-- How the bridge reads the text of a command and cleans a diagnostic. -/
class BridgeText where
  jsonParseEmbedded : JsString → Json
  redact : JsString → JsString
  sanitizePublishMessage : JsString → JsString

export BridgeText (jsonParseEmbedded redact sanitizePublishMessage)

inductive SquadBridgeFailureCode where
  | BRIDGE_VERSION_MISSING | BRIDGE_VERSION_MISMATCH | ANCESTOR_FROM_PACKAGE | HISTORY_INVALID
  | JOURNAL_GATES_INCOMPLETE | UNTRUSTED_RECEIPT

structure PublishReceipt where
  candidateSha : JsString
  expectedOldSha : JsString
  repo : JsString
  ref : JsString

inductive SquadBridgePublishResult where
  | published (receipt : PublishReceipt)
  | refused (code : SquadBridgeFailureCode) (stage : JsString) (exitCode : Option Int)
      (message : JsString)

variable [Unicode] [BridgeText]

variable (taskId : JsString)

omit [Unicode] [BridgeText] in
def readIdentity : Bridge (Option BridgeIdentity) :=
  perform (Question.readIdentity taskId)

def writeIdentity (identity : BridgeIdentity) : Bridge BridgeIdentity := do
  let _ ← (perform (Question.writeIdentity taskId identity) : Bridge Unit)
  return identity

def runSquadctlSync (argv : List JsString) : Bridge Output := do
  let probe ← (perform Question.probe : Bridge SquadBridgeProbe)
  if (probe.executable.getD []) = [] then return ⟨[], js "squadctl missing", some 2⟩
  else perform (Question.squadctl argv)

def runSquadctl (argv : List JsString) : Bridge Output := do
  let probe ← (perform Question.probe : Bridge SquadBridgeProbe)
  if (probe.executable.getD []) = [] then
    return ⟨[], probe.reason.getD (js "squadctl missing"), some 2⟩
  else perform (Question.squadctl argv)

def statusArgv (taskDir : JsString) : List JsString :=
  [js "status", js "--task-dir", taskDir, js "--json"]

/-- `generation && !this.isCurrentGeneration(taskId, generation)` -/
def superseded (generation : Option ExecutionGeneration) : Bridge Bool :=
  match generation with
  | none => pure false
  | some generation => do
    let current ← (perform (Question.isCurrentGeneration taskId generation) : Bridge Bool)
    return !current

def markObservedExit (generation : Option ExecutionGeneration)
    (code : Option Int) (signal : Option JsString) (reason : JsString) :
    Bridge (Option BridgeIdentity) := do
  if ← superseded taskId generation then readIdentity taskId
  else
  match ← readIdentity taskId with
  | none => return none
  | some identity =>
    if identity.stopped then return some identity
    else if identity.executionStatus = .failed then return some identity
    else if ← superseded taskId generation then return some identity
    else
    let written ← writeIdentity taskId { identity with
      executionStatus := .failed
      failReason := some reason
      observedExitCode := code
      observedSignal := signal
      orchestratorPid := none
      writerPids := [] }
    return some written

def BridgeIdentity.generation (identity : BridgeIdentity) : Option ExecutionGeneration :=
  (identity.executionId.filter (· ≠ [])).map fun executionId =>
    ⟨executionId, identity.orchestratorPid, identity.process⟩

def BridgeIdentity.observedEnd (identity : BridgeIdentity) : Bool :=
  identity.nativeSession.any (· ≠ []) || identity.observedExitCode.isSome ||
    identity.observedSignal.any (· ≠ [])

def reconcileProcess : Bridge (Option BridgeIdentity) := do
  match ← readIdentity taskId with
  | none => return none
  | some identity =>
    if identity.stopped || identity.executionStatus = .failed then return some identity
    else if ← (perform (Question.writerStillLive identity) : Bridge Bool) then
      return some identity
    else
    let snapshot ← runSquadctlSync (statusArgv identity.taskDir)
    let event := mapSquadStatus (jsonParseEmbedded snapshot.stdout) false
    if canRequestPublish event then
      let written ← writeIdentity taskId { identity with orchestratorPid := none, writerPids := [] }
      return some written
    else if identity.observedEnd then
      markObservedExit taskId identity.generation identity.observedExitCode identity.observedSignal
        (identity.failReason.getD (js "orchestrator exited before a publishable candidate"))
    else
      markObservedExit taskId identity.generation identity.observedExitCode identity.observedSignal
        (js "orchestrator process is no longer the frozen writer")

def taskDirFor (identity : Option BridgeIdentity) : Bridge (Option JsString) :=
  match identity with
  | some identity => pure (some identity.taskDir)
  | none => perform (Question.taskDirOf taskId)

def demoteExited (identity : Option BridgeIdentity) (event : SquadEvent) :
    Bridge SquadEvent :=
  match identity with
  | none => pure event
  | some identity => do
    let live ← (perform (Question.writerStillLive identity) : Bridge Bool)
    if !live && !canRequestPublish event && event.kind = .running then
      let failed ← markObservedExit taskId identity.generation identity.observedExitCode
        identity.observedSignal (js "orchestrator exited before a publishable candidate")
      if failed.any (·.executionStatus = .failed) then return ⟨.failed, event.journal⟩
      else return event
    else return event

def failedEvent : SquadEvent := ⟨.failed, (mapSquadStatus .null false).journal⟩

def status : Bridge SquadEvent := do
  let identity ← reconcileProcess taskId
  if identity.any fun identity => identity.stopped || identity.executionStatus = .stopped then
    return mapSquadStatus .null true
  else if identity.any (·.executionStatus = .failed) then return failedEvent
  else
  let taskDir ← taskDirFor taskId identity
  if taskDir.getD [] = [] then return failedEvent
  else
  let snapshot ← runSquadctlSync (statusArgv (taskDir.getD []))
  if !snapshot.succeeded then return failedEvent
  else
  demoteExited taskId identity
    (mapSquadStatus (jsonParseEmbedded snapshot.stdout) (identity.any (·.stopped)))

def PUBLISH_DIAGNOSTIC_STAGES : List String :=
  ["journal", "identity", "remote-url", "pin-candidate", "check-remote", "push-remote"]

def publishRefuse (code : SquadBridgeFailureCode) (stage : String) (message : JsString)
    (output : Option Output := none) : SquadBridgePublishResult :=
  let parts := [message, (output.map (·.stderr)).getD [], (output.map (·.stdout)).getD []]
  .refused code (js (if stage ∈ PUBLISH_DIAGNOSTIC_STAGES then stage else "publish"))
    (output.bind (·.exitCode))
    (sanitizePublishMessage
      (JsString.join (js "\n") ((parts.filter fun part => part.trim ≠ []).map redact)))

def integrateArgv (verb : IntegrateVerb) (taskDir workspace profilePath : JsString)
    (identity : FrozenIntegrateIdentity) : List JsString :=
  [js "integrate", verb.text, js "--task-dir", taskDir, js "--repo-root", workspace,
    js "--profile", profilePath, js "--expected-old-sha", identity.expectedOldSha,
    js "--candidate-sha", identity.candidateSha, js "--json"]

def receives (output : Output) (expected : FrozenIntegrateIdentity) (verb : IntegrateVerb) : Bool :=
  output.succeeded && isTrustedSquadctlIntegrateReceipt (jsonParseEmbedded output.stdout) expected verb

def pushRemote (taskDir workspace profilePath : JsString)
    (identity expected : FrozenIntegrateIdentity) : Bridge SquadBridgePublishResult := do
  let push ← runSquadctl (integrateArgv .pushRemote taskDir workspace profilePath identity)
  if !receives push expected .pushRemote then
    return publishRefuse .UNTRUSTED_RECEIPT "push-remote"
      (js "push-remote refused before or during target update") push
  else return .published {
    candidateSha := identity.candidateSha
    expectedOldSha := identity.expectedOldSha
    repo := identity.repo
    ref := identity.sourceBranch }

end CouncilKit.Auto
