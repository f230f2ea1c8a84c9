import CouncilKit.Auto.PrProfile
import CouncilKit.Data.Dialogue

namespace CouncilKit.Auto

open Data Repair Review

/-! Whatever the bridge does not decide itself it asks: the commands it runs, the
files it keeps and the processes it looks at.  A failing reply stands for an
operation that throws, such as reading an invalid identity file.
-/

structure Output where
  stdout : JsString
  stderr : JsString
  /-- `none` when the command was killed. -/
  exitCode : Option Int

structure ProcessFingerprint where
  pid : Nat
  pgid : Nat
  startKey : JsString

inductive ExecutionStatus where
  | running | failed | stopped
deriving DecidableEq

structure BridgeIdentity where
  taskId : JsString
  taskDir : JsString
  workspaceCwd : JsString
  nativeSession : Option JsString := none
  orchestratorPid : Option Nat := none
  writerPids : List Nat := []
  delivery : Option SquadBridgeDelivery := none
  stopped : Bool := false
  executionStatus : ExecutionStatus := .running
  failReason : Option JsString := none
  process : Option ProcessFingerprint := none
  processGroup : List ProcessFingerprint := []
  observedExitCode : Option Int := none
  observedSignal : Option JsString := none
  executionId : Option JsString := none

structure ExecutionGeneration where
  executionId : JsString
  pid : Option Nat
  fingerprint : Option ProcessFingerprint

structure SquadBridgeProbe where
  /-- The `squadctl` to run, if one was given or found. -/
  executable : Option JsString
  reason : Option JsString

inductive Question where
  | git (cwd : JsString) (argv : List JsString)
  | squadctl (argv : List JsString)
  | probe
  | readIdentity (taskId : JsString)
  | writeIdentity (taskId : JsString) (identity : BridgeIdentity)
  /-- `this.tasks.get(taskId)` -/
  | taskDirOf (taskId : JsString)
  | writerStillLive (identity : BridgeIdentity)
  | isCurrentGeneration (taskId : JsString) (generation : ExecutionGeneration)
  /-- The profile file of a task directory, when it is there and JSON. -/
  | readProfile (taskDir : JsString)
  /-- Answers the path written. -/
  | writeProfile (taskDir : JsString) (profile : SquadPrProfile)

@[reducible] def Answer : Question → Type
  | .git _ _ => Output
  | .squadctl _ => Output
  | .probe => SquadBridgeProbe
  | .readIdentity _ => Option BridgeIdentity
  | .writeIdentity _ _ => Unit
  | .taskDirOf _ => Option JsString
  | .writerStillLive _ => Bool
  | .isCurrentGeneration _ _ => Bool
  | .readProfile _ => Option Json
  | .writeProfile _ _ => JsString

abbrev Bridge (α : Type) := Dialogue Question Answer JsString α

abbrev BridgeTrace := List (Dialogue.Exchange Answer JsString)

def git (cwd : JsString) (argv : List JsString) : Bridge Output :=
  Dialogue.perform (Question.git cwd argv)

def Output.succeeded (output : Output) : Bool := output.exitCode = some 0

def ZERO_OID : JsString := List.replicate 40 0x30

def checkRefFormat (ref : JsString) : List JsString := [js "check-ref-format", ref]

def revParse (sha : JsString) : List JsString :=
  [js "rev-parse", js "--verify", js "--end-of-options", sha]

def catFile (sha : JsString) : List JsString := [js "cat-file", js "-t", sha]

def isAncestor (old new : JsString) : List JsString :=
  [js "merge-base", js "--is-ancestor", old, new]

def symbolicRef (ref : JsString) : List JsString :=
  [js "symbolic-ref", js "--quiet", js "--", ref]

def REF_FORMAT : JsString :=
  js "--format=%(objectname)%00%(objecttype)%00%(symref)%00%(refname)"

def forEachRef (ref : JsString) : List JsString := [js "for-each-ref", REF_FORMAT, js "--", ref]

def updateRef (ref new old : JsString) : List JsString :=
  [js "update-ref", js "--no-deref", ref, new, old]

variable [Unicode]

inductive PinCandidateFailureReason where
  | invalidTaskId | invalidSha | invalidRef | candidateMissing | candidateNotCommit
  | expectedOldMissing | expectedOldNotCommit | notFastForward | symbolicRef | danglingRef
  | refExistsWithDifferentValue | inspectFailed | createFailed

inductive PinCandidateResult where
  | pinned (ref sha : JsString)
  | failed (reason : PinCandidateFailureReason) (message : JsString)

def fail (reason : PinCandidateFailureReason) (message : String) : Bridge PinCandidateResult :=
  pure (.failed reason (js message))

end CouncilKit.Auto
