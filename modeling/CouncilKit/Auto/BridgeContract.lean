import CouncilKit.Repair.Contract
import CouncilKit.Repair.PolicyFreeze

namespace CouncilKit.Auto

open Data Repair Review

variable [Unicode]

inductive SquadBridgeEventKind where
  | running | candidate_ready | blocked | failed | stopped
deriving DecidableEq

structure SquadJournalRefs where
  candidateSha : JsString
  invalidated : Bool
  independentReview : Bool
  independentVerify : Bool
  requiredGatesPassed : Bool
  gatePolicyHash : JsString
  observeClosed : Bool

structure SquadEvent where
  kind : SquadBridgeEventKind
  journal : SquadJournalRefs

def isPublishableCandidate (refs : SquadJournalRefs) : Bool :=
  !refs.invalidated && refs.independentReview && refs.independentVerify &&
    refs.requiredGatesPassed && FULL_COMMIT_SHA refs.candidateSha && refs.gatePolicyHash ≠ []

def canRequestPublish (event : SquadEvent) : Bool :=
  event.kind = .candidate_ready && isPublishableCandidate event.journal

def ZERO_SHA : JsString := List.replicate 40 0x30

def recordAt (record : List (JsString × Json)) (key : String) : List (JsString × Json) :=
  asRecord ((property record key).getD .null)

def isTrue : Option Json → Bool
  | some (.bool value) => value
  | _ => false

def isFalse : Option Json → Bool
  | some (.bool value) => !value
  | _ => false

def isEmptyArray : Option Json → Bool
  | some (.array items) => items.isEmpty
  | _ => false

def textIs (value : Option Json) (wanted : String) : Bool := stringOf value = some (js wanted)

def journalFromSquadStatus (view : Json) : SquadJournalRefs :=
  let row := asRecord view
  let candidate := recordAt row "candidate"
  let sha := ((stringOf (property candidate "candidate_sha")).bind fullSha).getD ZERO_SHA
  let completed := textIs (property candidate "status") "completed"
  let policyHash := ((stringOf (property candidate "policy_hash")).filter POLICY_HASH).getD (js "unknown")
  let projection := recordAt row "projection"
  let aggregate := recordAt projection "aggregate_verdict"
  let independence := recordAt row "independence"
  let sameSha := completed && sha ≠ ZERO_SHA &&
    (stringOf (property aggregate "candidate_sha")).bind fullSha = some sha
  let gapsEmpty := isEmptyArray (property aggregate "binding_gaps") &&
    isEmptyArray (property aggregate "independence_gaps") &&
    isEmptyArray (property aggregate "required_gate_gaps")
  let policyOk := textIs (property independence "policy_status") "satisfied" &&
    isTrue (property independence "bound_same_sha") &&
    isTrue (property independence "provenance_complete") &&
    isFalse (property independence "shared_run") &&
    isFalse (property independence "shared_session") &&
    isFalse (property independence "shared_worktree")
  let independentReview := sameSha && isTrue (property aggregate "reviewer_pass")
  let independentVerify := sameSha && isTrue (property aggregate "verifier_pass")
  { candidateSha := sha
    invalidated := isTrue (property candidate "invalidated") ||
      textIs (property candidate "status") "invalidated"
    independentReview
    independentVerify
    requiredGatesPassed := sameSha && independentReview && independentVerify &&
      isTrue (property aggregate "approved") && textIs (property aggregate "verdict") "pass" &&
      gapsEmpty && policyOk && policyHash ≠ js "unknown"
    gatePolicyHash := policyHash
    observeClosed := textIs (property projection "observe_status") "closed" }

def eventKindFromSquadStatus (view : Json) (stopped : Bool) : SquadBridgeEventKind :=
  let row := asRecord view
  let control := (stringOf (property row "control_status")).getD []
  let phase := (stringOf (property row "phase")).getD []
  if stopped then .stopped
  else if control = js "stopped" || control = js "paused" then .stopped
  else if control = js "blocked" || phase = js "blocked" then .blocked
  else if control = js "failed" || phase = js "failed" then .failed
  else if phase = js "integrating" &&
      canRequestPublish ⟨.candidate_ready, journalFromSquadStatus view⟩ then .candidate_ready
  else .running

def mapSquadStatus (view : Json) (stopped : Bool) : SquadEvent :=
  ⟨eventKindFromSquadStatus view stopped, journalFromSquadStatus view⟩

structure FrozenIntegrateIdentity where
  repo : JsString
  sourceBranch : JsString
  expectedOldSha : JsString
  candidateSha : JsString
  remote : Option JsString := none
  remoteRef : Option JsString := none
  profileHash : Option JsString := none

inductive IntegrateVerb where
  | checkRemote | pushRemote

def IntegrateVerb.text : IntegrateVerb → JsString
  | .checkRemote => js "check-remote"
  | .pushRemote => js "push-remote"

/-- `/GH_TOKEN|GITHUB_TOKEN|GIT_ASKPASS|ANTCODE_TOKEN|ghp_|gho_|github_pat_|BEGIN [A-Z ]+PRIVATE KEY/i` -/
def SECRET : Regex :=
  .any [.caseless (js "GH_TOKEN"), .caseless (js "GITHUB_TOKEN"), .caseless (js "GIT_ASKPASS"),
    .caseless (js "ANTCODE_TOKEN"), .caseless (js "ghp_"), .caseless (js "gho_"),
    .caseless (js "github_pat_"),
    .all [.caseless (js "BEGIN "), .plus (.unitWhere fun unit => Regex.isAlpha unit || unit == 0x20),
      .caseless (js "PRIVATE KEY")]]

/-- `JSON.stringify(receipt ?? {})` holds a credential. -/
def receiptContainsSecret (receipt : Json) : Bool :=
  SECRET.test (match receipt with
    | .null => Json.stringify (.object [])
    | receipt => receipt.stringify)

def namesSha (value : Option Json) (sha : JsString) : Bool :=
  (stringOf value).any fun text => toLowerCase text = toLowerCase sha

def isTrustedSquadctlIntegrateReceipt (receipt : Json) (identity : FrozenIntegrateIdentity)
    (verb : IntegrateVerb) : Bool :=
  if receiptContainsSecret receipt then false
  else match receipt with
    | .object row =>
      stringOf (property row "action") = some verb.text &&
        namesSha (property row "candidate_sha") identity.candidateSha &&
        namesSha (property row "expected_old_sha") identity.expectedOldSha &&
        identity.remote.any (· ≠ []) &&
        identity.remoteRef.any (· ≠ []) &&
        identity.profileHash.any POLICY_HASH &&
        stringOf (property row "remote") = identity.remote &&
        stringOf (property row "remote_ref") = identity.remoteRef &&
        stringOf (property row "profile_hash") = identity.profileHash &&
        match verb with
        | .checkRemote => textIs (property row "result") "checked" &&
            isTrue (property row "cas_ok") && isTrue (property row "ff_possible")
        | .pushRemote => textIs (property row "result") "pushed" &&
            isTrue (property row "remote_verified") && isFalse (property row "forced") &&
            namesSha (property row "remote_new_sha") identity.candidateSha
    | _ => false

structure ReceiptBinds (row : List (JsString × Json)) (identity : FrozenIntegrateIdentity)
    (verb : IntegrateVerb) : Prop where
  action : stringOf (property row "action") = some verb.text
  candidate : ∃ text, stringOf (property row "candidate_sha") = some text ∧
    toLowerCase text = toLowerCase identity.candidateSha
  expectedOld : ∃ text, stringOf (property row "expected_old_sha") = some text ∧
    toLowerCase text = toLowerCase identity.expectedOldSha
  remote : stringOf (property row "remote") = identity.remote ∧ identity.remote.isSome
  remoteRef : stringOf (property row "remote_ref") = identity.remoteRef ∧ identity.remoteRef.isSome
  profileHash : stringOf (property row "profile_hash") = identity.profileHash ∧ identity.profileHash.isSome
  pushed : verb = .pushRemote → ∃ text, stringOf (property row "remote_new_sha") = some text ∧
    toLowerCase text = toLowerCase identity.candidateSha

end CouncilKit.Auto
