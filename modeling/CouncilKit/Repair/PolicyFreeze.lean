import CouncilKit.Data.Fallible
import CouncilKit.Data.Json
import CouncilKit.Review.LedgerFinding

namespace CouncilKit.Repair

open Data Review

inductive GateRole where
  | reviewer | verifier | host | build | unit | lint
deriving DecidableEq

inductive RealismTier where
  | unit_mock | framework_contract | runtime_executable | external_live

inductive GateEvidenceKind where
  | supervised | external_attestation
deriving DecidableEq

def GateRole.text : GateRole → JsString
  | .reviewer => js "reviewer"
  | .verifier => js "verifier"
  | .host => js "host"
  | .build => js "build"
  | .unit => js "unit"
  | .lint => js "lint"

def RealismTier.text : RealismTier → JsString
  | .unit_mock => js "unit_mock"
  | .framework_contract => js "framework_contract"
  | .runtime_executable => js "runtime_executable"
  | .external_live => js "external_live"

def GateEvidenceKind.text : GateEvidenceKind → JsString
  | .supervised => js "supervised"
  | .external_attestation => js "external_attestation"

structure OfficialRequiredGate where
  gate_id : JsString
  role : GateRole
  min_realism_tier : RealismTier
  baseline_required : Bool
  evidence_kind : GateEvidenceKind

structure OfficialIndependence where
  distinct_runs : Bool
  distinct_sessions : Bool
  distinct_worktrees : Bool

structure OfficialDeliveryAuthority where
  push : Bool
  pr_mutation : Bool
  remote : Option JsString
  target_ref : Option JsString
  authority_ref : Option JsString

structure OfficialGatePolicyFile where
  required_gates : List OfficialRequiredGate
  independence : OfficialIndependence
  delivery_authority : Option OfficialDeliveryAuthority

structure RegisteredPolicyIntent where
  policyFileHash : JsString
  taskId : JsString
  taskDir : JsString
  required_gates : List OfficialRequiredGate
  independence : OfficialIndependence
  delivery_authority : Option OfficialDeliveryAuthority := none

structure OfficialGatePolicyFreeze where
  policyHash : JsString
  briefHash : JsString
  taskId : JsString
  taskDir : JsString
  requiredGates : List OfficialRequiredGate
  independence : OfficialIndependence
  createdAt : JsString
  alreadyFrozen : Bool
  policyFileHash : JsString

def OfficialRequiredGate.json (gate : OfficialRequiredGate) : Json :=
  .object [(js "gate_id", .string gate.gate_id), (js "role", .string gate.role.text),
    (js "min_realism_tier", .string gate.min_realism_tier.text),
    (js "baseline_required", .bool gate.baseline_required),
    (js "evidence_kind", .string gate.evidence_kind.text)]

def gatesJson (gates : List OfficialRequiredGate) : Json := .array (gates.map (·.json))

def OfficialIndependence.json (independence : OfficialIndependence) : Json :=
  .object [(js "distinct_runs", .bool independence.distinct_runs),
    (js "distinct_sessions", .bool independence.distinct_sessions),
    (js "distinct_worktrees", .bool independence.distinct_worktrees)]

def nullable (value : Option JsString) : Json := value.elim .null .string

def OfficialDeliveryAuthority.json (authority : OfficialDeliveryAuthority) : Json :=
  .object [(js "push", .bool authority.push), (js "pr_mutation", .bool authority.pr_mutation),
    (js "remote", nullable authority.remote), (js "target_ref", nullable authority.target_ref),
    (js "authority_ref", nullable authority.authority_ref)]

def authorityMember (authority : Option OfficialDeliveryAuthority) : List (JsString × Json) :=
  authority.toList.map fun authority => (js "delivery_authority", authority.json)

/-- A refusal with its reason, or the throw of `canonicalJson` on JSON nested too
deep. -/
inductive FreezeFault where
  | refused (reason : JsString)
  | thrown

def refusal (reason : String) : FreezeFault := .refused (js reason)

def canonical (value : Json) : Except FreezeFault JsString := fetch value.canonicalJson .thrown

def hashOfficialGatePolicyFile [Digest] (policy : OfficialGatePolicyFile) : Except FreezeFault JsString :=
  (canonical (.object ([(js "required_gates", gatesJson policy.required_gates),
    (js "independence", policy.independence.json)] ++ authorityMember policy.delivery_authority))).map
      Digest.sha256

/-- SHA-256 of the canonical schema version, brief hash, gates, independence and
grant. -/
def hashOfficialFrozenPolicy [Digest] (policy : OfficialGatePolicyFile) (briefHash : JsString) :
    Except FreezeFault JsString :=
  (canonical (.object ([(js "schema_version", .number 1), (js "brief_hash", .string briefHash),
    (js "independence", policy.independence.json),
    (js "required_gates", gatesJson policy.required_gates)] ++
      authorityMember policy.delivery_authority))).map Digest.sha256

def officialPolicyFromIntent (intent : RegisteredPolicyIntent) : OfficialGatePolicyFile where
  required_gates := intent.required_gates
  independence := intent.independence
  delivery_authority := intent.delivery_authority

def hasSupervisedReviewerAndVerifier (policy : OfficialGatePolicyFile) : Bool :=
  policy.required_gates.any (·.role = .reviewer) && policy.required_gates.any (·.role = .verifier) &&
    2 ≤ (policy.required_gates.filter fun row =>
      (row.role = .reviewer || row.role = .verifier) && row.evidence_kind = .supervised).length

/-- `/^[a-f0-9]{64}$/` -/
def POLICY_HASH (text : JsString) : Bool := text.length = 64 && text.all isHex

def asRecord : Json → List (JsString × Json)
  | .object members => members
  | _ => []

def property (record : List (JsString × Json)) (key : String) : Option Json :=
  (lookupLast record (·.1) (js key)).map (·.2)

def stringOf : Option Json → Option JsString
  | some (.string text) => some text
  | _ => none

def readHash (value : Option Json) : Option JsString := (stringOf value).filter POLICY_HASH

def isBoolean : Option Json → Bool
  | some (.bool _) => true
  | _ => false

def isIndependence : Option Json → Bool
  | some (.object members) => isBoolean (property members "distinct_runs") &&
      isBoolean (property members "distinct_sessions") &&
      isBoolean (property members "distinct_worktrees")
  | _ => false

def isArray : Option Json → Bool
  | some (.array _) => true
  | _ => false

def sameText (left right : Json) : Except FreezeFault Bool := do
  let first ← canonical left
  let second ← canonical right
  return first = second

def gatesMatch (left : Option Json) (right : List OfficialRequiredGate) : Except FreezeFault Bool :=
  match left with
  | some (.array items) => sameText (.array items) (gatesJson right)
  | _ => .ok false

def independenceMatch (left : Option Json) (right : OfficialIndependence) : Except FreezeFault Bool :=
  sameText (left.getD .null) right.json

variable (projection : List (JsString × Json))

def deliveryAuthorityMismatch
    (expected : Option OfficialDeliveryAuthority) : Except FreezeFault Unit :=
  match property projection "delivery_authority", expected with
  | none, none => .ok ()
  | some _, none => .error (refusal "official projection invented a delivery authority")
  | none, some _ =>
    require (property projection "required_gates" = none)
      (refusal "official projection dropped the registered delivery authority")
  | some found, some expected => do
    let same ← sameText found expected.json
    require (same = true)
      (refusal "official projection delivery authority drifted from the registered grant")

def recordedHash (recorded : List (JsString × Json)) : Option JsString :=
  (readHash (property recorded "policyHash")).or (readHash (property recorded "policy_hash"))

def projectionHash : Option JsString :=
  (readHash (property projection "policy_hash")).or (readHash (property projection "policyHash"))

def recoveredBriefHash (recorded projection : List (JsString × Json)) : Option JsString :=
  ((readHash (property recorded "briefHash")).or (readHash (property recorded "brief_hash"))).or
    ((readHash (property projection "brief_hash")).or (readHash (property projection "briefHash")))

def presentText (value : Option Json) : Option JsString := (stringOf value).filter (· ≠ [])

/-- The policy hash and the policy file hash of a record with a whole policy. -/
def completeRecord (recorded : List (JsString × Json)) : Option (JsString × JsString) :=
  if isArray (property recorded "requiredGates") && isIndependence (property recorded "independence") then
    (recordedHash recorded).bind fun hash =>
      (presentText (property recorded "policyFileHash")).map fun fileHash => (hash, fileHash)
  else none

def admitIntent [Digest] (intent : RegisteredPolicyIntent) : Except FreezeFault Unit := do
  require (hasSupervisedReviewerAndVerifier (officialPolicyFromIntent intent) = true)
    (refusal "registered intent is missing supervised reviewer and verifier")
  let fileHash ← hashOfficialGatePolicyFile (officialPolicyFromIntent intent)
  require (fileHash = intent.policyFileHash)
    (refusal "registered intent hash does not match intent policy body")

def freezeOf (intent : RegisteredPolicyIntent) (policyHash briefHash createdAt : JsString) :
    OfficialGatePolicyFreeze where
  policyHash := policyHash
  briefHash := briefHash
  taskId := intent.taskId
  taskDir := intent.taskDir
  requiredGates := intent.required_gates
  independence := intent.independence
  createdAt := createdAt
  alreadyFrozen := true
  policyFileHash := intent.policyFileHash

def recoverRecorded (recorded projection : List (JsString × Json)) (intent : RegisteredPolicyIntent)
    (hash fileHash : JsString) : Except FreezeFault Unit := do
  require (fileHash = intent.policyFileHash)
    (refusal "recovered freeze does not match registered policy intent")
  require (∀ taskId ∈ presentText (property recorded "taskId"), taskId = intent.taskId)
    (refusal "recovered freeze task does not match registered intent")
  let gates ← gatesMatch (property recorded "requiredGates") intent.required_gates
  require (gates = true) (refusal "recovered freeze gates do not match registered intent")
  let independence ← independenceMatch (property recorded "independence") intent.independence
  require (independence = true)
    (refusal "recovered freeze independence does not match registered intent")
  require (∀ projected ∈ projectionHash projection, projected = hash)
    (refusal "recorded freeze does not match official journal projection")
  if isArray (property projection "required_gates") then
    let projected ← gatesMatch (property projection "required_gates") intent.required_gates
    require (projected = true) (refusal "official projection was tampered relative to registered intent")
  deliveryAuthorityMismatch projection intent.delivery_authority

def recoverProjected (intent : RegisteredPolicyIntent)
    (reconstructed : JsString) : Except FreezeFault JsString := do
  let hash ← fetch (projectionHash projection) (refusal "no official freeze record to recover")
  let gates ← gatesMatch (property projection "required_gates") intent.required_gates
  require (gates = true)
    (refusal "official projection does not match registered policy intent")
  require (isIndependence (property projection "independence") = true)
    (refusal "official projection independence does not match registered intent")
  let independence ← independenceMatch (property projection "independence") intent.independence
  require (independence = true)
    (refusal "official projection independence does not match registered intent")
  require (hash = reconstructed)
    (refusal "official projection hash does not match registered intent canonical freeze")
  deliveryAuthorityMismatch projection intent.delivery_authority
  return hash

/-- The freeze recovered from a record and an official journal projection; `now` is
the clock's time. -/
def recoverOfficialPolicyFreeze [Digest] (recorded officialProjection : Json)
    (intent : RegisteredPolicyIntent) (now : JsString) :
    Except FreezeFault OfficialGatePolicyFreeze := do
  admitIntent intent
  let recordedObj := asRecord recorded
  let projection := asRecord officialProjection
  let briefHash ← fetch (recoveredBriefHash recordedObj projection)
    (refusal "official freeze missing brief_hash")
  let reconstructed ← hashOfficialFrozenPolicy (officialPolicyFromIntent intent) briefHash
  match completeRecord recordedObj with
  | some (hash, fileHash) =>
    recoverRecorded recordedObj projection intent hash fileHash
    return freezeOf intent hash briefHash
      ((stringOf (property recordedObj "createdAt")).getD now)
  | none =>
    let hash ← recoverProjected projection intent reconstructed
    return freezeOf intent hash briefHash now

variable {recorded projection : List (JsString × Json)} {intent : RegisteredPolicyIntent}
  {hash fileHash briefHash reconstructed now : JsString}

structure RecordMatches (recorded projection : List (JsString × Json))
    (intent : RegisteredPolicyIntent) (hash fileHash : JsString) : Prop where
  file : fileHash = intent.policyFileHash
  task : ∀ taskId ∈ presentText (property recorded "taskId"), taskId = intent.taskId
  gates : gatesMatch (property recorded "requiredGates") intent.required_gates = .ok true
  independence : independenceMatch (property recorded "independence") intent.independence = .ok true
  journal : ∀ projected ∈ projectionHash projection, projected = hash
  journalGates : isArray (property projection "required_gates") = true →
    gatesMatch (property projection "required_gates") intent.required_gates = .ok true
  authority : deliveryAuthorityMismatch projection intent.delivery_authority = .ok ()

structure ProjectionMatches (projection : List (JsString × Json)) (intent : RegisteredPolicyIntent)
    (reconstructed : JsString) : Prop where
  journal : projectionHash projection = some reconstructed
  gates : gatesMatch (property projection "required_gates") intent.required_gates = .ok true
  shape : isIndependence (property projection "independence") = true
  independence : independenceMatch (property projection "independence") intent.independence = .ok true
  authority : deliveryAuthorityMismatch projection intent.delivery_authority = .ok ()

theorem checked_ok {ε α : Type} {check : Except ε Bool} {failure : ε} {next : Except ε α} {result : α} :
    (do let held ← check; require (held = true) failure; next) = .ok result ↔
      check = .ok true ∧ next = .ok result := by
  cases check with
  | error reason => simp [bind, Except.bind]
  | ok held => cases held <;> simp [bind, Except.bind, require]

theorem required_ok {ε α : Type} {condition : Prop} [Decidable condition] {failure : ε}
    {next : Except ε α} {result : α} :
    (do require condition failure; next) = .ok result ↔ condition ∧ next = .ok result := by
  by_cases held : condition <;> simp [bind, Except.bind, require, held]

theorem recoverRecorded_ok :
    recoverRecorded recorded projection intent hash fileHash = .ok () ↔
      RecordMatches recorded projection intent hash fileHash := by
  have journalGates :
      ((if isArray (property projection "required_gates") = true then do
          let projected ← gatesMatch (property projection "required_gates") intent.required_gates
          require (projected = true)
            (refusal "official projection was tampered relative to registered intent")
          deliveryAuthorityMismatch projection intent.delivery_authority
        else deliveryAuthorityMismatch projection intent.delivery_authority) = .ok ()) ↔
      ((isArray (property projection "required_gates") = true →
        gatesMatch (property projection "required_gates") intent.required_gates = .ok true) ∧
        deliveryAuthorityMismatch projection intent.delivery_authority = .ok ()) := by
    split
    · rename_i array
      rw [checked_ok]
      simp [array]
    · rename_i notArray
      simp [notArray]
  simp only [recoverRecorded, required_ok, checked_ok]
  constructor
  · intro passed
    obtain ⟨file, task, gates, independence, journal, rest⟩ := passed
    obtain ⟨projected, authority⟩ := journalGates.mp rest
    exact ⟨file, task, gates, independence, journal, projected, authority⟩
  · intro held
    exact ⟨held.file, held.task, held.gates, held.independence, held.journal,
      journalGates.mpr ⟨held.journalGates, held.authority⟩⟩

theorem recoverProjected_ok :
    recoverProjected projection intent reconstructed = .ok hash ↔
      hash = reconstructed ∧ ProjectionMatches projection intent reconstructed := by
  have authorized (found : JsString) :
      (do deliveryAuthorityMismatch projection intent.delivery_authority; return found) =
          (.ok hash : Except FreezeFault JsString) ↔
        deliveryAuthorityMismatch projection intent.delivery_authority = .ok () ∧ found = hash := by
    cases deliveryAuthorityMismatch projection intent.delivery_authority with
    | error reason => simp [bind, Except.bind]
    | ok _ => simp [bind, Except.bind, pure, Except.pure]
  rw [recoverProjected, except_bind_ok]
  simp only [fetch_ok, required_ok, checked_ok, authorized]
  constructor
  · intro recovered
    obtain ⟨found, journal, gates, shape, independence, same, authority, returned⟩ := recovered
    subst returned
    subst same
    exact ⟨rfl, journal, gates, shape, independence, authority⟩
  · intro held
    obtain ⟨same, held⟩ := held
    subst same
    exact ⟨hash, held.journal, held.gates, held.shape, held.independence, rfl, held.authority, rfl⟩

def Matches (recorded projection : List (JsString × Json)) (intent : RegisteredPolicyIntent)
    (reconstructed : JsString) : Prop :=
  match completeRecord recorded with
  | some (hash, fileHash) => RecordMatches recorded projection intent hash fileHash
  | none => ProjectionMatches projection intent reconstructed

section

variable [Digest] {recorded officialProjection : Json} {freeze : OfficialGatePolicyFreeze}

theorem recover_ok :
    recoverOfficialPolicyFreeze recorded officialProjection intent now = .ok freeze ↔
      admitIntent intent = .ok () ∧ ∃ briefHash reconstructed,
        recoveredBriefHash (asRecord recorded) (asRecord officialProjection) = some briefHash ∧
        hashOfficialFrozenPolicy (officialPolicyFromIntent intent) briefHash = .ok reconstructed ∧
        Matches (asRecord recorded) (asRecord officialProjection) intent reconstructed ∧
        freeze = match completeRecord (asRecord recorded) with
          | some (hash, _) => freezeOf intent hash briefHash
              ((stringOf (property (asRecord recorded) "createdAt")).getD now)
          | none => freezeOf intent reconstructed briefHash now := by
  rw [recoverOfficialPolicyFreeze, except_bind_ok]
  constructor
  · intro recovered
    obtain ⟨⟨⟩, admitted, recovered⟩ := recovered
    simp only [except_bind_ok, fetch_ok] at recovered
    obtain ⟨briefHash, brief, reconstructed, hashed, recovered⟩ := recovered
    refine ⟨admitted, briefHash, reconstructed, brief, hashed, ?_⟩
    unfold Matches
    cases complete : completeRecord (asRecord recorded) with
    | some pair =>
      obtain ⟨hash, fileHash⟩ := pair
      simp only [complete, except_bind_ok] at recovered
      obtain ⟨⟨⟩, checked, returned⟩ := recovered
      cases returned
      exact ⟨recoverRecorded_ok.mp checked, rfl⟩
    | none =>
      simp only [complete, except_bind_ok] at recovered
      obtain ⟨hash, checked, returned⟩ := recovered
      obtain ⟨same, held⟩ := recoverProjected_ok.mp checked
      subst same
      cases returned
      exact ⟨held, rfl⟩
  · intro held
    obtain ⟨admitted, briefHash, reconstructed, brief, hashed, held, is⟩ := held
    refine ⟨(), admitted, ?_⟩
    unfold Matches at held
    cases complete : completeRecord (asRecord recorded) with
    | some pair =>
      obtain ⟨hash, fileHash⟩ := pair
      simp only [complete] at held is
      simp [brief, hashed, complete, fetch, recoverRecorded_ok.mpr held, is, bind, Except.bind,
        pure, Except.pure]
    | none =>
      simp only [complete] at held is
      simp [brief, hashed, complete, fetch, recoverProjected_ok.mpr ⟨rfl, held⟩, is, bind,
        Except.bind, pure, Except.pure]

/-- A recovered freeze carries the canonical hash of the recovered policy, and so
does the record it was recovered from when that has a hash. -/
def RecoversCanonical (recorded officialProjection : Json) (intent : RegisteredPolicyIntent)
    (now : JsString) : Prop :=
  ∀ freeze, recoverOfficialPolicyFreeze recorded officialProjection intent now = .ok freeze →
    hashOfficialFrozenPolicy (officialPolicyFromIntent intent) freeze.briefHash = .ok freeze.policyHash ∧
    ∀ hash ∈ recordedHash (asRecord recorded),
      hashOfficialFrozenPolicy (officialPolicyFromIntent intent) freeze.briefHash = .ok hash

omit [Digest] in
theorem completeRecord_hash (complete : completeRecord (asRecord recorded) = some (hash, fileHash)) :
    recordedHash (asRecord recorded) = some hash := by
  unfold completeRecord at complete
  split at complete
  · obtain ⟨found, recordedAs, rest⟩ := Option.bind_eq_some_iff.mp complete
    obtain ⟨file, -, pair⟩ := Option.map_eq_some_iff.mp rest
    cases pair
    exact recordedAs
  · cases complete

/-- Recovery hands out canonical hashes exactly when the hash of a record that
passes every other check is canonical: nothing compares it with the content. -/
theorem recovered_freeze_canonical_iff :
    RecoversCanonical recorded officialProjection intent now ↔
      ∀ briefHash reconstructed hash, admitIntent intent = .ok () →
        recoveredBriefHash (asRecord recorded) (asRecord officialProjection) = some briefHash →
        hashOfficialFrozenPolicy (officialPolicyFromIntent intent) briefHash = .ok reconstructed →
        Matches (asRecord recorded) (asRecord officialProjection) intent reconstructed →
        recordedHash (asRecord recorded) = some hash → hash = reconstructed := by
  constructor
  · intro canonical briefHash reconstructed hash admitted brief hashed held stored
    have recovered := (@recover_ok intent now _ recorded officialProjection _).mpr
      ⟨admitted, briefHash, reconstructed, brief, hashed, held, rfl⟩
    have bound := (canonical _ recovered).2 hash stored
    have sameBrief : ∀ freeze : OfficialGatePolicyFreeze,
        (freeze = match completeRecord (asRecord recorded) with
          | some (hash, _) => freezeOf intent hash briefHash
              ((stringOf (property (asRecord recorded) "createdAt")).getD now)
          | none => freezeOf intent reconstructed briefHash now) → freeze.briefHash = briefHash := by
      intro freeze is
      rw [is]
      cases completeRecord (asRecord recorded) with
      | some pair => rfl
      | none => rfl
    rw [sameBrief _ rfl, hashed] at bound
    exact (Except.ok.inj bound).symm
  · intro condition freeze recovered
    obtain ⟨admitted, briefHash, reconstructed, brief, hashed, held, is⟩ := recover_ok.mp recovered
    have stored : ∀ hash ∈ recordedHash (asRecord recorded), hash = reconstructed :=
      fun hash found => condition briefHash reconstructed hash admitted brief hashed held found
    cases complete : completeRecord (asRecord recorded) with
    | some pair =>
      obtain ⟨hash, fileHash⟩ := pair
      simp only [complete] at is
      subst is
      have same := stored hash (completeRecord_hash complete)
      subst same
      exact ⟨hashed, fun other found => by rw [stored other found]; exact hashed⟩
    | none =>
      simp only [complete] at is
      subst is
      exact ⟨hashed, fun other found => by rw [stored other found]; exact hashed⟩

end

def SUPERVISED_REVIEW_VERIFY_POLICY : OfficialGatePolicyFile where
  required_gates := [⟨js "review", .reviewer, .framework_contract, false, .supervised⟩,
    ⟨js "verify", .verifier, .runtime_executable, false, .supervised⟩]
  independence := ⟨true, true, true⟩
  delivery_authority := none

/-- SHA-256 on the two canonical texts of this intent. -/
@[reducible] def supervisedDigest : Digest where
  sha256 text := if text.length = 377
    then js "ed449a0d443f4909d3a493f944dba0e809876642803c3409f6d7f95b1271912c"
    else js "b24daeace1d3be6994a8c4ff4597c90e9e50c83ffbc6ddfc92c81855237c2ff2"

def supervisedIntent : RegisteredPolicyIntent where
  policyFileHash := js "ed449a0d443f4909d3a493f944dba0e809876642803c3409f6d7f95b1271912c"
  taskId := js "repair-1"
  taskDir := js "/tasks/repair-1"
  required_gates := SUPERVISED_REVIEW_VERIFY_POLICY.required_gates
  independence := SUPERVISED_REVIEW_VERIFY_POLICY.independence

def forgedHash : JsString := List.replicate 64 0x30

def forgedRecord : Json :=
  .object [(js "policyHash", .string forgedHash), (js "briefHash", .string (List.replicate 64 0x63)),
    (js "policyFileHash", .string supervisedIntent.policyFileHash),
    (js "requiredGates", gatesJson supervisedIntent.required_gates),
    (js "independence", supervisedIntent.independence.json)]

theorem forged_freeze_recovered :
    ¬ @RecoversCanonical supervisedDigest forgedRecord .null supervisedIntent (js "now") := by
  intro canonical
  have recovered : (@recoverOfficialPolicyFreeze supervisedDigest forgedRecord .null
      supervisedIntent (js "now")).toOption.any (fun freeze =>
        freeze.policyHash = forgedHash ∧ freeze.briefHash = List.replicate 64 0x63) = true := by
    decide +kernel
  have frozen : (@hashOfficialFrozenPolicy supervisedDigest
      (officialPolicyFromIntent supervisedIntent) (List.replicate 64 0x63)).toOption ≠ some forgedHash := by
    decide +kernel
  cases result : @recoverOfficialPolicyFreeze supervisedDigest forgedRecord .null
      supervisedIntent (js "now") with
  | error fault => simp [result, Except.toOption] at recovered
  | ok freeze =>
    simp only [result, Except.toOption, Option.any_some, decide_eq_true_eq] at recovered
    obtain ⟨forged, brief⟩ := recovered
    have bound := (canonical freeze result).1
    rw [forged, brief] at bound
    exact frozen (by rw [bound]; rfl)

end CouncilKit.Repair
