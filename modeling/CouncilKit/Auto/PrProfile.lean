import CouncilKit.Auto.BridgeContract

namespace CouncilKit.Auto

open Data Repair Review

variable [Unicode]

structure ProfileSource where
  ref : JsString
  sha : JsString

@[ext] structure ProfileIntegration where
  base_ref : JsString
  base_sha : JsString
  cas : JsString
  ff_only : Bool

@[ext] structure ProfileTarget where
  remote : JsString
  ref : JsString
  sha : JsString
  conflict : JsString

@[ext] structure ProfileAuthorization where
  push : Bool
  pr_mutation : Bool
  authority_ref : JsString

structure ProfileDelivery where
  mode : JsString
  supported_modes : List JsString

structure GateIndependence where
  reviewer_writable : Bool
  verifier_writable : Bool
  shared_workspace : Bool

structure SquadPrProfile where
  schema_version : Int
  title : JsString
  source : ProfileSource
  integration : ProfileIntegration
  target : ProfileTarget
  authorization : ProfileAuthorization
  delivery : ProfileDelivery
  gate_independence : GateIndependence

def HEADS_PREFIX : JsString := js "refs/heads/"

/-- `/^refs\/heads\/(?!\/)[A-Za-z0-9._/\-]{1,200}$/` -/
def HEADS (text : JsString) : Bool :=
  let branch := text.drop HEADS_PREFIX.length
  HEADS_PREFIX.isPrefixOf text && branch.head? ≠ some 0x2F && 1 ≤ branch.length &&
    branch.length ≤ 200 && branch.all fun unit =>
      Regex.isAlpha unit || Regex.isDigit unit || (js "._/-").contains unit

def MODES : List JsString := [js "local-candidate", js "source-branch-ready", js "pr-ready"]

/-- The value checks of `squadPrProfileSchema`. -/
def SquadPrProfile.accepted (profile : SquadPrProfile) : Bool :=
  profile.schema_version = 1 && profile.title = js "pr-profile" &&
    HEADS profile.source.ref && FULL_COMMIT_SHA profile.source.sha &&
    HEADS profile.integration.base_ref && FULL_COMMIT_SHA profile.integration.base_sha &&
    profile.integration.cas = js "expected-old-ref" && profile.integration.ff_only &&
    1 ≤ profile.target.remote.length && profile.target.remote.length ≤ 128 &&
    HEADS profile.target.ref && FULL_COMMIT_SHA profile.target.sha &&
    profile.target.conflict = js "none" &&
    profile.authorization.push && !profile.authorization.pr_mutation &&
    POLICY_HASH profile.authorization.authority_ref &&
    profile.delivery.mode = js "source-branch-ready" && profile.delivery.supported_modes = MODES &&
    !profile.gate_independence.reviewer_writable && profile.gate_independence.verifier_writable &&
    !profile.gate_independence.shared_workspace

def headsRef (branch : JsString) : JsString :=
  if HEADS_PREFIX.isPrefixOf branch.trim then branch.trim else HEADS_PREFIX ++ branch.trim

def SquadPrProfile.toJson (profile : SquadPrProfile) : Json :=
  .object [
    (js "schema_version", .number profile.schema_version),
    (js "title", .string profile.title),
    (js "source", .object [
      (js "ref", .string profile.source.ref), (js "sha", .string profile.source.sha)]),
    (js "integration", .object [
      (js "base_ref", .string profile.integration.base_ref),
      (js "base_sha", .string profile.integration.base_sha),
      (js "cas", .string profile.integration.cas),
      (js "ff_only", .bool profile.integration.ff_only)]),
    (js "target", .object [
      (js "remote", .string profile.target.remote), (js "ref", .string profile.target.ref),
      (js "sha", .string profile.target.sha), (js "conflict", .string profile.target.conflict)]),
    (js "authorization", .object [
      (js "push", .bool profile.authorization.push),
      (js "pr_mutation", .bool profile.authorization.pr_mutation),
      (js "authority_ref", .string profile.authorization.authority_ref)]),
    (js "delivery", .object [
      (js "mode", .string profile.delivery.mode),
      (js "supported_modes", .array (profile.delivery.supported_modes.map .string))]),
    (js "gate_independence", .object [
      (js "reviewer_writable", .bool profile.gate_independence.reviewer_writable),
      (js "verifier_writable", .bool profile.gate_independence.verifier_writable),
      (js "shared_workspace", .bool profile.gate_independence.shared_workspace)])]

def MemberOrder (left right : JsString × Json) : Prop := ¬ right.1.Before left.1

instance : DecidableRel MemberOrder := fun _ _ => inferInstanceAs (Decidable (¬ _))

mutual

def sortKeys : Json → Json
  | .array items => .array (sortItems items)
  | .object members => .object ((sortMembers members).insertionSort MemberOrder)
  | value => value

def sortItems : List Json → List Json
  | [] => []
  | item :: rest => sortKeys item :: sortItems rest

def sortMembers : List (JsString × Json) → List (JsString × Json)
  | [] => []
  | (key, value) :: rest => (key, sortKeys value) :: sortMembers rest

end

structure SquadBridgeDelivery where
  grantHash : JsString
  repo : JsString
  sourceBranch : JsString
  expectedOldSha : JsString
  remote : JsString
  originUrl : Option JsString := none
  pushUrl : Option JsString := none

def differs (given : Option JsString) (frozen : JsString) : Bool :=
  given.any fun text => text ≠ [] && text ≠ frozen

/-- The stored delivery and the frozen profile are those of the requested identity. -/
structure Agrees (profile : SquadPrProfile) (delivery : SquadBridgeDelivery)
    (identity : FrozenIntegrateIdentity) : Prop where
  repo : delivery.repo = identity.repo
  branch : headsRef delivery.sourceBranch = headsRef identity.sourceBranch
  expectedOld : toLowerCase delivery.expectedOldSha = toLowerCase identity.expectedOldSha
  remote : ∀ text, identity.remote = some text → text ≠ [] → text = delivery.remote
  remoteRef : ∀ text, identity.remoteRef = some text → text ≠ [] → text = headsRef identity.sourceBranch
  base : profile.integration = {
    base_ref := headsRef identity.sourceBranch
    base_sha := toLowerCase identity.expectedOldSha
    cas := js "expected-old-ref"
    ff_only := true }
  target : profile.target = {
    remote := delivery.remote
    ref := headsRef identity.sourceBranch
    sha := toLowerCase identity.expectedOldSha
    conflict := js "none" }
  grant : profile.authorization = {
    push := true
    pr_mutation := false
    authority_ref := toLowerCase delivery.grantHash }
  mode : profile.delivery.mode = js "source-branch-ready"

end CouncilKit.Auto
