import CouncilKit.Data.Json
import CouncilKit.Repair.Contract
import CouncilKit.Review.FindingGroups

namespace CouncilKit.Repair

open Data Data.JsString Review

def hasActOnFooting (row : LedgerFinding) : Bool :=
  let given : Nullish JsString → Bool
    | .value text => trim text ≠ []
    | _ => false
  given row.invariantId && given row.counterexample

def isFindingBlocking (row : LedgerFinding) (sha : Nullish JsString) : Bool :=
  if row.severity ≠ .critical ∧ row.severity ≠ .major then false
  else if row.status = .accepted then false
  else if row.isFindingVerifiedClosed sha then false
  else if row.contractClass = .value .out_of_spec then false
  else if row.contractClass = .value .in_contract then hasActOnFooting row
  else true

inductive PlanVerdict where
  | approve | changes_requested | comment
deriving DecidableEq

structure PlanCluster where
  id : JsString
  closes : List JsString
  files : List JsString
  gates : List JsString
  invariants : JsString
  forbidden : JsString
  tests : JsString

structure PlanDeferral where
  title : JsString
  reason : JsString

structure PlanLock where
  sourceRunId : JsString
  verdict : PlanVerdict
  clusters : List PlanCluster
  deferred : List PlanDeferral

structure PackageLedger where
  runId : JsString
  sha : Option JsString
  findings : List LedgerFinding
  againstRunId : Option JsString

structure GroupsSidecar where
  runId : JsString
  sha : JsString
  againstRunId : Option JsString
  file : FindingGroupsFile

structure PackageInput where
  runId : JsString
  complete : Bool
  prUrl : Option JsString
  ledger : Option PackageLedger
  planLock : Option PlanLock
  clusterId : Option JsString := none
  findingGroups : Option GroupsSidecar := none

/-- `z.string().min(least).max(most)` -/
def within (least most : Nat) (value : JsString) : Bool :=
  least ≤ value.length && value.length ≤ most

/-- `z.string().trim().min(1).max(most).nullable().optional()` -/
def nullishTrimmed (most : Nat) : Nullish JsString → Bool
  | .value value => within 1 most (trim value)
  | _ => true

/-- `ledgerFindingSchema` -/
def ledgerFindingAccepted (row : LedgerFinding) : Bool :=
  within 1 160 row.id && within 1 400 row.title && within 0 8000 row.text &&
    row.reviewer.all (within 0 120) &&
    (row.files.all (within 1 400) && row.files.length ≤ 32) &&
    nullishTrimmed 200 row.invariantId && nullishTrimmed 4000 row.counterexample &&
    row.repairClaim.all (fun claim => claim.candidateSha.all FULL_COMMIT_SHA &&
      claim.runId ≠ [] && claim.at ≠ []) &&
    row.verification.all (·.safeParse.isSome) &&
    row.acceptedReason.all (fun reason => within 1 2000 (trim reason)) &&
    row.acceptedAt.all (· ≠ [])

/-- `findingsFileSchema`, of the members that are read. -/
def PackageLedger.accepted (ledger : PackageLedger) : Bool :=
  ledger.runId ≠ [] && ledger.findings.all ledgerFindingAccepted && ledger.findings.length ≤ 200

/-- `planClusterSchema`, of the members that are read. -/
def PlanCluster.accepted (cluster : PlanCluster) : Bool :=
  within 1 80 cluster.id &&
    (cluster.closes.all (within 1 160) && cluster.closes.length ≤ 32) &&
    (cluster.files.all (within 1 400) && cluster.files.length ≤ 64) &&
    (cluster.gates.all (within 1 400) && cluster.gates.length ≤ 16) &&
    within 0 2000 cluster.invariants && within 0 2000 cluster.forbidden &&
    within 0 2000 cluster.tests

/-- `planLockFileSchema` -/
def PlanLock.accepted (lock : PlanLock) : Bool :=
  lock.sourceRunId ≠ [] && (lock.clusters.all (·.accepted) && lock.clusters.length ≤ 32) &&
    (lock.deferred.all (fun row => within 1 400 row.title && within 0 800 row.reason) &&
      lock.deferred.length ≤ 64)

structure PackageFinding where
  id : JsString
  title : JsString
  severity : FindingSeverity
  rootCause : JsString
  invariant : JsString
  evidence : JsString
  files : List JsString

structure Deferral where
  id : JsString
  reason : JsString

structure RepairPackage where
  runId : JsString
  sha : JsString
  prUrl : Option JsString
  findings : List PackageFinding
  invariants : List JsString
  forbidden : List JsString
  acceptance : List JsString
  deferred : List Deferral

def pairedText : JsString → Bool
  | [] => true
  | [unit] => unit ≠ 0 && !isHighSurrogate unit && !isLowSurrogate unit
  | first :: second :: rest =>
    if isHighSurrogate first && isLowSurrogate second then pairedText rest
    else first ≠ 0 && !isHighSurrogate first && !isLowSurrogate first &&
      pairedText (second :: rest)

def plainText (text : JsString) : Bool := trim text ≠ [] && pairedText text

/-- `plainText.max(most)` -/
def text (most : Nat) (value : JsString) : Bool := plainText value && value.length ≤ most

def repoPath (value : JsString) : Bool :=
  text 400 value && value.head? ≠ some 0x2F && value.head? ≠ some 0x2D &&
    !value.contains 0x5C && !value.contains 0x3A &&
    !value.any (fun unit => unit < 32 || unit = 127) &&
    !(value.splitOn 0x2F).any fun part => [js "", js ".", js "..", js ".git"].contains part

class WebUrl where
  /-- A URL of protocol `http:` or `https:` without username and password. -/
  isHttp : JsString → Bool

def httpUrl [WebUrl] (value : JsString) : Bool := text 2048 value && WebUrl.isHttp value

def FindingSeverity.text : FindingSeverity → JsString
  | .critical => js "critical"
  | .major => js "major"
  | .minor => js "minor"
  | .nit => js "nit"

def PackageFinding.json (finding : PackageFinding) : Json :=
  .object [(js "id", .string finding.id), (js "title", .string finding.title),
    (js "severity", .string (FindingSeverity.text finding.severity)),
    (js "rootCause", .string finding.rootCause), (js "invariant", .string finding.invariant),
    (js "evidence", .string finding.evidence),
    (js "files", .array (finding.files.map .string))]

def PackageFinding.accepted (finding : PackageFinding) : Bool :=
  text 160 finding.id && text 400 finding.title && text 400 finding.rootCause &&
    text 8000 finding.invariant && text 8000 finding.evidence &&
    (finding.files.all repoPath && finding.files.length ≤ 64)

def Deferral.json (deferral : Deferral) : Json :=
  .object [(js "id", .string deferral.id), (js "reason", .string deferral.reason)]

namespace RepairPackage

variable (package : RepairPackage)

def json : Json :=
  .object [(js "schemaVersion", .number 1), (js "kind", .string (js "councilkit-repair")),
    (js "source", .object [(js "runId", .string package.runId), (js "sha", .string package.sha),
      (js "prUrl", (package.prUrl.map Json.string).getD .null)]),
    (js "findings", .array (package.findings.map (·.json))),
    (js "constraints", .object [
      (js "invariants", .array (package.invariants.map .string)),
      (js "forbidden", .array (package.forbidden.map .string)),
      (js "acceptance", .array (package.acceptance.map .string)),
      (js "deferred", .array (package.deferred.map (·.json)))]),
    (js "convergence", .object [(js "maxFixRounds", .number 3), (js "repeatedRootCauseLimit", .number 2)])]

/-- `repairPackageSchema` -/
def accepted [WebUrl] : Bool :=
  text 160 package.runId && FULL_COMMIT_SHA package.sha && package.prUrl.all httpUrl &&
    (package.findings.all (·.accepted) && 1 ≤ package.findings.length && package.findings.length ≤ 200) &&
    (package.invariants.all (text 8000) && package.invariants.length ≤ 200) &&
    (package.forbidden.all (text 8000) && package.forbidden.length ≤ 200) &&
    (package.acceptance.all (text 8000) && package.acceptance.length ≤ 200) &&
    (package.deferred.all (fun row => text 160 row.id && text 8000 row.reason) &&
      package.deferred.length ≤ 264) &&
    Json.utf8Length package.json.stringify ≤ 4 * 1024 * 1024 &&
    decide (package.deferred.map (·.id)).Nodup &&
    !package.deferred.any (fun row => (package.findings.map (·.id)).contains row.id) &&
    decide (package.findings.map (·.id)).Nodup

end RepairPackage

inductive RepairPackageError where
  | incomplete
  | ledger
  | groups (error : FindingGroupsError)
  | sidecar
  | sidecarAgainst
  | plan
  | cluster (id : JsString)
  | nothing
  | schema

def RepairPackageError.message : RepairPackageError → Option JsString
  | .incomplete => some (js "需要完整成功的独立审查；失败或不完整的 run 不能导出修复任务。")
  | .ledger => some (js "修复任务需要与本次 run 对应的 findings.json 和完整候选 SHA。")
  | .groups error => some error.message
  | .sidecar => some (js "finding-groups sidecar does not match this run")
  | .sidecarAgainst => some (js "finding-groups sidecar against source does not match this run")
  | .plan => some (js "修复方案尚未获准，或 plan.lock 不属于本次 run。")
  | .cluster id => some (js "找不到已批准的 cluster: " ++ id)
  | .nothing => some (js "所选范围没有待修复的问题。")
  | .schema => none

structure PackageScope where
  ledger : PackageLedger
  sha : JsString
  selected : List PlanCluster
  remaining : List LedgerFinding
  included : List LedgerFinding

namespace PackageInput

variable (input : PackageInput)

def cluster : Option JsString := input.clusterId.filter (· ≠ [])

section

variable [Unicode]

def checkLedger : Except RepairPackageError (PackageLedger × JsString) :=
  match input.ledger with
  | none => .error .ledger
  | some ledger =>
    match ledger.sha.bind fullSha with
    | none => .error .ledger
    | some sha => if ledger.runId ≠ input.runId then .error .ledger else .ok (ledger, sha)

def checkGroups (ledger : PackageLedger) (sha : JsString) : Except RepairPackageError Unit :=
  match input.findingGroups with
  | none => .ok ()
  | some sidecar =>
    match validateFindingGroups sidecar.file
      (some fun id => (ledger.findings.map (·.id)).contains id) with
    | .error error => .error (.groups error)
    | .ok () =>
      if sidecar.runId ≠ input.runId ∨ sidecar.sha ≠ sha then .error .sidecar
      else
        match ledger.againstRunId.filter (· ≠ []), sidecar.againstRunId.filter (· ≠ []) with
        | some against, some other =>
          if other ≠ against then .error .sidecarAgainst else .ok ()
        | _, _ => .ok ()

def checkPlan : Except RepairPackageError (List PlanCluster) :=
  let clusters := (input.planLock.map (·.clusters)).getD []
  if input.planLock.any fun lock => lock.sourceRunId ≠ input.runId ∨ lock.verdict ≠ .approve then
    .error .plan
  else
    match input.cluster with
    | none => .ok clusters
    | some id =>
      let selected := clusters.filter (·.id = id)
      if selected = [] then .error (.cluster id) else .ok selected

def remaining (ledger : PackageLedger) : List LedgerFinding :=
  let sha : Nullish JsString := ledger.sha.elim .null .value
  ledger.findings.filter fun row =>
    !row.isFindingVerifiedClosed sha && (row.status ≠ .accepted || isFindingBlocking row sha)

/-- All that `buildRepairPackage` checks before it assembles anything. -/
def scope : Except RepairPackageError PackageScope := do
  require (input.complete = true) .incomplete
  let (ledger, sha) ← input.checkLedger
  input.checkGroups ledger sha
  let selected ← input.checkPlan
  let selectedIds := selected.flatMap (·.closes)
  let remaining := remaining ledger
  let included := remaining.filter fun row => input.cluster.isNone || selectedIds.contains row.id
  require (included ≠ []) .nothing
  pure ⟨ledger, sha, selected, remaining, included⟩

end

end PackageInput

namespace PackageScope

variable (scope : PackageScope)

def blocking (row : LedgerFinding) : Bool :=
  isFindingBlocking row (scope.ledger.sha.elim .null .value)

def packageFinding (groups : Option FindingGroupsFile) (row : LedgerFinding) : PackageFinding :=
  let plans := scope.selected.filter fun cluster => cluster.closes.contains row.id
  let invariants := join (js "\n") ((plans.map fun cluster => trim cluster.invariants).filter (· ≠ []))
  let evidence := trim row.text
  { id := row.id
    title := row.title
    severity := row.severity
    rootCause := FindingGroupsFile.resolveRootCause row.id groups
    invariant := if invariants ≠ [] then invariants else js "修复 " ++ row.id ++ js "：" ++ row.title
    evidence := if evidence ≠ [] then evidence else row.title
    files := unique (row.files ++ plans.flatMap (·.files)) }

def outOfScope : List Deferral :=
  (scope.remaining.filter fun row => !scope.included.contains row).map fun row =>
    ⟨row.id, (if scope.blocking row then js "重大项仍未验证关闭，不可据此批准 PR；" else []) ++
      js "不在所选 cluster 范围，需单独处理。"⟩

def acceptedRows : List Deferral :=
  (scope.ledger.findings.filter fun row => row.status = .accepted && !scope.blocking row).map fun row =>
    ⟨row.id, js "来源账本标记 accepted，未表示已验证修复；沿用前须核实原裁决及适用条件。" ++
      if row.severity = .critical ∨ row.severity = .major then
        js " " ++ FindingSeverity.text row.severity ++ js " 重大风险残余。"
      else []⟩

/-- The id a plan deferral goes under: that of the row it names, or its place. -/
def planDeferralId (place : Nat) (item : PlanDeferral) : JsString :=
  match scope.ledger.findings.find? fun row => row.title = item.title ∨ row.id = item.title with
  | some row => row.id
  | none => js "plan-deferred-" ++ ofNat place

def planDeferrals (items : List PlanDeferral) : List Deferral :=
  items.mapIdx fun index item =>
    ⟨scope.planDeferralId (scope.outOfScope.length + scope.acceptedRows.length + index + 1) item,
      item.title ++ js "：" ++ item.reason⟩

end PackageScope

def mergeDeferred (rows : List Deferral) (taken : List JsString) : List Deferral :=
  let kept := rows.filter fun row => !taken.contains row.id
  (unique (kept.map (·.id))).map fun id =>
    ⟨id, join (js "\n") (unique ((kept.filter (·.id = id)).map (·.reason)))⟩

namespace PackageInput

variable (input : PackageInput)

def planDeferred : List PlanDeferral := (input.planLock.map (·.deferred)).getD []

def assemble (scope : PackageScope) : RepairPackage :=
  let findings := scope.included.map (scope.packageFinding (input.findingGroups.map (·.file)))
  { runId := input.runId
    sha := scope.sha
    prUrl := input.prUrl
    findings
    invariants := unique (findings.map (·.invariant))
    forbidden := unique (js "未经单独授权不得 push、合并 PR、访问生产或扩大修改范围。" ::
      (scope.selected.map fun cluster => trim cluster.forbidden).filter (· ≠ []))
    acceptance := unique (js "独立复审同一候选 SHA，逐条提供关闭证据；apply 声明或未再报告不等于关闭。" ::
      js "所有范围外重大项保持未决，不以本任务完成声明整体 PR 已通过。" ::
      (scope.selected.flatMap fun cluster => cluster.gates ++ [trim cluster.tests]).filter (· ≠ []))
    deferred := mergeDeferred
      (scope.outOfScope ++ scope.acceptedRows ++ scope.planDeferrals input.planDeferred)
      (findings.map (·.id)) }

def buildRepairPackage [Unicode] [WebUrl] : Except RepairPackageError RepairPackage := do
  let scope ← input.scope
  let package := input.assemble scope
  require (package.accepted = true) .schema
  pure package

end PackageInput

end CouncilKit.Repair
