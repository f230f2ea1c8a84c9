import CouncilKit.Data.Deposits
import CouncilKit.Repair.RepairPackage
import CouncilKit.Review.Acceptance

namespace CouncilKit.Repair

open Data Data.JsString Review

/-- `/^[0-9a-f]{64}$/` -/
def isSha256 (text : JsString) : Bool := text.length = 64 && text.all isHex

def findingGroupSchema (group : FindingGroup) : Bool :=
  text 400 group.rootCauseId && 1 ≤ group.findingIds.length && group.findingIds.length ≤ 64 &&
    group.findingIds.all (text 160) && group.aliases.length ≤ 64 && group.aliases.all (text 160) &&
    text 2000 group.basis &&
    group.adjudication.all fun adjudication =>
      text 4000 adjudication.reason && adjudication.evidenceHash.all isSha256

/-- The sidecar with the hash of the ledger it belongs to. -/
structure FindingGroupsSidecar extends GroupsSidecar where
  findingsSha256 : JsString

def findingGroupsSource (sidecar : FindingGroupsSidecar) : Bool :=
  text 160 sidecar.runId && FULL_COMMIT_SHA sidecar.sha && isSha256 sidecar.findingsSha256 &&
    sidecar.againstRunId.all fun runId => runId.length ≤ 160

def findingGroupsFileSchema (sidecar : FindingGroupsSidecar) : Bool :=
  findingGroupsSource sidecar && sidecar.file.groups.length ≤ 200 &&
    sidecar.file.groups.all findingGroupSchema

structure GroupBuilding where
  byRoot : List (JsString × Bucket JsString JsString)
  idToRoot : JsString → Option JsString

structure BuildInput where
  runId : JsString
  sha : JsString
  findings : List LedgerFinding
  againstRunId : Option JsString
  findingsSha256 : JsString
  «matches» : List FindingAlias
  priorGroups : Option FindingGroupsFile

namespace BuildInput

variable (input : BuildInput)

def known (id : JsString) : Bool := (input.findings.map (·.id)).contains id

/-- A group of the prior run, with the members that are still in the ledger. -/
def addPrior (building : GroupBuilding) (group : FindingGroup) : GroupBuilding :=
  let findingIds := group.findingIds.filter input.known
  if findingIds = [] then building
  else {
    byRoot := deposit building.byRoot ⟨group.rootCauseId, findingIds, group.aliases, group.basis⟩
    idToRoot := FindingGroupsFile.recordGroup building.idToRoot { group with findingIds } }

/-- The root that an alias goes to: the one of its original, if this has one. -/
def matchRoot (idToRoot : JsString → Option JsString) (entry : FindingAlias) : JsString :=
  (idToRoot entry.originalId).getD entry.originalId

def recordMatch (idToRoot : JsString → Option JsString) (entry : FindingAlias) :
    JsString → Option JsString :=
  let root := matchRoot idToRoot entry
  Function.update (Function.update idToRoot entry.originalId (some root)) entry.aliasId (some root)

def addMatch (building : GroupBuilding) (entry : FindingAlias) : GroupBuilding where
  byRoot := deposit building.byRoot ⟨matchRoot building.idToRoot entry,
    [entry.originalId, entry.aliasId].filter input.known, [entry.aliasId], entry.basis⟩
  idToRoot := recordMatch building.idToRoot entry

def building : GroupBuilding :=
  input.matches.foldl input.addMatch
    (((input.priorGroups.map (·.groups)).getD []).foldl input.addPrior ⟨[], fun _ => none⟩)

def groups : List FindingGroup :=
  (input.building.byRoot.map fun place => {
    rootCauseId := place.1
    findingIds := place.2.members
    aliases := place.2.others
    basis := place.2.note }).filter fun group => 0 < group.findingIds.length

def sidecar [Unicode] : FindingGroupsSidecar where
  runId := input.runId
  sha := toLowerCase input.sha
  againstRunId := input.againstRunId
  findingsSha256 := input.findingsSha256
  file := ⟨input.groups⟩

end BuildInput

inductive BuildError where
  | groups (error : FindingGroupsError)
  | schema

def buildFindingGroups [Unicode] (input : BuildInput) : Except BuildError FindingGroupsSidecar :=
  match validateFindingGroups input.sidecar.file (some input.known) with
  | .error error => .error (.groups error)
  | .ok () => if findingGroupsFileSchema input.sidecar then .ok input.sidecar else .error .schema

/-- What `persistFindingsFromReport` has written when it returns or throws. -/
structure Persisted where
  findings : List LedgerFinding
  groups : Option FindingGroupsSidecar
  failure : Option BuildError

/-- What it is called with beside the review: the run, the prior run, and what loading the prior
groups gave. -/
structure PersistRun where
  runId : JsString
  againstRunId : JsString
  priorGroups : Option FindingGroupsFile
  /-- A sidecar is there and does not load. -/
  priorGroupsInvalid : Bool
  /-- The hash of the ledger as written. -/
  hashFindings : List LedgerFinding → JsString

section

variable [Digest] [Unicode] [UnicodeProperties] [Collation]

def aliasesOf (review : IncrementalReview) (prior : List LedgerFinding) : List FindingAlias :=
  (classifyAgainstPriorWithAliases (review.known prior) (review.separated prior) review.file).aliases

def PersistRun.input (run : PersistRun) (review : IncrementalReview) (prior : List LedgerFinding)
    (sha : JsString) : BuildInput where
  runId := run.runId
  sha
  findings := review.projectReviewerVerifications prior
  againstRunId := some run.againstRunId
  findingsSha256 := run.hashFindings (review.projectReviewerVerifications prior)
  «matches» := aliasesOf review prior
  priorGroups := run.priorGroups

/-- The part of `persistFindingsFromReport` from where `findings.json` is replaced. -/
def persistFindings (run : PersistRun) (review : IncrementalReview) (prior : List LedgerFinding) :
    Persisted :=
  let findings := review.projectReviewerVerifications prior
  match review.sha.filter FULL_COMMIT_SHA with
  | none => ⟨findings, none, none⟩
  | some sha =>
    let input := run.input review prior sha
    if run.priorGroupsInvalid then
      ⟨findings, some { input.sidecar with file := ⟨[]⟩ }, none⟩
    else if 0 < (aliasesOf review prior).length ∨ run.priorGroups.isSome then
      match buildFindingGroups input with
      | .ok sidecar => ⟨findings, some sidecar, none⟩
      | .error error => ⟨findings, none, some error⟩
    else ⟨findings, none, none⟩

end

end CouncilKit.Repair
