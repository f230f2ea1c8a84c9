import CouncilKit.Data.LinkedGroups
import CouncilKit.Repair.RepairPackage
import CouncilKit.Review.Classification
import CouncilKit.Review.FindingTitle

namespace CouncilKit.Review.FindingList

open Data Data.Regex Data.JsString Repair

def findingStatusLabel (row : LedgerFinding) (sha : Nullish JsString) : JsString :=
  if row.status = .accepted then
    match row.acceptedReason with
    | none | some [] => js "接受不修"
    | some reason => js "接受不修 · " ++ reason
  else if row.isFindingVerifiedClosed sha then js "已验证解决"
  else if row.status = .closed then
    if row.verification.isSome then js "待验证当前提交" else js "历史未验证"
  else if row.verification.any (·.outcome == .still_open) then js "验证仍成立"
  else if row.repairClaim.isSome then js "声明已修复 · 待验证"
  else if row.status = .regress then js "回归"
  else if row.contractClass = .value .out_of_spec then js "规格外 · 建议修订规格"
  else if row.contractClass = .value .in_contract ∧ !hasActOnFooting row then
    js "合同内缺脚注 · 不入 Act On"
  else js "未解决"

def displayStatusLabel (row : LedgerFinding) (sha : Nullish JsString) : JsString :=
  let label := findingStatusLabel row sha
  if label = js "未解决" then js "待处理" else label

def sharedLabel (members : List LedgerFinding) (sha : Nullish JsString) : JsString :=
  match unique (members.map (displayStatusLabel · sha)) with
  | [label] => label
  | _ => js "待处理"

def settledRow (sha : Nullish JsString) (row : LedgerFinding) : Bool :=
  row.isFindingVerifiedClosed sha || row.status == .accepted

/-- The last two branches of the source, for a blocking row and for none, are one. -/
def problemStatusLabel (members : List LedgerFinding) (sha : Nullish JsString) : JsString :=
  match members with
  | [] => js "待处理"
  | first :: _ =>
    if members.all (·.isFindingVerifiedClosed sha) then js "已验证解决"
    else if members.all (·.status == .accepted) then findingStatusLabel first sha
    else if members.all (settledRow sha) then js "已处理（含接受不修）"
    else sharedLabel members sha

inductive FindingListOrigin where
  | sidecar | inferred | singleton
deriving DecidableEq

/-- `共识` and `独有` -/
inductive SourceTag where
  | consensus | unique

structure FindingListProblem where
  key : JsString
  title : JsString
  location : Option JsString
  severity : FindingSeverity
  source : FindingSource
  sourceTags : List SourceTag
  reviewers : List JsString
  blocking : Bool
  pending : Bool
  resolved : Bool
  statusLabel : JsString
  members : List LedgerFinding
  basis : Option JsString
  origin : FindingListOrigin

structure ProblemMeta where
  key : JsString
  origin : FindingListOrigin
  basis : Option JsString

def highestSeverity (members : List LedgerFinding) : FindingSeverity :=
  members.foldl (fun best row => if row.severity.rank - best.rank < 0 then row.severity else best) .nit

section Problems

variable [Unicode] [Collation]

def toProblem (members : List LedgerFinding) (sha : Nullish JsString) (given : ProblemMeta) :
    FindingListProblem :=
  let ordered := sortLedgerFindings members
  let representative :=
    (ordered.find? fun row => row.severity = highestSeverity ordered).or ordered.head?
  let settled := ordered.all (settledRow sha)
  { key := given.key
    title := representative.elim given.key readableFindingTitle
    location := problemLocation ordered
    severity := highestSeverity ordered
    source := representative.elim .unknown (·.source)
    sourceTags :=
      (if ordered.any (·.source == .consensus) then [.consensus] else []) ++
        (if ordered.any (·.source == .unique) then [.unique] else [])
    reviewers := Data.unique ((ordered.filterMap (·.reviewer)).filter (· ≠ []))
    blocking := ordered.any (isFindingBlocking · sha)
    pending := !settled
    resolved := settled
    statusLabel := problemStatusLabel ordered sha
    members := ordered
    basis := given.basis
    origin := given.origin }

def compareProblems (a b : FindingListProblem × Nat) : Int :=
  let before (left right : Bool) : Int := if left = right then 0 else if left then -1 else 1
  let differences := [a.1.severity.rank - b.1.severity.rank, before a.1.blocking b.1.blocking,
    before a.1.pending b.1.pending, a.1.source.rank - b.1.source.rank,
    Collation.localeCompare a.1.title b.1.title]
  (differences.find? (· ≠ 0)).getD (a.2 - b.2)

def sortProblems (problems : List FindingListProblem) : List FindingListProblem :=
  (problems.zipIdx.mergeSort fun a b => compareProblems a b ≤ 0).map (·.1)

/-- The loop of `mergeExplicitReferences` on one pair. -/
def joinProblems (sha : Nullish JsString) (left right : FindingListProblem) : FindingListProblem :=
  toProblem (left.members ++ right.members) sha {
    key :=
      if refersTo (·.members) (fun a b => explicitlyReferences a b.id) left right then right.key
      else left.key
    origin := if left.origin = .sidecar ∨ right.origin = .sidecar then .sidecar else .inferred
    basis := some (js "阅读合并：摘要前导明确引用同一账本 ID，原始记录保留") }

def mergeExplicitReferences (problems : List FindingListProblem) (sha : Nullish JsString) :
    List FindingListProblem :=
  mergeLinked (·.members) (fun a b => explicitlyReferences a b.id) (joinProblems sha)
    problems.length problems

end Problems

def commonCells (unit : CodeUnit) : (right : JsString) → (above : List Nat) → List Nat
  | other :: rest, cell :: above =>
    (if unit = other then cell + 1 else 0) :: commonCells unit rest above
  | _, _ => []

structure CommonState where
  above : List Nat
  best : Nat := 0
  «end» : Nat := 0

/-- The outer loop: unit number `index` of the left text. -/
def commonStep (right : JsString) (state : CommonState) (turn : CodeUnit × Nat) : CommonState :=
  let cells := commonCells turn.1 right state.above
  let found := cells.foldl
    (fun (found : Nat × Nat) value => if found.1 < value then (value, turn.2 + 1) else found)
    (state.best, state.end)
  ⟨0 :: cells, found.1, found.2⟩

def longestCommonSubstringText (left right : JsString) : JsString :=
  let final := left.zipIdx.foldl (commonStep right) { above := List.replicate (right.length + 1) 0 }
  (left.take final.end).drop (final.end - final.best)

def longestCommonSubstring (left right : JsString) : Nat :=
  (longestCommonSubstringText left right).length

example : longestCommonSubstringText (js "race in lock") (js "lock race") = js "race" := by decide +kernel

def includes (text part : JsString) : Bool := text.tails.any part.isPrefixOf

/-- The quotient of two lengths is at least `0.8` when five times the one reaches four times the other. -/
def fragmentsMatch (left right : JsString) : Bool :=
  let shorter := min left.length right.length
  if left = right then 3 ≤ left.length
  else if includes left right || includes right left then 3 ≤ shorter
  else
    let lcs := longestCommonSubstring left right
    4 ≤ lcs && 4 * shorter ≤ 5 * lcs

def overlapStep (right : List JsString) (used : List Nat) (fragment : JsString) : List Nat :=
  match right.zipIdx.find? fun candidate =>
      !used.contains candidate.2 && fragmentsMatch fragment candidate.1 with
  | none => used
  | some candidate => candidate.2 :: used

def independentFragmentOverlap (left right : List JsString) : Nat :=
  ((left.mergeSort fun a b => b.length ≤ a.length).foldl (overlapStep right) []).length

/-- `text.replace(part, "")` -/
def removeFirst (part : JsString) : JsString → JsString
  | [] => []
  | unit :: rest =>
    if part.isPrefixOf (unit :: rest) then (unit :: rest).drop part.length
    else unit :: removeFirst part rest

def isUpper (unit : CodeUnit) : Bool := 0x41 ≤ unit && unit ≤ 0x5A

def isLower (unit : CodeUnit) : Bool := 0x61 ≤ unit && unit ≤ 0x7A

/-- `[A-Z]{2,8}` -/
def ACRONYM : Regex := between 2 8 (.unitWhere isUpper)

/-- ``/`[^`]*`/g`` -/
def CODE_SPAN : Regex := all [lit (js "`"), star (noneOf (js "`")), lit (js "`")]

/-- `/[A-Za-z]+_[A-Za-z0-9_]+/g` -/
def SNAKE_NAME : Regex := all [plus (.unitWhere isAlpha), lit (js "_"), plus (.unitWhere isWord)]

/-- `/\b[A-Za-z][A-Za-z0-9]*\b/g` -/
def LATIN_WORD : Regex :=
  all [.wordBoundary, .unitWhere isAlpha,
    star (.unitWhere fun unit => isAlpha unit || isDigit unit), .wordBoundary]

/-- `/\b[A-Z][a-z]{2,}\b/g` -/
def CAPITALIZED_WORD : Regex :=
  all [.wordBoundary, .unitWhere isUpper, .many true 2 none (.unitWhere isLower), .wordBoundary]

def residualSource (title : JsString) : JsString :=
  let unquoted := replaceAll CODE_SPAN (fun _ => js " ") (stripLocations title)
  let unsnaked := replaceAll SNAKE_NAME (fun _ => js " ") unquoted
  let uncameled := replaceAll LATIN_WORD (fun word =>
    if word.whole.any isLower && word.whole.any isUpper then js " " else word.whole) unsnaked
  replaceAll CAPITALIZED_WORD (fun _ => js " ") uncameled

section Evidence

variable [Unicode] [UnicodeProperties]

section

omit [Unicode]

def hanPoints (text : JsString) : List JsString :=
  (codePoints text).filter fun char => (codePoint char).any fun point => isHan point.1

def residualIdentity (title : JsString) : JsString :=
  let source := residualSource title
  let acronyms := (matchAll (all [.wordBoundary, ACRONYM, .wordBoundary]) source).map (·.whole)
  acronyms.flatten ++ (hanPoints source).flatten

def isThinIdentity (identity : JsString) : Bool :=
  (hanPoints identity).flatten.length < 3 && !test ACRONYM identity

end

def identityFragments (identity : JsString) : List JsString :=
  (matchAll ACRONYM identity).map (fun found => toLowerCase found.whole) ++
    (matchAll (.many true 3 none (.pointWhere isHan)) identity true).map (·.whole)

def residualEvidence (leftTitle rightTitle : JsString) : Bool :=
  let leftId := residualIdentity leftTitle
  let rightId := residualIdentity rightTitle
  if leftId = [] ∨ rightId = [] then false
  else
    let shared := longestCommonSubstringText leftId rightId
    let core (identity : JsString) := if 6 ≤ shared.length then removeFirst shared identity else identity
    if isThinIdentity (core leftId) || isThinIdentity (core rightId) then 6 ≤ shared.length
    else 1 ≤ independentFragmentOverlap (identityFragments (core leftId)) (identityFragments (core rightId))

/-- Shorter than this, a shared consequence is boilerplate, not a copied defect. -/
def MIN_CONSEQUENCE_HAN : Nat := 24

/-- `/^\s*触发与后果\s*[:：]\s*(.+)$/m` -/
def CONSEQUENCE_LINE : Regex :=
  all [.lineStart, star space, lit (js "触发与后果"), star space, oneOf (js ":："), star space,
    .capture 1 (plus dot), .lineStop]

omit [Unicode] in
def consequenceClause (row : LedgerFinding) : Option JsString :=
  let clause := trim (((exec CONSEQUENCE_LINE row.text).bind (·.group 1)).getD [])
  if (hanPoints clause).length < MIN_CONSEQUENCE_HAN then none else some clause

omit [UnicodeProperties] in
def pathsCompatible (left right : JsString) : Bool :=
  let a := normalizeSourcePath left
  let b := normalizeSourcePath right
  if a = [] ∨ b = [] then false
  else if a = b then true
  else (js "/" ++ b).isSuffixOf a || (js "/" ++ a).isSuffixOf b

omit [UnicodeProperties] in
def locationsMatch (left right : List FileLineCitation) : Bool :=
  left.any fun a => right.any fun b =>
    a.start = b.start && a.end = b.end && pathsCompatible a.path b.path

def isProvenDuplicate (left right : LedgerFinding) : Bool :=
  if left.id = right.id then true
  else if explicitlyReferences left right.id || explicitlyReferences right left.id then true
  else if !locationsMatch (primaryLocations left) (primaryLocations right) then false
  else if residualEvidence left.title right.title then true
  else match consequenceClause left, consequenceClause right with
    | some leftConsequence, some rightConsequence => residualEvidence leftConsequence rightConsequence
    | _, _ => false

def inferDuplicateGroups (findings : List LedgerFinding) : List (List LedgerFinding) :=
  classes isProvenDuplicate findings

end Evidence

section Basis

variable [Unicode]

def inferredBasis (members : List LedgerFinding) : JsString :=
  if members.any fun row => members.any fun other =>
      row.id ≠ other.id && explicitlyReferences row other.id then
    js "阅读合并：摘要前导明确引用同一账本 ID，原始记录保留"
  else match (members.flatMap primaryLocations).head? with
    | none => js "阅读合并：相近问题描述，原始记录保留"
    | some shown => js "阅读合并：相同定位 " ++ shown.path ++ js ":" ++ lineRange shown ++
        js " 与相近问题描述，原始记录保留"

end Basis

def usableFindingGroups (groups : Option FindingGroupsFile) (findings : List LedgerFinding) :
    Option FindingGroupsFile :=
  groups.filter fun file =>
    match validateFindingGroups file (some fun id => findings.any (·.id = id)) with
    | .ok _ => true
    | .error _ => false

/-- An entry of `byRoot`. -/
structure RootBucket where
  root : JsString
  members : List LedgerFinding
  basis : JsString

def addMember (members : List LedgerFinding) (row : LedgerFinding) : List LedgerFinding :=
  if members.any fun existing => existing.id = row.id then members else members ++ [row]

variable (findings : List LedgerFinding)

def namedRows (group : FindingGroup) : List LedgerFinding :=
  findings.filter fun row => group.named.contains row.id

def addBucket (buckets : List RootBucket) (group : FindingGroup) :
    List RootBucket :=
  let members := namedRows findings group
  if members = [] then buckets
  else if buckets.any (·.root = group.rootCauseId) then
    buckets.map fun bucket =>
      if bucket.root = group.rootCauseId then
        { bucket with members := members.foldl addMember bucket.members }
      else bucket
  else buckets ++ [⟨group.rootCauseId, members, group.basis⟩]

def bucketsByRoot (groups : Option FindingGroupsFile) : List RootBucket :=
  (groups.elim [] (·.groups)).foldl (addBucket findings) []

def unclaimedRows (buckets : List RootBucket) : List LedgerFinding :=
  findings.filter fun row => !buckets.any fun bucket => bucket.members.any (·.id = row.id)

structure FindingListProjection where
  problems : List FindingListProblem
  originalCount : Nat
  displayCount : Nat
  blockingCount : Nat
  pendingCount : Nat
  resolvedCount : Nat

section Projection

variable [Unicode] [UnicodeProperties] [Collation]

omit [UnicodeProperties] in
def bucketProblem (sha : Nullish JsString) (bucket : RootBucket) : FindingListProblem :=
  toProblem bucket.members sha {
    key := bucket.root
    origin := if 1 < bucket.members.length then .sidecar else .singleton
    basis := some bucket.basis }

omit [UnicodeProperties] in
def inferredProblem (sha : Nullish JsString) (members : List LedgerFinding) : FindingListProblem :=
  toProblem members sha {
    key := members.head?.elim (js "finding") (·.id)
    origin := if 1 < members.length then .inferred else .singleton
    basis := if 1 < members.length then some (inferredBasis members) else none }

def separateProblems (findings : List LedgerFinding) (sha : Nullish JsString)
    (groups : Option FindingGroupsFile) : List FindingListProblem :=
  let buckets := bucketsByRoot findings groups
  buckets.map (bucketProblem sha) ++
    (inferDuplicateGroups (unclaimedRows findings buckets)).map (inferredProblem sha)

def projectFindingList (findings : List LedgerFinding) (sha : Option JsString)
    (groups : Option FindingGroupsFile) : FindingListProjection :=
  let sha : Nullish JsString := sha.elim .null .value
  let problems := separateProblems findings sha (usableFindingGroups groups findings)
  let ordered := sortProblems (mergeExplicitReferences problems sha)
  { problems := ordered
    originalCount := findings.length
    displayCount := ordered.length
    blockingCount := (ordered.filter (·.blocking)).length
    pendingCount := (ordered.filter (·.pending)).length
    resolvedCount := (ordered.filter (·.resolved)).length }

end Projection

end CouncilKit.Review.FindingList
