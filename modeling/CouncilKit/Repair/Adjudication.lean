import CouncilKit.Review.FindingGroups

namespace CouncilKit.Repair

open Data Review List

inductive AdjudicationKind where
  | regression_in_change | in_scope_omission | out_of_scope | unverified_hypothesis
  | duplicate_alias | evidence_conflict

inductive AcceptanceDisposition where
  | still_open | verified_closed | accepted_with_reason | not_evaluated | coverage_gap
  | aliased | falsified | out_of_scope_blocking | out_of_scope_recorded
deriving DecidableEq

structure ImmutableAssertion where
  assertionId : JsString
  assertionVersion : Nat
  sourceFindingId : JsString
  candidateSha : Option JsString
  invariant : JsString
  trigger : JsString
  expectedTerminal : JsString
  evidenceRef : JsString

structure AdjudicatedItem where
  assertion : ImmutableAssertion
  kind : AdjudicationKind
  disposition : AcceptanceDisposition
  rootCauseId : JsString
  aliasOf : Option JsString
  requiredResponsibility : Bool
  blocking : Bool
  relatedAssertionIds : List JsString
  evidence : JsString

structure AdjudicationProjection where
  version : Nat
  sourceRunId : JsString
  candidateSha : JsString
  items : List AdjudicatedItem
  rawFindingIds : List JsString
  uncoveredSourceIds : List JsString
  rootCauseIds : List JsString

structure GateAcceptanceView where
  openIds : List JsString
  coverageGaps : List JsString
  blockingOutOfScope : List JsString
  notEvaluatedIds : List JsString
  verifiedClosedIds : List JsString
  falsifiedIds : List JsString
  conflict : Bool

structure AliasInput where
  fromId : JsString
  toId : JsString
  evidence : JsString
deriving DecidableEq

structure FalsifiedInput where
  findingId : JsString
  evidence : JsString

structure ScopedInput where
  findingId : JsString
  blocking : Bool
  evidence : JsString

def BLOCKING_SEVERITY (severity : FindingSeverity) : Bool :=
  severity == .critical || severity == .major

def assertionIdFor (findingId : JsString) (version : Nat) : JsString :=
  js "A-" ++ findingId ++ js "-v" ++ .ofNat version

/-- The aliases of one group: its alias list, then its members other than the root. -/
def groupAliases (group : FindingGroup) : List AliasInput :=
  group.aliases.map (fun id => ⟨id, group.rootCauseId, group.basis⟩) ++
    (group.findingIds.filter (· ≠ group.rootCauseId)).map (fun id => ⟨id, group.rootCauseId, group.basis⟩)

def groupFalsified (group : FindingGroup) : List FalsifiedInput :=
  match group.adjudication with
  | some adjudication =>
    if adjudication.kind = .unsupported ∨ adjudication.kind = .dismissed then
      group.findingIds.map fun id => ⟨id, adjudication.reason⟩
    else []
  | none => []

structure GroupInputs where
  aliases : List AliasInput
  falsified : List FalsifiedInput

def adjudicationInputsFromGroups (groups : Option FindingGroupsFile) : GroupInputs :=
  match groups with
  | none => ⟨[], []⟩
  | some file => ⟨file.groups.flatMap groupAliases, file.groups.flatMap groupFalsified⟩

/-- The arguments of one ingestion; an omitted list is the empty one. -/
structure AdjudicationInput where
  sourceRunId : JsString
  candidateSha : JsString
  findings : List LedgerFinding
  findingGroups : Option FindingGroupsFile := none
  kinds : JsString → Option AdjudicationKind := fun _ => none
  aliases : List AliasInput := []
  falsified : List FalsifiedInput := []
  outOfScope : List ScopedInput := []

namespace AdjudicationInput

variable (input : AdjudicationInput)

/-- `aliasMap.get(id)`: the callers' aliases come after the sidecar's and win. -/
def aliasFor (id : JsString) : Option AliasInput :=
  lookupLast ((adjudicationInputsFromGroups input.findingGroups).aliases ++ input.aliases) (·.fromId) id

def falsifiedFor (id : JsString) : Option FalsifiedInput :=
  lookupLast ((adjudicationInputsFromGroups input.findingGroups).falsified ++ input.falsified)
    (·.findingId) id

def scopedFor (id : JsString) : Option ScopedInput :=
  lookupLast input.outOfScope (·.findingId) id

end AdjudicationInput

structure AssertionMeaning where
  invariant : JsString
  trigger : JsString

variable (row : LedgerFinding)

def assertionMeaning : AssertionMeaning where
  invariant := row.title
  trigger := if row.text = [] then row.title else row.text

/-- `row.verification?.evidence ?? row.text` -/
def evidenceOf : JsString :=
  (row.verification.map (·.evidence)).getD row.text

def isRequired : Bool := row.reviewer.any (· ≠ [])

def isNotEvaluated : Bool :=
  row.verification.any (·.outcome == .not_evaluated)

/-- The disposition of a row that no alias, falsification or scope decision names. -/
def rowDisposition (candidateSha : JsString) : AcceptanceDisposition :=
  if row.isFindingVerifiedClosed (.value candidateSha) then .verified_closed
  else if row.acceptedWithReason then .accepted_with_reason
  else if isNotEvaluated row && isRequired row then .coverage_gap
  else if isNotEvaluated row then .not_evaluated
  else .still_open

def itemFromFinding (input : AdjudicationInput) (row : LedgerFinding) (version : Nat)
    (kind : AdjudicationKind) : AdjudicatedItem :=
  let meaning := assertionMeaning row
  let assertion : ImmutableAssertion := {
    assertionId := assertionIdFor row.id version
    assertionVersion := version
    sourceFindingId := row.id
    candidateSha := some input.candidateSha
    invariant := meaning.invariant
    trigger := meaning.trigger
    expectedTerminal := js "defect absent on candidate"
    evidenceRef := evidenceOf row }
  let ownRoot := FindingGroupsFile.resolveRootCause row.id input.findingGroups
  match input.aliasFor row.id with
  | some found => {
      assertion
      kind := .duplicate_alias
      disposition := .aliased
      rootCauseId := FindingGroupsFile.resolveRootCause found.toId input.findingGroups
      aliasOf := some found.toId
      requiredResponsibility := false
      blocking := false
      relatedAssertionIds := [assertionIdFor found.toId 1]
      evidence := found.evidence }
  | none =>
  match input.falsifiedFor row.id with
  | some found => {
      assertion
      kind := (input.kinds row.id).getD .unverified_hypothesis
      disposition := .falsified
      rootCauseId := ownRoot
      aliasOf := none
      requiredResponsibility := true
      blocking := false
      relatedAssertionIds := []
      evidence := found.evidence }
  | none =>
  match input.scopedFor row.id with
  | some found => {
      assertion
      kind := .out_of_scope
      disposition := if found.blocking then .out_of_scope_blocking else .out_of_scope_recorded
      rootCauseId := ownRoot
      aliasOf := none
      requiredResponsibility := found.blocking
      blocking := found.blocking
      relatedAssertionIds := []
      evidence := found.evidence }
  | none =>
    let disposition := rowDisposition row input.candidateSha
    { assertion
      kind
      disposition
      rootCauseId := ownRoot
      aliasOf := none
      requiredResponsibility := isRequired row || BLOCKING_SEVERITY row.severity
      blocking := BLOCKING_SEVERITY row.severity && disposition ≠ .verified_closed &&
        !row.acceptedWithReason
      relatedAssertionIds := []
      evidence := evidenceOf row }

structure Ingestion where
  items : List AdjudicatedItem
  mapped : List JsString
  rootCauses : List JsString

def AdjudicatedItem.sourceId (item : AdjudicatedItem) : JsString := item.assertion.sourceFindingId

/-- `priorByFinding.values()`, flattened: a `Map` keeps its keys in insertion order. -/
def priorByFinding (prior : List AdjudicatedItem) : List AdjudicatedItem :=
  (unique (prior.map (·.sourceId))).flatMap fun id => prior.filter (·.sourceId = id)

/-- `items[items.findIndex(sameAssertion)] = refreshed`, when there is such an item. -/
def replaceAssertion (items : List AdjudicatedItem) (assertionId : JsString)
    (refreshed : AdjudicatedItem) : List AdjudicatedItem :=
  match items.findIdx? (·.assertion.assertionId = assertionId) with
  | some index => items.set index refreshed
  | none => items

/-- One turn of the loop: a new row is added, a row whose meaning changed gets a
new version, and any other row is evaluated again under its frozen assertion. -/
def ingestRow (input : AdjudicationInput) (prior : List AdjudicatedItem) (state : Ingestion)
    (row : LedgerFinding) : Ingestion :=
  let priorItems := prior.filter (·.sourceId = row.id)
  match priorItems.getLast? with
  | some latest =>
    if latest.assertion.invariant ≠ (assertionMeaning row).invariant then
      let nextVersion := (priorItems.map (·.assertion.assertionVersion)).foldl max 0 + 1
      let added := { itemFromFinding input row nextVersion .evidence_conflict with
        relatedAssertionIds := [latest.assertion.assertionId] }
      ⟨state.items ++ [added], state.mapped ++ [row.id], state.rootCauses ++ [added.rootCauseId]⟩
    else
      let refreshed := { itemFromFinding input row latest.assertion.assertionVersion latest.kind with
        assertion := latest.assertion }
      { state with items := replaceAssertion state.items latest.assertion.assertionId refreshed }
  | none =>
    let added := itemFromFinding input row 1 ((input.kinds row.id).getD .in_scope_omission)
    { items := state.items ++ [added]
      mapped := state.mapped ++ [row.id]
      rootCauses :=
        if added.disposition ≠ .aliased then state.rootCauses ++ [added.rootCauseId]
        else state.rootCauses }

def ingestAdjudication (prior : Option AdjudicationProjection) (input : AdjudicationInput) :
    AdjudicationProjection :=
  let priorItems := prior.elim [] (·.items)
  let grouped := priorByFinding priorItems
  let rawFindingIds := unique (prior.elim [] (·.rawFindingIds) ++ input.findings.map (·.id))
  let final := input.findings.foldl (ingestRow input priorItems)
    ⟨grouped, grouped.map (·.sourceId), grouped.map (·.rootCauseId)⟩
  { version := prior.elim 0 (·.version) + 1
    sourceRunId := input.sourceRunId
    candidateSha := input.candidateSha
    items := final.items
    rawFindingIds
    uncoveredSourceIds := rawFindingIds.filter fun id => !final.mapped.contains id
    rootCauseIds := unique (unique final.rootCauses ++ prior.elim [] (·.rootCauseIds)) }

def projectAdjudication (input : AdjudicationInput) : AdjudicationProjection :=
  ingestAdjudication none input

def AdjudicationProjection.idsWith (projection : AdjudicationProjection)
    (disposition : AcceptanceDisposition) : List JsString :=
  (projection.items.filter (·.disposition = disposition)).map (·.sourceId)

def gateAcceptanceView (projection : AdjudicationProjection) : GateAcceptanceView where
  openIds := projection.idsWith .still_open
  coverageGaps := projection.idsWith .coverage_gap ++ projection.uncoveredSourceIds
  blockingOutOfScope := projection.idsWith .out_of_scope_blocking
  notEvaluatedIds := projection.idsWith .not_evaluated
  verifiedClosedIds := projection.idsWith .verified_closed
  falsifiedIds := projection.idsWith .falsified
  conflict := false

variable {input : AdjudicationInput} {row : LedgerFinding} {item : AdjudicatedItem}

def AdjudicationInput.itemOf (input : AdjudicationInput) (row : LedgerFinding) : AdjudicatedItem :=
  itemFromFinding input row 1 ((input.kinds row.id).getD .in_scope_omission)

theorem ingestRow_fresh (input : AdjudicationInput) (state : Ingestion) (row : LedgerFinding) :
    (ingestRow input [] state row).items = state.items ++ [input.itemOf row] ∧
      (ingestRow input [] state row).mapped = state.mapped ++ [row.id] := ⟨rfl, rfl⟩

theorem ingestRows_fresh (input : AdjudicationInput) (rows : List LedgerFinding) (state : Ingestion) :
    (rows.foldl (ingestRow input []) state).items = state.items ++ rows.map input.itemOf ∧
      (rows.foldl (ingestRow input []) state).mapped = state.mapped ++ rows.map (·.id) := by
  induction rows generalizing state with
  | nil => simp
  | cons row rest ih =>
    obtain ⟨items, mapped⟩ := ih (ingestRow input [] state row)
    obtain ⟨headItems, headMapped⟩ := ingestRow_fresh input state row
    simp only [foldl_cons, items, mapped, headItems, headMapped, append_assoc,
      map_cons, cons_append, nil_append, and_self]

theorem projectAdjudication_items (input : AdjudicationInput) :
    (projectAdjudication input).items = input.findings.map input.itemOf := by
  have items := (ingestRows_fresh input input.findings ⟨[], [], []⟩).1
  rw [nil_append] at items
  exact items

theorem projectAdjudication_covered (input : AdjudicationInput) :
    (projectAdjudication input).uncoveredSourceIds = [] := by
  have mapped := (ingestRows_fresh input input.findings ⟨[], [], []⟩).2
  refine filter_eq_nil_iff.mpr fun id member => ?_
  have source : id ∈ input.findings.map (·.id) := mem_unique.mp member
  simp only [priorByFinding, Option.elim, map_nil, unique, eraseDups_nil,
    flatMap_nil, mapped, nil_append]
  simpa using source

@[simp] theorem itemFromFinding_sourceId (input : AdjudicationInput) (row : LedgerFinding)
    (version : Nat) (kind : AdjudicationKind) :
    (itemFromFinding input row version kind).sourceId = row.id := by
  simp only [itemFromFinding, AdjudicatedItem.sourceId]
  split
  · rfl
  · split
    · rfl
    · split <;> rfl

theorem mem_idsWith {projection : AdjudicationProjection} {disposition : AcceptanceDisposition}
    {id : JsString} :
    id ∈ projection.idsWith disposition ↔
      ∃ item ∈ projection.items, item.disposition = disposition ∧ item.sourceId = id := by
  simp [AdjudicationProjection.idsWith, and_assoc]

end CouncilKit.Repair
