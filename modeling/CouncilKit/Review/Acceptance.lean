import CouncilKit.Review.DecisionStore
import CouncilKit.Review.LostFindings

namespace CouncilKit.Review

open Data List

def StoredItem.decided (item : StoredItem) : DecisionItem where
  findingId := item.findingId
  identity := item.identity
  aliases := item.aliases.getD []
  originalAssertion := item.originalAssertion
  assertionVersion := item.assertionVersion
  assertionHash := item.assertionHash

structure PrDecisions where
  items : List StoredItem

namespace PrDecisions

def file (decisions : PrDecisions) : DecisionsFile := ⟨decisions.items.map (·.decided)⟩

def controllingDecision (decisions : PrDecisions) (finding : LedgerFinding) : Option StoredItem :=
  decisions.items.find? fun item => item.decided.Controls finding.id

def decisionForFinding [Digest] (decisions : PrDecisions) (finding : LedgerFinding) : Option StoredItem :=
  decisions.items.find? fun item => item.decided.identityMatch finding.candidate

end PrDecisions

def ACCEPTED_REASON : JsString := js "用户在评审解读中选择不修复；接受风险，未表示已验证关闭。"

/-- `now` is the reading of the clock. -/
def projectFindingDecision [Digest] (now : JsString) (row : LedgerFinding)
    (decisions : PrDecisions) : LedgerFinding :=
  let decision := decisions.decisionForFinding row
  if decision.any (·.decision = .wont_fix) then
    { row with
      status := .accepted
      acceptedReason := some ((decision.bind (·.audit)).getD ACCEPTED_REASON)
      acceptedAt := some ((decision.bind (·.decidedAt)).getD now) }
  -- Current intent overrides inherited acceptance.
  else if row.status = .accepted ∧
      (decision.isSome ∨ (decisions.controllingDecision row).isSome) then
    { row with
      status := .open
      acceptedReason := none
      acceptedAt := none
      verification := none }
  else row

def projectPrDecisions [Digest] (now : Nat → JsString) (findings : List LedgerFinding)
    (decisions : PrDecisions) : List LedgerFinding :=
  findings.mapIdx fun index row => projectFindingDecision (now index) row decisions

/-- What a review with `--against` brings to the prior ledger. -/
structure IncrementalReview where
  reported : List LedgerFinding
  prDecisions : Option PrDecisions
  /-- The clock at the projection of the prior ledger, and of the new one. -/
  loadedAt : Nat → JsString
  projectedAt : Nat → JsString
  sha : Option JsString
  complete : Bool
  /-- The receipts of an id, in the order of the reviewers. -/
  assessments : JsString → List FindingVerification

namespace IncrementalReview

def file (review : IncrementalReview) : Option DecisionsFile := review.prDecisions.map (·.file)

def project [Digest] (review : IncrementalReview) (now : Nat → JsString) (findings : List LedgerFinding) :
    List LedgerFinding :=
  review.prDecisions.elim findings (projectPrDecisions now findings)

section

variable [Digest] [Unicode] [UnicodeProperties] [Collation]

variable (review : IncrementalReview) (prior : List LedgerFinding)

def known : List LedgerFinding :=
  review.project review.loadedAt prior

def separated : List LedgerFinding :=
  separateChangedAssertions (review.known prior) review.reported review.file

/-- The part of `persistFindingsFromReport` before the verdicts of the reviewers. -/
def classified : List LedgerFinding :=
  review.project review.projectedAt (classifyAgainstPriorWithAliases (review.known prior)
    (review.separated prior) review.file).findings

/-- One row in `projectReviewerVerifications`. -/
def verify (review : IncrementalReview) (reportedFindings : List LedgerFinding) (row : LedgerFinding) :
    LedgerFinding :=
  if row.status = .accepted then row
  else
    let receipts := review.assessments row.id
    match receipts.find? (·.outcome = .still_open) with
    | some stillOpen => { row with status := .open, verification := some stillOpen }
    | none =>
      let reported := (matchFinding row reportedFindings [] none).isSome
      match receipts.find? (·.outcome = .verified_closed) with
      | some closure =>
        if review.complete ∧ reported = false then
          { row with status := .closed, verification := some closure }
        else unevaluated receipts row
      | none => unevaluated receipts row
where
  unevaluated (receipts : List FindingVerification) (row : LedgerFinding) : LedgerFinding :=
    match receipts.find? (·.outcome = .not_evaluated) with
    | some receipt => { row with verification := some receipt }
    | none => row

def projectReviewerVerifications :
    List LedgerFinding :=
  if review.sha.any FULL_COMMIT_SHA then
    sortLedgerFindings ((review.classified prior).map (review.verify (review.separated prior)))
  else review.classified prior

end

end IncrementalReview

/-- What writes a ledger between two reviews, or reads it with the claims of a landing. -/
inductive LedgerEvent where
  | review (review : IncrementalReview)
  | accept (findingId reason «at» : JsString)
  | claim (ids : List JsString) (repairClaim : FindingRepairClaim)

/-- `findings accept`: every row of the id. -/
def acceptFinding (findings : List LedgerFinding) (findingId reason «at» : JsString) : List LedgerFinding :=
  findings.map fun item =>
    if item.id = findingId then
      { item with status := .accepted, acceptedReason := some reason, acceptedAt := some «at» }
    else item

def markFindingsRepairClaimed (findings : List LedgerFinding) (ids : List JsString)
    (repairClaim : FindingRepairClaim) : List LedgerFinding :=
  findings.map fun row =>
    if row.id ∉ ids ∨ row.status = .accepted then row
    else { row with status := .open, verification := none, repairClaim := some repairClaim }

section

variable [Digest] [Unicode] [UnicodeProperties] [Collation]

def LedgerEvent.next (prior : List LedgerFinding) : LedgerEvent → List LedgerFinding
  | .review done => done.projectReviewerVerifications prior
  | .accept findingId reason «at» => acceptFinding prior findingId reason «at»
  | .claim ids repairClaim => markFindingsRepairClaimed prior ids repairClaim

def ledgerAfter (start : List LedgerFinding) (events : List LedgerEvent) : List LedgerFinding :=
  events.foldl LedgerEvent.next start

end

namespace PrDecisions

def WontFix [Digest] (decisions : PrDecisions) (row : LedgerFinding) : Prop :=
  (decisions.decisionForFinding row).any (·.decision = .wont_fix)

def Managed (decisions : PrDecisions) (row : LedgerFinding) : Prop :=
  (decisions.controllingDecision row).isSome

end PrDecisions

section

variable [Digest] {decisions : PrDecisions} {row other : LedgerFinding} {now : JsString}
  {rows : List LedgerFinding}

omit [Digest] in
theorem find?_decided (items : List StoredItem) (test : DecisionItem → Bool) :
    (items.map (·.decided)).find? test = (items.find? fun item => test item.decided).map (·.decided) := by
  induction items with
  | nil => rfl
  | cons item rest ih =>
    rw [map_cons, List.find?_cons, List.find?_cons]
    split
    · rfl
    · exact ih

omit [Digest] in
theorem controllingDecision_file : decisions.file.controllingDecision row =
    (decisions.controllingDecision row).map (·.decided) := find?_decided _ _

omit [Digest] in
theorem managed_iff : decisions.Managed row ↔ (decisions.file.controllingDecision row).isSome := by
  rw [controllingDecision_file, Option.isSome_map, PrDecisions.Managed]

theorem decisionForFinding_congr (id : row.id = other.id) (text : row.text = other.text) :
    decisions.decisionForFinding row = decisions.decisionForFinding other := by
  simp only [PrDecisions.decisionForFinding, LedgerFinding.candidate, id, text]

theorem wontFix_congr (id : row.id = other.id) (text : row.text = other.text) :
    decisions.WontFix row ↔ decisions.WontFix other := by
  rw [PrDecisions.WontFix, PrDecisions.WontFix, decisionForFinding_congr id text]

theorem projectFindingDecision_id :
    (projectFindingDecision now row decisions).id = row.id := by
  simp only [projectFindingDecision]
  split
  · rfl
  · split <;> rfl

theorem projectFindingDecision_text : (projectFindingDecision now row decisions).text = row.text := by
  simp only [projectFindingDecision]
  split
  · rfl
  · split <;> rfl

theorem projectPrDecisions_find? {now : Nat → JsString} {id : JsString}
    (found : rows.find? (·.id = id) = some row) :
    ∃ projected, (projectPrDecisions now rows decisions).find? (·.id = id) = some projected ∧
      projected.id = row.id ∧ projected.text = row.text := by
  induction rows generalizing now with
  | nil => cases found
  | cons first rest ih =>
    have head : projectPrDecisions now (first :: rest) decisions =
        projectFindingDecision (now 0) first decisions ::
          projectPrDecisions (fun index => now (index + 1)) rest decisions := mapIdx_cons
    rw [head, List.find?_cons, projectFindingDecision_id]
    rw [List.find?_cons] at found
    split at found
    · cases found
      exact ⟨_, rfl, projectFindingDecision_id, projectFindingDecision_text⟩
    · exact ih found

end

section

variable [Digest] [Unicode] [UnicodeProperties] {prior next out : List LedgerFinding}
  {decisions : Option DecisionsFile} {row old : LedgerFinding} {used : List JsString}

section

omit [Digest] [Unicode] [UnicodeProperties]

end

end

namespace IncrementalReview

variable [Digest] {review : IncrementalReview} {prior : List LedgerFinding}
  {row other old : LedgerFinding} {now : Nat → JsString}

def WontFix (review : IncrementalReview) (row : LedgerFinding) : Prop :=
  ∃ decisions, review.prDecisions = some decisions ∧ decisions.WontFix row

omit [Digest] in
def Managed (review : IncrementalReview) (row : LedgerFinding) : Prop :=
  ∃ decisions, review.prDecisions = some decisions ∧ decisions.Managed row

theorem wontFix_congr (id : row.id = other.id) (text : row.text = other.text) :
    review.WontFix row ↔ review.WontFix other := by
  simp only [WontFix, Review.wontFix_congr id text]

variable {rows : List LedgerFinding}

theorem project_ids (rows : List LedgerFinding) :
    (review.project now rows).map (·.id) = rows.map (·.id) := by
  unfold project
  cases review.prDecisions with
  | none => rfl
  | some decisions =>
    apply ext_getElem
    · simp [projectPrDecisions]
    · intro index _ _
      simp [projectPrDecisions, projectFindingDecision_id]

section

variable [Unicode] [UnicodeProperties] {rows : List LedgerFinding}

theorem verify_same : (review.verify rows row).id = row.id ∧ (review.verify rows row).text = row.text := by
  have unevaluated : ∀ receipts, (verify.unevaluated receipts row).id = row.id ∧
      (verify.unevaluated receipts row).text = row.text := by
    intro receipts
    unfold verify.unevaluated
    split <;> exact ⟨rfl, rfl⟩
  unfold verify
  split
  · exact ⟨rfl, rfl⟩
  · simp only
    split
    · exact ⟨rfl, rfl⟩
    · split
      · split
        · exact ⟨rfl, rfl⟩
        · exact unevaluated _
      · exact unevaluated _

variable [Collation]

theorem verified_ids {id : JsString} : id ∈ (review.projectReviewerVerifications prior).map (·.id) ↔
    id ∈ (review.classified prior).map (·.id) := by
  unfold projectReviewerVerifications
  split
  · have ids : ((review.classified prior).map (review.verify (review.separated prior))).map (·.id) =
        (review.classified prior).map (·.id) := by
      rw [map_map]
      apply map_congr_left
      intro row _
      exact verify_same.1
    rw [((sortLedgerFindings_perm _).map (·.id)).mem_iff, ids]
  · rfl

section

omit [Unicode] [UnicodeProperties] [Collation]

def distinctId (row : LedgerFinding) : JsString :=
  row.id.clipUtf16 140 ++ js "-new-" ++ (Digest.sha256 row.text).take 12

def distinct (row : LedgerFinding) : LedgerFinding :=
  { row with id := distinctId row, status := .open }

/-- A reported row reuses an id that a decision names, with another text than the
prior row, and no one decision stands for both. -/
structure Changes (review : IncrementalReview) (prior : List LedgerFinding)
    (old row : LedgerFinding) : Prop where
  reported : row ∈ review.reported
  reused : prior.find? (·.id = row.id) = some old
  managed : review.Managed row
  text : old.text ≠ row.text
  apart : ∀ file key, review.file = some file →
    ¬ (file.decisionId old = some key ∧ file.decisionId row = some key)

end

theorem prior_id_kept (inPrior : old ∈ prior) :
    old.id ∈ (review.projectReviewerVerifications prior).map (·.id) := by
  rw [verified_ids, classified, project_ids]
  have inKnown : old.id ∈ (review.known prior).map (·.id) := by
    rw [known, project_ids]
    exact mem_map_of_mem inPrior
  obtain ⟨row, member, same⟩ := mem_map.mp inKnown
  rw [← same]
  exact prior_id_mem member

section

omit [Unicode] [UnicodeProperties] [Collation]

theorem known_find? {id : JsString} (found : prior.find? (·.id = id) = some old) :
    ∃ stored, (review.known prior).find? (·.id = id) = some stored ∧ stored.id = old.id ∧
      stored.text = old.text := by
  unfold known project
  cases review.prDecisions with
  | none => exact ⟨old, found, rfl, rfl⟩
  | some decisions => exact projectPrDecisions_find? found

theorem Changes.known_find (changes : review.Changes prior old row) :
    ∃ stored, (review.known prior).find? (·.id = row.id) = some stored ∧ stored.id = old.id ∧
      stored.text = old.text := known_find? changes.reused

theorem Changes.separated (changes : review.Changes prior old row) :
    distinct row ∈ review.separated prior := by
  obtain ⟨stored, found, id, text⟩ := changes.known_find
  obtain ⟨decisions, given, managed⟩ := changes.managed
  have file : review.file = some decisions.file := by rw [IncrementalReview.file, given]; rfl
  have verdict : matchDecisionIdentity review.file stored row = some false := by
    have controlled : (decisions.file.controllingDecision row).isSome := managed_iff.mp managed
    rw [file]
    cases settled : matchDecisionIdentity (some decisions.file) stored row with
    | none => exact absurd settled (controlled_settled controlled)
    | some verdict =>
      cases verdict with
      | false => rfl
      | true =>
        rcases (controlled_true controlled).mp settled with ⟨-, same⟩ | ⟨key, first, second⟩
        · exact absurd (text.symm.trans same) changes.text
        · rw [DecisionsFile.decisionId_congr id text] at first
          exact absurd ⟨first, second⟩ (changes.apart _ key file)
  apply mem_map.mpr
  refine ⟨row, changes.reported, ?_⟩
  rw [separateChangedAssertion, found]
  simp only [verdict, if_true]
  rfl

end

end

end IncrementalReview

section

variable [Digest] [Unicode] [UnicodeProperties] [Collation] {start : List LedgerFinding}
  {events more : List LedgerEvent} {row other : LedgerFinding}

/-- The user accepted this id with this text: in the first ledger, by a command, or
by a decision that a review applied. -/
inductive UserAccepted (start : List LedgerFinding) (events : List LedgerEvent)
    (row : LedgerFinding) : Prop where
  | before (old : LedgerFinding) (member : old ∈ start) (accepted : old.status = .accepted)
      (id : old.id = row.id) (text : old.text = row.text) : UserAccepted start events row
  | chosen (earlier later : List LedgerEvent) (reason «at» : JsString) (old : LedgerFinding)
      (split : events = earlier ++ .accept row.id reason «at» :: later)
      (member : old ∈ ledgerAfter start earlier) (id : old.id = row.id) (text : old.text = row.text) :
      UserAccepted start events row
  | decided (review : IncrementalReview) (member : .review review ∈ events)
      (wontFix : review.WontFix row) : UserAccepted start events row

theorem UserAccepted.grows (accepted : UserAccepted start events other) (id : other.id = row.id)
    (text : other.text = row.text) : UserAccepted start (events ++ more) row := by
  cases accepted with
  | before old member accepted oldId oldText =>
    exact .before old member accepted (oldId.trans id) (oldText.trans text)
  | chosen earlier later reason «at» old split member oldId oldText =>
    apply UserAccepted.chosen earlier (later ++ more) reason «at» old _ member (oldId.trans id)
      (oldText.trans text)
    rw [split, id, append_assoc, cons_append]
  | decided review member wontFix =>
    exact .decided review (mem_append_left _ member) ((IncrementalReview.wontFix_congr id text).mp wontFix)

variable {findings : List LedgerFinding}

section

omit [Digest] [Unicode] [UnicodeProperties] [Collation]

end

end

section Samples

/-- A digest that has the value of SHA-256 on the text of the samples. -/
@[reducible] def logDigest : Digest where
  sha256 text :=
    if text = js "log grows" then
      js "3197cff94fb73ce0a6a3eb01196d4d3044ab4168992877146f78e6298655d2e6"
    else []

attribute [local instance] logDigest Unicode.ascii UnicodeProperties.ascii Collation.units

def clockAt (time : String) : Nat → JsString := fun _ => js time

def sampleReview (decisions : PrDecisions) : IncrementalReview where
  reported := [sampleRow (js "F-1") (js "log grows")]
  prDecisions := some decisions
  loadedAt := clockAt "2026-01-01T00:00:00.000Z"
  projectedAt := clockAt "2026-01-01T00:00:01.000Z"
  sha := none
  complete := true
  assessments := fun _ => []

end Samples

end CouncilKit.Review
