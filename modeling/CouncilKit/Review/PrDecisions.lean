import CouncilKit.Data.Json
import CouncilKit.Review.LedgerFinding

namespace CouncilKit.Review

open Data Data.Regex Option

structure DecisionItem where
  findingId : JsString
  /-- The value of the stable id. -/
  identity : Option JsString := none
  /-- The ids of the explicit aliases. -/
  aliases : List JsString := []
  originalAssertion : Option JsString := none
  assertionVersion : Option Nat := none
  assertionHash : Option JsString := none

/-- `items` are the values of the record, in its order. -/
structure DecisionsFile where
  items : List DecisionItem

structure Candidate where
  id : JsString
  text : JsString
  originalAssertion : Option JsString := none
  assertionVersion : Option Nat := none
  assertionHash : Option JsString := none

def LedgerFinding.candidate (row : LedgerFinding) : Candidate := { id := row.id, text := row.text }

def hashAssertion [Digest] (assertion : JsString) : JsString := Digest.sha256 assertion

def blank : Regex := oneOf (js " \t")

def LEADING_IDENTITY : Regex :=
  all [.start, optional (all [oneOf (js "-*"), plus blank]),
    optional (all [lit (js "["), any [lit (js "critical"), lit (js "major"), lit (js "minor"),
      lit (js "nit")], lit (js "]"), plus blank]),
    lit (js "`"), .capture 1 (plus (noneOf (js "`\n"))), lit (js "`"), plus blank,
    any [lit (js "—"), lit (js "–"), lit (js "-"), lit (js ":")], plus blank]

def ASSERTION_LOCATION : Regex :=
  all [.start, plus blank, .capture 1 (optional (lit (js "`"))),
    .capture 2 (all [plus pathUnit, star (all [lit (js "/"), plus pathUnit])]), lit (js ":"),
    .capture 3 (all [.unitWhere fun unit => isDigit unit && unit != 0x30, star digit]),
    optional (all [lit (js "-"),
      .capture 4 (all [.unitWhere fun unit => isDigit unit && unit != 0x30, star digit])]),
    .backreference 1, star blank, .stop]

namespace DecisionItem

def leadingIdentityBody (item : DecisionItem) (text : JsString) : JsString × Bool :=
  match exec LEADING_IDENTITY text with
  | none => (text, false)
  | some marker =>
    let id := (marker.group 1).getD []
    if id = item.findingId ∨ id ∈ item.aliases then (text.drop marker.whole.length, true)
    else (text, false)

def citesRange (location : Match) : Bool :=
  let start := (location.group 3).getD []
  match numberOf start, numberOf ((location.group 4).getD start) with
  | some start, some «end» =>
    isSafeInteger start && isSafeInteger «end» && start ≤ «end» && «end» ≤ 10000000
  | _, _ => false

def citesSource (suffix : JsString) : Bool :=
  match exec ASSERTION_LOCATION suffix with
  | none => false
  | some location =>
    let parts := ((location.group 2).getD []).splitOn 0x2F
    !parts.any (fun part => part = js "." ∨ part = js "..") && citesRange location

def sameAssertion [Digest] (skipped : DecisionItem) (candidate : Candidate) : Bool :=
  match skipped.originalAssertion with
  | none | some [] => false
  | some assertion =>
    if (candidate.assertionVersion.any fun version =>
        skipped.assertionVersion.any (· ≠ version)) then false
    else if (candidate.assertionHash.any fun hash =>
        hash ≠ skipped.assertionHash.getD (hashAssertion assertion)) then false
    else
      let text := candidate.originalAssertion.getD candidate.text
      let original := skipped.leadingIdentityBody assertion
      let body := (skipped.leadingIdentityBody text).1
      if body = original.1 then true
      else if original.2 ∨ candidate.originalAssertion.any (· ≠ []) ∨
          ¬ original.1.isPrefixOf body then false
      else citesSource (body.drop original.1.length)

def identityMatch [Digest] (item : DecisionItem) (candidate : Candidate) : Bool :=
  (item.findingId = candidate.id ∨ candidate.id ∈ item.aliases) && item.sameAssertion candidate

/-- A decision controls the ids it names, whatever is asserted under them. -/
def Controls (item : DecisionItem) (id : JsString) : Prop :=
  item.findingId = id ∨ item.identity = some id ∨ id ∈ item.aliases

instance (item : DecisionItem) (id : JsString) : Decidable (item.Controls id) :=
  inferInstanceAs (Decidable (_ ∨ _ ∨ _))

end DecisionItem

namespace DecisionsFile

variable (file : DecisionsFile)

def controllingDecision (finding : LedgerFinding) : Option DecisionItem :=
  file.items.find? fun item => item.Controls finding.id

def decisionForFinding [Digest] (finding : LedgerFinding) : Option DecisionItem :=
  file.items.find? fun item => item.identityMatch finding.candidate

end DecisionsFile

def matchDecisionIdentity [Digest] (decisions : Option DecisionsFile)
    (prior next : LedgerFinding) : Option Bool := do
  let file ← decisions
  let _ ← (file.controllingDecision prior).or (file.controllingDecision next)
  if prior.id = next.id ∧ prior.text = next.text then return true
  match file.decisionForFinding prior, file.decisionForFinding next with
  | some before, some after => return before.findingId = after.findingId
  | _, _ => return false

/-- A row that reuses a controlled id for another assertion gets an id of its own. -/
def separateChangedAssertion [Digest] (prior : List LedgerFinding)
    (decisions : Option DecisionsFile) (row : LedgerFinding) : LedgerFinding :=
  match prior.find? (·.id = row.id) with
  | none => row
  | some old =>
    if matchDecisionIdentity decisions old row = some false then
      { row with
        id := row.id.clipUtf16 140 ++ js "-new-" ++ (Digest.sha256 row.text).take 12
        status := .open }
    else row

/-- Keep a newly reported mechanism even if a model reuses a controlled id. -/
def separateChangedAssertions [Digest] (prior next : List LedgerFinding)
    (decisions : Option DecisionsFile) : List LedgerFinding :=
  next.map (separateChangedAssertion prior decisions)

section Identity

variable [Digest] {file : DecisionsFile} {prior next row old other : LedgerFinding} {decisions : Option DecisionsFile}
  {item : DecisionItem}

def DecisionsFile.decisionId (file : DecisionsFile) (finding : LedgerFinding) : Option JsString :=
  (file.decisionForFinding finding).map (·.findingId)

theorem DecisionsFile.controls_of_decision (found : file.decisionForFinding row = some item) :
    (file.controllingDecision row).isSome := by
  have member := List.mem_of_find?_eq_some found
  have matched := List.find?_some found
  simp only [DecisionItem.identityMatch, Bool.and_eq_true, decide_eq_true_eq] at matched
  rw [controllingDecision, List.find?_isSome]
  refine ⟨item, member, decide_eq_true ?_⟩
  rcases matched.1 with same | named
  · exact .inl same
  · exact .inr (.inr named)

variable {key : JsString}

theorem DecisionsFile.controls_of_decisionId
    (decided : file.decisionId row = some key) : (file.controllingDecision row).isSome := by
  obtain ⟨item, found, -⟩ := map_eq_some_iff.mp decided
  exact controls_of_decision found

omit [Digest] in
theorem DecisionsFile.controllingDecision_congr (same : prior.id = next.id) :
    file.controllingDecision prior = file.controllingDecision next := by
  simp only [controllingDecision, same]

theorem DecisionsFile.decisionId_congr (same : prior.id = next.id) (text : prior.text = next.text) :
    file.decisionId prior = file.decisionId next := by
  simp only [decisionId, decisionForFinding, LedgerFinding.candidate, same, text]

theorem matchDecisionIdentity_controlled
    (controlled : ((file.controllingDecision prior).or (file.controllingDecision next)).isSome) :
    matchDecisionIdentity (some file) prior next = some true ↔
      prior.id = next.id ∧ prior.text = next.text ∨
        ∃ key, file.decisionId prior = some key ∧ file.decisionId next = some key := by
  obtain ⟨item, found⟩ := isSome_iff_exists.mp controlled
  simp only [matchDecisionIdentity, bind_eq_bind, bind_some, found, pure_def, DecisionsFile.decisionId]
  split
  · rename_i same
    simp [same]
  · rename_i different
    cases file.decisionForFinding prior with
    | none => simp [different]
    | some before =>
      cases file.decisionForFinding next with
      | none => simp [different]
      | some after => simp [different, eq_comm]

theorem matchDecisionIdentity_isSome (file : DecisionsFile) (prior next : LedgerFinding) :
    (matchDecisionIdentity (some file) prior next).isSome =
      ((file.controllingDecision prior).or (file.controllingDecision next)).isSome := by
  cases found : (file.controllingDecision prior).or (file.controllingDecision next) with
  | none => simp [matchDecisionIdentity, found]
  | some item =>
    simp only [matchDecisionIdentity, bind_eq_bind, bind_some, found,
      pure_def, isSome_some]
    split
    · rfl
    · cases file.decisionForFinding prior <;> cases file.decisionForFinding next <;> rfl

theorem matchDecisionIdentity_eq_true :
    matchDecisionIdentity (some file) prior next = some true ↔
      ((file.controllingDecision prior).or (file.controllingDecision next)).isSome ∧
      (prior.id = next.id ∧ prior.text = next.text ∨
        ∃ key, file.decisionId prior = some key ∧ file.decisionId next = some key) := by
  constructor
  · intro same
    have controlled := matchDecisionIdentity_isSome file prior next
    rw [same, isSome_some] at controlled
    exact ⟨controlled.symm, (matchDecisionIdentity_controlled controlled.symm).mp same⟩
  · rintro ⟨controlled, facts⟩
    exact (matchDecisionIdentity_controlled controlled).mpr facts

section Controlled

variable (controlled : (file.controllingDecision next).isSome)

include controlled

omit [Digest] in
theorem controlled_either : ((file.controllingDecision prior).or (file.controllingDecision next)).isSome := by
  cases file.controllingDecision prior <;> simp [controlled]

theorem controlled_settled : matchDecisionIdentity (some file) prior next ≠ none := by
  intro unsettled
  have some := matchDecisionIdentity_isSome file prior next
  rw [unsettled, controlled_either controlled] at some
  contradiction

theorem controlled_true : matchDecisionIdentity (some file) prior next = some true ↔
    prior.id = next.id ∧ prior.text = next.text ∨
      ∃ key, file.decisionId prior = some key ∧ file.decisionId next = some key :=
  matchDecisionIdentity_controlled (controlled_either controlled)

theorem controlled_eligible (unseparated : matchDecisionIdentity (some file) prior next ≠ some false) :
    matchDecisionIdentity (some file) prior next = some true := by
  cases same : matchDecisionIdentity (some file) prior next with
  | none => exact absurd same (controlled_settled controlled)
  | some verdict =>
    cases verdict with
    | true => rfl
    | false => exact absurd same unseparated

end Controlled

/-- The row is the finding by the decisions, or by its id where none controls the two. -/
def Repeats (decisions : Option DecisionsFile) (old row : LedgerFinding) : Prop :=
  matchDecisionIdentity decisions old row = some true ∨
    matchDecisionIdentity decisions old row = none ∧ old.id = row.id

def DecisionsFile.under (file : DecisionsFile) (key : JsString) (row : LedgerFinding) : Bool :=
  file.decisionId row = some key

theorem strict_of_uncontrolled (same : old.id = row.id)
    (uncontrolled : matchDecisionIdentity decisions old row = none)
    (strict : matchDecisionIdentity decisions old other = some true) : other.id = row.id := by
  cases decisions with
  | none => contradiction
  | some file =>
    have none := matchDecisionIdentity_isSome file old row
    rw [uncontrolled, isSome_none] at none
    have free : file.controllingDecision old = .none := by
      cases found : file.controllingDecision old with
      | none => rfl
      | some item => simp [found] at none
    rcases (matchDecisionIdentity_eq_true.mp strict).2 with ⟨id, -⟩ | ⟨key, decided, -⟩
    · exact id.symm.trans same
    · have controlled := DecisionsFile.controls_of_decisionId decided
      simp [free] at controlled

theorem controlled_repeats (controlled : (file.controllingDecision row).isSome) :
    Repeats (some file) old row ↔ matchDecisionIdentity (some file) old row = some true := by
  simp [Repeats, controlled_settled controlled]

theorem undecided_true (controlled : (file.controllingDecision row).isSome)
    (undecided : file.decisionId row = none) :
    matchDecisionIdentity (some file) old row = some true ↔ old.id = row.id ∧ old.text = row.text := by
  rw [controlled_true controlled]
  simp [undecided]

theorem under_true (under : file.under key prior = true) :
    matchDecisionIdentity (some file) prior next = some true ↔ file.under key next = true := by
  have decided : file.decisionId prior = some key := of_decide_eq_true under
  rw [matchDecisionIdentity_eq_true, DecisionsFile.under, decide_eq_true_iff]
  constructor
  · rintro ⟨-, ⟨id, text⟩ | ⟨other, first, second⟩⟩
    · rw [← DecisionsFile.decisionId_congr id text, decided]
    · rw [second, ← first, decided]
  · intro same
    exact ⟨by simp [DecisionsFile.controls_of_decisionId decided], .inr ⟨key, decided, same⟩⟩

theorem under_unseparated (under : file.under key prior = true) :
    matchDecisionIdentity (some file) prior next ≠ some false ↔ file.under key next = true := by
  have controlled := DecisionsFile.controls_of_decisionId (of_decide_eq_true under)
  have settled := matchDecisionIdentity_isSome file prior next
  rw [← under_true under]
  cases verdict : matchDecisionIdentity (some file) prior next with
  | none => simp [verdict, controlled] at settled
  | some same => cases same <;> simp

end Identity

end CouncilKit.Review
