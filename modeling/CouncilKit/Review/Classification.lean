import CouncilKit.Data.Turns
import CouncilKit.Review.FindingMatch

namespace CouncilKit.Review

open Data List Option LedgerFinding

def FindingSeverity.rank : FindingSeverity → Int
  | .critical => 0
  | .major => 1
  | .minor => 2
  | .nit => 3

def FindingStatus.rank : FindingStatus → Int
  | .regress => 0
  | .open => 1
  | .accepted => 2
  | .closed => 3

def FindingSource.rank : FindingSource → Int
  | .consensus => 0
  | .unique => 1
  | .unknown => 2

def compareLedgerFindings [Collation] (a b : LedgerFinding × Nat) : Int :=
  let differences := [a.1.severity.rank - b.1.severity.rank, a.1.status.rank - b.1.status.rank,
    a.1.source.rank - b.1.source.rank, Collation.localeCompare a.1.title b.1.title,
    Collation.localeCompare a.1.id b.1.id]
  (differences.find? (· ≠ 0)).getD (a.2 - b.2)

def sortLedgerFindings [Collation] (findings : List LedgerFinding) : List LedgerFinding :=
  (findings.zipIdx.mergeSort fun a b => compareLedgerFindings a b ≤ 0).map (·.1)

theorem sortLedgerFindings_perm [Collation] (findings : List LedgerFinding) :
    (sortLedgerFindings findings).Perm findings := by
  have sorted := (mergeSort_perm findings.zipIdx
    fun a b => decide (compareLedgerFindings a b ≤ 0)).map (·.1)
  rwa [zipIdx_map_fst] at sorted

/-- A member of `{ ...below, ...above }`. -/
def Nullish.spread {α : Type*} : Nullish α → Nullish α → Nullish α
  | .absent, below => below
  | above, _ => above

def mergedFinding (old row : LedgerFinding) : LedgerFinding :=
  { row with
    id := old.id
    status := if old.isFindingVerifiedClosed .absent then .regress else .open
    contractClass := Nullish.spread row.contractClass old.contractClass
    invariantId := Nullish.spread row.invariantId old.invariantId
    counterexample := Nullish.spread row.counterexample old.counterexample
    repairClaim := row.repairClaim.or old.repairClaim
    acceptedReason := row.acceptedReason.or old.acceptedReason
    acceptedAt := row.acceptedAt.or old.acceptedAt }

structure FindingAlias where
  originalId : JsString
  aliasId : JsString
  basis : JsString
deriving DecidableEq

/-- The variables of `classifyAgainstPriorWithAliases`. -/
structure Classifying where
  used : List JsString
  out : List LedgerFinding
  aliases : List FindingAlias

structure Classified where
  findings : List LedgerFinding
  aliases : List FindingAlias

section Classify

variable [Digest] [Unicode] [UnicodeProperties]

def classifyPrior (next : List LedgerFinding) (decisions : Option DecisionsFile)
    (state : Classifying) (old : LedgerFinding) : Classifying :=
  let found := matchFinding old next state.used decisions
  if old.status = .accepted then
    { state with
      used := match found with
        | some repeated =>
          if matchDecisionIdentity decisions old repeated = some true then
            repeated.id :: state.used
          else state.used
        | none => state.used
      out := state.out ++ [old] }
  else match found with
    -- Absence is missing coverage, never a closure receipt.
    | none => { state with out := state.out ++ [old] }
    | some row => {
        used := row.id :: state.used
        out := state.out ++ [mergedFinding old row]
        aliases :=
          if row.id ≠ old.id then state.aliases ++ [⟨old.id, row.id,
            js "against-chain alias; stable root is the original finding id"⟩]
          else state.aliases }

/-- The second loop: the rows it adds behind `out`. -/
def freshRows (used : List JsString) : (out next : List LedgerFinding) → List LedgerFinding
  | _, [] => []
  | out, fresh :: rest =>
    if fresh.id ∈ used ∨ out.any (·.id = fresh.id) then freshRows used out rest
    else
      let row := { fresh with status := .open }
      row :: freshRows used (out ++ [row]) rest

variable (prior next : List LedgerFinding) (decisions : Option DecisionsFile)

def classifiedPrior : Classifying :=
  prior.foldl (classifyPrior next decisions) ⟨[], [], []⟩

def addedRows : List LedgerFinding :=
  let first := classifiedPrior prior next decisions
  freshRows first.used first.out next

def classifyAgainstPriorWithAliases [Collation] (prior next : List LedgerFinding)
    (decisions : Option DecisionsFile) : Classified :=
  let first := classifiedPrior prior next decisions
  ⟨sortLedgerFindings (first.out ++ freshRows first.used first.out next), first.aliases⟩

def takenRow (next : List LedgerFinding) (decisions : Option DecisionsFile) (old : LedgerFinding)
    (used : List JsString) : Option LedgerFinding :=
  (matchFinding old next used decisions).filter fun row =>
    old.status ≠ .accepted ∨ matchDecisionIdentity decisions old row = some true

def takenRows :
    List (LedgerFinding × LedgerFinding) :=
  served (takenRow next decisions) id prior []

def usedIds : List JsString :=
  prior.foldl (turn (takenRow next decisions) id) []

def Merges
    (old row : LedgerFinding) : Prop :=
  old.status ≠ .accepted ∧ (old, row) ∈ takenRows prior next decisions

variable {prior next : List LedgerFinding} {decisions : Option DecisionsFile}
  {old row : LedgerFinding} {used : List JsString} {state : Classifying}

theorem classifyPrior_used :
    (classifyPrior next decisions state old).used =
      turn (takenRow next decisions) id state.used old := by
  cases found : matchFinding old next state.used decisions with
  | none => by_cases accepted : old.status = .accepted <;>
      simp [classifyPrior, turn, takenRow, found, accepted]
  | some row =>
    by_cases accepted : old.status = .accepted
    · by_cases same : matchDecisionIdentity decisions old row = some true <;>
        simp [classifyPrior, turn, takenRow, found, accepted, same, Option.filter]
    · simp [classifyPrior, turn, takenRow, found, accepted, Option.filter]

theorem classifyPrior_out (next : List LedgerFinding) (decisions : Option DecisionsFile)
    (state : Classifying) (old : LedgerFinding) :
    ∃ new, (classifyPrior next decisions state old).out = state.out ++ [new] ∧ new.id = old.id ∧
      ∀ row, old.status ≠ .accepted → takenRow next decisions old state.used = some row →
        new = mergedFinding old row := by
  by_cases accepted : old.status = .accepted
  · exact ⟨old, by simp [classifyPrior, accepted], rfl, fun _ going => absurd accepted going⟩
  · cases found : matchFinding old next state.used decisions with
    | none =>
      refine ⟨old, by simp [classifyPrior, accepted, found], rfl, fun row _ taken => ?_⟩
      simp [takenRow, found] at taken
    | some match_ =>
      refine ⟨mergedFinding old match_, by simp [classifyPrior, accepted, found], rfl, ?_⟩
      intro row _ taken
      simp only [takenRow, found, filter_some, accepted, ne_eq, not_false_eq_true,
        true_or, decide_true, if_true, Option.some.injEq] at taken
      rw [taken]

theorem classifiedPrior_append (before : List LedgerFinding) :
    classifiedPrior (before ++ [old]) next decisions =
      classifyPrior next decisions (classifiedPrior before next decisions) old := by
  simp [classifiedPrior, foldl_append]

theorem classifiedPrior_used : (classifiedPrior prior next decisions).used =
    usedIds prior next decisions := by
  induction prior using List.reverseRecOn with
  | nil => rfl
  | append_singleton before old ih =>
    rw [classifiedPrior_append, classifyPrior_used, ih]
    simp [usedIds, foldl_append]

theorem classifiedPrior_ids : (classifiedPrior prior next decisions).out.map (·.id) = prior.map (·.id) := by
  induction prior using List.reverseRecOn with
  | nil => rfl
  | append_singleton before old ih =>
    obtain ⟨new, out, same, -⟩ := classifyPrior_out next decisions
      (classifiedPrior before next decisions) old
    rw [classifiedPrior_append, out, map_append, ih]
    simp [same]

theorem Merges.mem_out (merges : Merges prior next decisions old row) :
    mergedFinding old row ∈ (classifiedPrior prior next decisions).out := by
  obtain ⟨going, taken⟩ := merges
  induction prior using List.reverseRecOn with
  | nil => simp [takenRows, served] at taken
  | append_singleton before last ih =>
    obtain ⟨new, out, -, merged⟩ := classifyPrior_out next decisions
      (classifiedPrior before next decisions) last
    rw [classifiedPrior_append, out, mem_append, mem_singleton]
    rw [takenRows, served_append, mem_append] at taken
    rcases taken with earlier | turned
    · exact .inl (ih earlier)
    · simp only [served, append_nil, mem_toList, map_eq_some_iff,
        Prod.mk.injEq] at turned
      obtain ⟨_, chosen, rfl, rfl⟩ := turned
      have used : (classifiedPrior before next decisions).used = usedIds before next decisions :=
        classifiedPrior_used
      rw [used] at merged
      exact .inr (merged _ going chosen).symm

omit [Unicode] [UnicodeProperties] in
theorem mem_eligible : row ∈ eligible old next used decisions ↔
    row ∈ next ∧ row.id ∉ used ∧ matchDecisionIdentity decisions old row ≠ some false := by
  simp [eligible]

variable {rows : List LedgerFinding}

omit [Digest] in
theorem foldl_betterScored {best : Option (LedgerFinding × ℚ)}
    {found : LedgerFinding × ℚ} (ended : rows.foldl (betterScored old) best = some found) :
    best = some found ∨ found.1 ∈ rows := by
  induction rows generalizing best with
  | nil => exact .inl ended
  | cons row rest ih =>
    rcases ih ended with kept | later
    · simp only [betterScored] at kept
      split at kept
      · exact .inl kept
      · split at kept
        · cases kept
          exact .inr mem_cons_self
        · exact .inl kept
    · exact .inr (mem_cons_of_mem _ later)

omit [Digest] in
theorem mem_of_weakMatch (found : weakMatch old rows = some row) :
    row ∈ rows := by
  simp only [weakMatch, or_eq_some_iff, map_eq_some_iff] at found
  rcases found with first | ⟨-, second | ⟨-, best, ended, rfl⟩⟩
  · exact mem_of_find?_eq_some first
  · exact mem_of_find?_eq_some second
  · rcases foldl_betterScored ended with start | member
    · contradiction
    · exact member

theorem matchFinding_eligible (found : matchFinding old next used decisions = some row) :
    row ∈ eligible old next used decisions := by
  simp only [matchFinding, or_eq_some_iff] at found
  rcases found with strict | ⟨-, byId | ⟨-, weak⟩⟩
  · exact mem_of_find?_eq_some strict
  · exact mem_of_find?_eq_some byId
  · exact mem_of_weakMatch weak

theorem takenRow_eligible (taken : takenRow next decisions old used = some row) :
    row ∈ eligible old next used decisions :=
  matchFinding_eligible (filter_eq_some_iff.mp taken).1

theorem takenRow_unspent : Unspent (takenRow next decisions) id := by
  intro old used row taken
  exact (mem_eligible.mp (takenRow_eligible taken)).2.1

theorem takenRows_once {other : LedgerFinding} (one : (old, row) ∈ takenRows prior next decisions)
    (second : (other, row) ∈ takenRows prior next decisions) : other = old :=
  congrArg Prod.fst (served_once takenRow_unspent second one rfl)

theorem mem_usedIds {id : JsString} :
    id ∈ usedIds prior next decisions ↔ ∃ pair ∈ takenRows prior next decisions, pair.2.id = id := by
  simp [usedIds, mem_foldl_turn, takenRows]

end Classify

end CouncilKit.Review
