import CouncilKit.Review.Classification

namespace CouncilKit.Review

open Data List

def LedgerFinding.opened (row : LedgerFinding) : LedgerFinding := { row with status := .open }

section Rows

variable {rows next out : List LedgerFinding} {row other : LedgerFinding} {used : List JsString}

theorem row_unique (unique : (rows.map (·.id)).Nodup)
    (member : row ∈ rows) (second : other ∈ rows) (same : row.id = other.id) : row = other :=
  inj_on_of_nodup_map unique member second same

theorem find?_eq_of_unique {test : LedgerFinding → Bool} (member : row ∈ rows) (holds : test row = true)
    (only : ∀ other ∈ rows, test other = true → other = row) : rows.find? test = some row := by
  cases found : rows.find? test with
  | none => exact absurd holds (List.find?_eq_none.mp found row member)
  | some other => rw [only other (mem_of_find?_eq_some found) (List.find?_some found)]

theorem mem_freshRows (member : row ∈ freshRows used out next) :
    row.id ∉ used ∧ row.id ∉ out.map (·.id) ∧ row.id ∈ next.map (·.id) := by
  induction next generalizing out with
  | nil => simp [freshRows] at member
  | cons fresh rest ih =>
    simp only [freshRows] at member
    split at member
    · obtain ⟨unspent, absent, later⟩ := ih member
      exact ⟨unspent, absent, mem_cons_of_mem _ later⟩
    · rename_i passes
      simp only [any_eq_true, decide_eq_true_eq, not_or, not_exists, not_and] at passes
      rcases mem_cons.mp member with rfl | later
      · refine ⟨passes.1, fun stands => ?_, mem_cons_self⟩
        obtain ⟨stored, inOut, same⟩ := mem_map.mp stands
        exact passes.2 stored inOut same
      · obtain ⟨unspent, absent, inRest⟩ := ih later
        rw [map_append, mem_append, not_or] at absent
        exact ⟨unspent, absent.1, mem_cons_of_mem _ inRest⟩

theorem freshRows_nodup :
    ((freshRows used out next).map (·.id)).Nodup := by
  induction next generalizing out with
  | nil => simp [freshRows]
  | cons fresh rest ih =>
    simp only [freshRows]
    split
    · exact ih
    · rw [map_cons, nodup_cons]
      refine ⟨fun again => ?_, ih⟩
      obtain ⟨later, member, same⟩ := mem_map.mp again
      have absent := (mem_freshRows member).2.1
      rw [same] at absent
      simp at absent

theorem opened_mem_freshRows (unique : (next.map (·.id)).Nodup)
    (member : row ∈ next) (unspent : row.id ∉ used) (absent : row.id ∉ out.map (·.id)) :
    row.opened ∈ freshRows used out next := by
  induction next generalizing out with
  | nil => simp at member
  | cons fresh rest ih =>
    rw [map_cons, nodup_cons] at unique
    simp only [freshRows]
    rcases mem_cons.mp member with rfl | later
    · have passes : ¬ (row.id ∈ used ∨ out.any (·.id = row.id) = true) := by
        simp only [any_eq_true, decide_eq_true_eq, not_or, not_exists, not_and]
        refine ⟨unspent, fun stored inOut same => absent ?_⟩
        exact mem_map.mpr ⟨stored, inOut, same⟩
      rw [if_neg passes]
      exact mem_cons_self
    · split
      · exact ih unique.2 later absent
      · apply mem_cons_of_mem
        apply ih unique.2 later
        have different : row.id ≠ fresh.id := fun same =>
          unique.1 (same ▸ mem_map_of_mem later)
        simpa [different] using absent

end Rows

section Completeness

variable [Digest] [Unicode] [UnicodeProperties]

structure LosesNothing [Collation] (prior next : List LedgerFinding)
    (decisions : Option DecisionsFile) : Prop where
  kept : ∀ old ∈ prior, ((classifyAgainstPriorWithAliases prior next decisions).findings.map
    (·.id)).count old.id = 1
  distinct : ((classifyAgainstPriorWithAliases prior next decisions).findings.map (·.id)).Nodup
  accounted : ∀ row ∈ next,
    (∃! old, Merges prior next decisions old row ∧
      mergedFinding old row ∈ (classifyAgainstPriorWithAliases prior next decisions).findings) ∨
    (∃ old ∈ prior, old.status = .accepted ∧ Repeats decisions old row) ∨
    (row.opened ∈ addedRows prior next decisions ∧
      row.opened ∈ (classifyAgainstPriorWithAliases prior next decisions).findings)

section

omit [Unicode] [UnicodeProperties]

/-- What becomes of a row whose id is controlled and that of a prior row: a row
under no decision has to say what that row says, and the rows of a decision
need as many prior rows of it, or an accepted one. -/
def DecisionsFile.Places (file : DecisionsFile) (prior next : List LedgerFinding)
    (old row : LedgerFinding) : Prop :=
  match file.decisionId row with
  | none => old.text = row.text
  | some key => row ∈ (next.filter (file.under key)).take (prior.countP (file.under key)) ∨
      ∃ other ∈ prior, other.status = .accepted ∧ file.under key other = true

instance (file : DecisionsFile) (prior next : List LedgerFinding) (old row : LedgerFinding) :
    Decidable (file.Places prior next old row) :=
  match decided : file.decisionId row with
  | none => decidable_of_iff (old.text = row.text) (by simp [DecisionsFile.Places, decided])
  | some key => decidable_of_iff
      (row ∈ (next.filter (file.under key)).take (prior.countP (file.under key)) ∨
        ∃ other ∈ prior, other.status = .accepted ∧ file.under key other = true)
      (by simp [DecisionsFile.Places, decided])

def DecisionsFile.Covers (file : DecisionsFile) (prior next : List LedgerFinding) : Prop :=
  ∀ old ∈ prior, ∀ row ∈ next, old.id = row.id → (file.controllingDecision row).isSome →
    file.Places prior next old row

end

variable {prior next : List LedgerFinding} {decisions : Option DecisionsFile}
  {old row other : LedgerFinding} {used : List JsString} {file : DecisionsFile} {key : JsString}

theorem findings_perm [Collation] (prior next : List LedgerFinding) (decisions : Option DecisionsFile) :
    (classifyAgainstPriorWithAliases prior next decisions).findings.Perm
      ((classifiedPrior prior next decisions).out ++ addedRows prior next decisions) :=
  sortLedgerFindings_perm _

theorem mem_addedRows (added : row ∈ addedRows prior next decisions) :
    row.id ∉ usedIds prior next decisions ∧ row.id ∉ prior.map (·.id) := by
  obtain ⟨unspent, absent, -⟩ := mem_freshRows added
  rw [classifiedPrior_used] at unspent
  rw [classifiedPrior_ids] at absent
  exact ⟨unspent, absent⟩

theorem opened_mem_addedRows (unique : (next.map (·.id)).Nodup) (member : row ∈ next)
    (unspent : row.id ∉ usedIds prior next decisions) (absent : row.id ∉ prior.map (·.id)) :
    row.opened ∈ addedRows prior next decisions := by
  apply opened_mem_freshRows unique member
  · rwa [classifiedPrior_used]
  · rwa [classifiedPrior_ids]

theorem findings_ids_nodup [Collation] (unique : (prior.map (·.id)).Nodup) :
    ((classifyAgainstPriorWithAliases prior next decisions).findings.map (·.id)).Nodup := by
  have ids := (findings_perm prior next decisions).map (·.id)
  rw [ids.nodup_iff, map_append, classifiedPrior_ids, nodup_append]
  refine ⟨unique, freshRows_nodup, fun id old new fresh same => ?_⟩
  obtain ⟨row, added, rfl⟩ := mem_map.mp fresh
  rw [same] at old
  exact (mem_addedRows added).2 old

theorem prior_id_mem [Collation] (member : old ∈ prior) :
    old.id ∈ (classifyAgainstPriorWithAliases prior next decisions).findings.map (·.id) := by
  rw [((findings_perm prior next decisions).map (·.id)).mem_iff, map_append, classifiedPrior_ids, mem_append]
  exact .inl (mem_map_of_mem member)

theorem takenRows_facts (taken : (old, row) ∈ takenRows prior next decisions) :
    old ∈ prior ∧ row ∈ next ∧ matchDecisionIdentity decisions old row ≠ some false ∧
      (old.status = .accepted → matchDecisionIdentity decisions old row = some true) := by
  obtain ⟨before, after, rfl, turned⟩ := mem_served.mp taken
  obtain ⟨inNext, -, unseparated⟩ := mem_eligible.mp (takenRow_eligible turned)
  have passes := of_decide_eq_true (Option.filter_eq_some_iff.mp turned).2
  exact ⟨by simp, inNext, unseparated, fun accepted => passes.resolve_left (by simp [accepted])⟩

theorem mem_usedIds_iff (unique : (next.map (·.id)).Nodup) (member : row ∈ next) :
    row.id ∈ usedIds prior next decisions ↔ ∃ old, (old, row) ∈ takenRows prior next decisions := by
  rw [mem_usedIds]
  constructor
  · rintro ⟨⟨old, found⟩, taken, same⟩
    obtain ⟨-, inNext, -⟩ := takenRows_facts taken
    rw [row_unique unique inNext member same] at taken
    exact ⟨old, taken⟩
  · rintro ⟨old, taken⟩
    exact ⟨_, taken, rfl⟩

theorem accounted_iff [Collation] (unique : (next.map (·.id)).Nodup) (member : row ∈ next) :
    ((∃! old, Merges prior next decisions old row ∧
        mergedFinding old row ∈ (classifyAgainstPriorWithAliases prior next decisions).findings) ∨
      (∃ old ∈ prior, old.status = .accepted ∧ Repeats decisions old row) ∨
      (row.opened ∈ addedRows prior next decisions ∧
        row.opened ∈ (classifyAgainstPriorWithAliases prior next decisions).findings)) ↔
    row.id ∈ usedIds prior next decisions ∨
      (∃ old ∈ prior, old.status = .accepted ∧ Repeats decisions old row) ∨
      row.id ∉ prior.map (·.id) := by
  constructor
  · rintro (⟨old, ⟨merges, -⟩, -⟩ | repeats | ⟨added, -⟩)
    · exact .inl ((mem_usedIds_iff unique member).mpr ⟨old, merges.2⟩)
    · exact .inr (.inl repeats)
    · exact .inr (.inr (mem_addedRows added).2)
  · intro facts
    by_cases spent : row.id ∈ usedIds prior next decisions
    · obtain ⟨old, taken⟩ := (mem_usedIds_iff unique member).mp spent
      by_cases accepted : old.status = .accepted
      · obtain ⟨inPrior, -, -, same⟩ := takenRows_facts taken
        exact .inr (.inl ⟨old, inPrior, accepted, .inl (same accepted)⟩)
      · have merges : Merges prior next decisions old row := ⟨accepted, taken⟩
        have stands : mergedFinding old row ∈
            (classifyAgainstPriorWithAliases prior next decisions).findings := by
          rw [(findings_perm prior next decisions).mem_iff, mem_append]
          exact .inl merges.mem_out
        exact .inl ⟨old, ⟨merges, stands⟩, fun other same => takenRows_once taken same.1.2⟩
    · rcases facts with used | repeats | absent
      · contradiction
      · exact .inr (.inl repeats)
      · have added := opened_mem_addedRows unique member spent absent
        refine .inr (.inr ⟨added, ?_⟩)
        rw [(findings_perm prior next decisions).mem_iff, mem_append]
        exact .inr added

theorem mem_usedIds_of_turn {before after : List LedgerFinding}
    (taken : row.id ∉ usedIds before next decisions →
      takenRow next decisions old (usedIds before next decisions) = some row) :
    row.id ∈ usedIds (before ++ old :: after) next decisions := by
  simp only [usedIds, foldl_append, foldl_cons]
  apply foldl_turn_mono
  rw [mem_turn]
  by_cases spent : row.id ∈ usedIds before next decisions
  · exact .inl spent
  · exact .inr ⟨row, taken spent, rfl⟩

section

variable (unique : (next.map (·.id)).Nodup)

include unique

theorem takenRow_uncontrolled (member : row ∈ next) (same : old.id = row.id)
    (going : old.status ≠ .accepted) (unspent : row.id ∉ used)
    (uncontrolled : matchDecisionIdentity decisions old row = none) :
    takenRow next decisions old used = some row := by
  have inRows : row ∈ eligible old next used decisions :=
    mem_eligible.mpr ⟨member, unspent, by simp [uncontrolled]⟩
  have noStrict : (eligible old next used decisions).find?
      (fun other => matchDecisionIdentity decisions old other = some true) = none := by
    rw [List.find?_eq_none]
    intro other inOther strict
    have strict := of_decide_eq_true strict
    have found := row_unique unique (mem_eligible.mp inOther).1 member
      (strict_of_uncontrolled same uncontrolled strict)
    rw [found, uncontrolled] at strict
    contradiction
  have byId : (eligible old next used decisions).find? (·.id = old.id) = some row := by
    apply find?_eq_of_unique inRows (by simp [same])
    intro other inOther sameId
    apply row_unique unique (mem_eligible.mp inOther).1 member
    exact (of_decide_eq_true sameId).trans same
  simp [takenRow, matchFinding, noStrict, byId, going]

theorem accounted_uncontrolled (inPrior : old ∈ prior) (member : row ∈ next)
    (same : old.id = row.id) (uncontrolled : matchDecisionIdentity decisions old row = none) :
    row.id ∈ usedIds prior next decisions ∨
      ∃ old ∈ prior, old.status = .accepted ∧ Repeats decisions old row := by
  by_cases accepted : old.status = .accepted
  · exact .inr ⟨old, inPrior, accepted, .inr ⟨uncontrolled, same⟩⟩
  · obtain ⟨before, after, rfl⟩ := append_of_mem inPrior
    exact .inl (mem_usedIds_of_turn fun unspent =>
      takenRow_uncontrolled unique member same accepted unspent uncontrolled)

theorem takenRow_undecided (member : row ∈ next)
    (controlled : (file.controllingDecision row).isSome) (undecided : file.decisionId row = none)
    (same : old.id = row.id) (text : old.text = row.text) (unspent : row.id ∉ used) :
    takenRow next (some file) old used = some row := by
  have strict := (undecided_true controlled undecided).mpr ⟨same, text⟩
  have inRows : row ∈ eligible old next used (some file) :=
    mem_eligible.mpr ⟨member, unspent, by simp [strict]⟩
  have found : (eligible old next used (some file)).find?
      (fun other => matchDecisionIdentity (some file) old other = some true) = some row := by
    apply find?_eq_of_unique inRows (by simp [strict])
    intro other inOther also
    apply row_unique unique (mem_eligible.mp inOther).1 member
    rcases (matchDecisionIdentity_eq_true.mp (of_decide_eq_true also)).2 with ⟨id, -⟩ | ⟨key, decided, -⟩
    · exact id.symm.trans same
    · rw [DecisionsFile.decisionId_congr same text, undecided] at decided
      contradiction
  simp [takenRow, matchFinding, found, strict]

end

theorem accounted_undecided (priorUnique : (prior.map (·.id)).Nodup)
    (unique : (next.map (·.id)).Nodup) (inPrior : old ∈ prior) (member : row ∈ next)
    (same : old.id = row.id) (controlled : (file.controllingDecision row).isSome)
    (undecided : file.decisionId row = none) :
    (row.id ∈ usedIds prior next (some file) ∨
      ∃ old ∈ prior, old.status = .accepted ∧ Repeats (some file) old row) ↔
    old.text = row.text := by
  have own : ∀ {other}, other ∈ prior → matchDecisionIdentity (some file) other row = some true →
      old.text = row.text := by
    intro other inOther strict
    obtain ⟨id, text⟩ := (undecided_true controlled undecided).mp strict
    rw [row_unique priorUnique inPrior inOther (same.trans id.symm)]
    exact text
  constructor
  · rintro (spent | ⟨other, inOther, -, repeats⟩)
    · obtain ⟨other, taken⟩ := (mem_usedIds_iff unique member).mp spent
      obtain ⟨inOther, -, unseparated, -⟩ := takenRows_facts taken
      exact own inOther (controlled_eligible controlled unseparated)
    · exact own inOther ((controlled_repeats controlled).mp repeats)
  · intro text
    obtain ⟨before, after, rfl⟩ := append_of_mem inPrior
    exact .inl (mem_usedIds_of_turn fun unspent =>
      takenRow_undecided unique member controlled undecided same text unspent)

theorem takenRow_under (under : file.under key old = true) :
    takenRow next (some file) old used = (next.filter (file.under key)).find? fun row => row.id ∉ used := by
  have rows : eligible old next used (some file) =
      (next.filter (file.under key)).filter fun row => row.id ∉ used := by
    rw [eligible, filter_filter]
    apply filter_congr
    intro row _
    simp [under_unseparated under]
  rw [← List.head?_filter, ← rows]
  cases left : eligible old next used (some file) with
  | nil => simp [takenRow, matchFinding, weakMatch, left]
  | cons first rest =>
    have strict : matchDecisionIdentity (some file) old first = some true := by
      have inRows : first ∈ eligible old next used (some file) := by simp [left]
      rw [under_true under, ← under_unseparated under]
      exact (mem_eligible.mp inRows).2.2
    simp [takenRow, matchFinding, left, strict]

section

variable (unique : (next.map (·.id)).Nodup)

include unique

theorem takenRow_not_under (foreign : file.under key old = false)
    (taken : takenRow next (some file) old used = some row) :
    row.id ∉ (next.filter (file.under key)).map (·.id) := by
  intro queued
  obtain ⟨other, inQueue, same⟩ := mem_map.mp queued
  obtain ⟨inNext, under⟩ := mem_filter.mp inQueue
  obtain ⟨member, -, unseparated⟩ := mem_eligible.mp (takenRow_eligible taken)
  rw [← row_unique unique inNext member same] at unseparated
  have decided : file.decisionId other = some key := of_decide_eq_true under
  have controlled := DecisionsFile.controls_of_decisionId decided
  have own : file.decisionId old = some key := by
    rcases (controlled_true controlled).mp (controlled_eligible controlled unseparated)
      with ⟨id, text⟩ | ⟨shared, first, second⟩
    · rw [DecisionsFile.decisionId_congr id text, decided]
    · rw [first, ← second, decided]
  simp [DecisionsFile.under, own] at foreign

theorem mem_usedIds_under (member : row ∈ next) (under : file.under key row = true) :
    row.id ∈ usedIds prior next (some file) ↔
      row ∈ (next.filter (file.under key)).take (prior.countP (file.under key)) := by
  apply queue_served
  · exact unique.sublist (filter_sublist.map _)
  · exact fun _ _ own => takenRow_under own
  · exact fun _ _ _ foreign taken => takenRow_not_under unique foreign taken
  · exact mem_filter.mpr ⟨member, under⟩

theorem accounted_under (member : row ∈ next) (decided : file.decisionId row = some key) :
    (row.id ∈ usedIds prior next (some file) ∨
      ∃ old ∈ prior, old.status = .accepted ∧ Repeats (some file) old row) ↔
    row ∈ (next.filter (file.under key)).take (prior.countP (file.under key)) ∨
      ∃ other ∈ prior, other.status = .accepted ∧ file.under key other = true := by
  have controlled := DecisionsFile.controls_of_decisionId decided
  have repeats : ∀ old, Repeats (some file) old row ↔ file.under key old = true := by
    intro old
    rw [controlled_repeats controlled, controlled_true controlled, DecisionsFile.under, decide_eq_true_iff]
    constructor
    · rintro (⟨id, text⟩ | ⟨shared, first, second⟩)
      · rw [DecisionsFile.decisionId_congr id text, decided]
      · rw [first, ← second, decided]
    · exact fun own => .inr ⟨key, own, decided⟩
  rw [mem_usedIds_under unique member (decide_eq_true decided)]
  simp only [repeats]

end

/-- A classification loses nothing exactly when each row that has the id of a
prior row, where a decision controls it, finds its place among the decisions. -/
theorem classification_complete [Collation] (priorUnique : (prior.map (·.id)).Nodup)
    (nextUnique : (next.map (·.id)).Nodup) :
    LosesNothing prior next decisions ↔ ∀ file, decisions = some file → file.Covers prior next := by
  constructor
  · rintro loses file rfl old inPrior row member same controlled
    have stays : ¬ row.id ∉ prior.map (·.id) := fun absent =>
      absent (same ▸ mem_map_of_mem inPrior)
    have accounted := (accounted_iff nextUnique member).mp (loses.accounted row member)
    simp only [stays, or_false] at accounted
    rw [DecisionsFile.Places]
    split
    · rename_i undecided
      exact (accounted_undecided priorUnique nextUnique inPrior member same controlled undecided).mp
        accounted
    · rename_i key decided
      exact (accounted_under nextUnique member decided).mp accounted
  · intro covers
    refine ⟨fun old inPrior => ?_, findings_ids_nodup priorUnique, fun row member => ?_⟩
    · exact count_eq_one_of_mem (findings_ids_nodup priorUnique) (prior_id_mem inPrior)
    · rw [accounted_iff nextUnique member, ← or_assoc]
      by_cases absent : row.id ∉ prior.map (·.id)
      · exact .inr absent
      · obtain ⟨old, inPrior, same⟩ := mem_map.mp (not_not.mp absent)
        left
        cases settled : matchDecisionIdentity decisions old row with
        | none => exact accounted_uncontrolled nextUnique inPrior member same settled
        | some verdict =>
          cases decisions with
          | none => contradiction
          | some file =>
            have controlled : (file.controllingDecision row).isSome := by
              have some := matchDecisionIdentity_isSome file old row
              rw [settled, DecisionsFile.controllingDecision_congr same] at some
              simpa using some.symm
            have places := covers file rfl old inPrior row member same controlled
            rw [DecisionsFile.Places] at places
            split at places
            · rename_i undecided
              exact (accounted_undecided priorUnique nextUnique inPrior member same controlled
                undecided).mpr places
            · rename_i key decided
              exact (accounted_under nextUnique member decided).mpr places

end Completeness

section Samples

def sampleRow (id title : JsString) : LedgerFinding where
  id
  severity := .major
  status := .open
  title
  text := title
  source := .unique
  reviewer := none
  files := []

def sampleAssertion : JsString := js "retry drops the queued write"

def aliasedDecision : DecisionsFile :=
  ⟨[{ findingId := js "F-1", aliases := [js "F-2"], originalAssertion := some sampleAssertion }]⟩

/-- The order of code units, which is that of the locale among small letters. -/
@[reducible] def Collation.units : Collation where
  localeCompare left right := if left.Before right then -1 else if left = right then 0 else 1

/-- The instances on whose tables the samples agree with the engine; no digest is asked for. -/
@[reducible] def plainDigest : Digest := ⟨id⟩

attribute [local instance] plainDigest Unicode.ascii UnicodeProperties.ascii Collation.units

def reportedOnce : List LedgerFinding :=
  [sampleRow (js "F-1") sampleAssertion, sampleRow (js "F-3") (js "log grows")]

def reportedTwice : List LedgerFinding :=
  [sampleRow (js "F-2") sampleAssertion, sampleRow (js "F-1") sampleAssertion]

def priorFinding : List LedgerFinding := [sampleRow (js "F-1") sampleAssertion]

theorem classification_complete_once : LosesNothing priorFinding reportedOnce (some aliasedDecision) := by
  have places : ∀ old ∈ priorFinding, ∀ row ∈ reportedOnce, old.id = row.id →
      aliasedDecision.Places priorFinding reportedOnce old row := by decide +kernel
  apply (classification_complete (by decide) (by decide)).mpr
  rintro file ⟨⟩ old inPrior row member same -
  exact places old inPrior row member same

theorem classification_drops : (priorFinding.map (·.id)).Nodup ∧ (reportedTwice.map (·.id)).Nodup ∧
    separateChangedAssertions priorFinding reportedTwice (some aliasedDecision) = reportedTwice ∧
    ¬ LosesNothing priorFinding reportedTwice (some aliasedDecision) := by
  refine ⟨by decide, by decide, by decide +kernel, fun loses => ?_⟩
  have taken : takenRows priorFinding reportedTwice (some aliasedDecision) =
      [(sampleRow (js "F-1") sampleAssertion, sampleRow (js "F-2") sampleAssertion)] := by
    decide +kernel
  have added : addedRows priorFinding reportedTwice (some aliasedDecision) = [] := by
    decide +kernel
  rcases loses.accounted (sampleRow (js "F-1") sampleAssertion) (by decide) with
    ⟨old, ⟨merges, -⟩, -⟩ | ⟨old, inPrior, accepted, -⟩ | ⟨fresh, -⟩
  · have pair := merges.2
    rw [taken, mem_singleton] at pair
    obtain ⟨-, same⟩ := Prod.mk.inj pair
    exact absurd (congrArg (·.id) same) (by decide)
  · have none : ∀ old ∈ priorFinding, old.status ≠ .accepted := by decide
    exact none old inPrior accepted
  · rw [added] at fresh
    contradiction

end Samples

end CouncilKit.Review
