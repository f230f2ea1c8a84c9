import CouncilKit.Repair.AdjudicationRuns

namespace CouncilKit.Repair

open Data Review List AdjudicatedItem

def Settled (sha : JsString) (row : LedgerFinding) : Prop :=
  row.isFindingVerifiedClosed (.value sha) = true ∨ row.acceptedWithReason = true

def AdjudicatedItem.pending (item : AdjudicatedItem) : Bool :=
  item.disposition = .still_open || item.disposition = .coverage_gap

def ingestAll (inputs : List AdjudicationInput) : Option AdjudicationProjection :=
  inputs.foldl (fun prior input => some (ingestAdjudication prior input)) none

variable {input : AdjudicationInput} {prior items : List AdjudicatedItem} {state : Ingestion}
  {row : LedgerFinding} {rows done : List LedgerFinding} {latest item : AdjudicatedItem}
  {place : Nat} {before : Option AdjudicationProjection}

section

variable (settled : Settled input.candidateSha row)

include settled

theorem pending_settled (version : Nat) (kind : AdjudicationKind) :
    (itemFromFinding input row version kind).pending = false := by
  have own : rowDisposition row input.candidateSha ≠ .still_open ∧
      rowDisposition row input.candidateSha ≠ .coverage_gap := by
    cases verified : row.isFindingVerifiedClosed (.value input.candidateSha) with
    | true => simp [rowDisposition, verified]
    | false =>
      have accepted : row.acceptedWithReason = true := by simpa [Settled, verified] using settled
      simp [rowDisposition, verified, accepted]
  unfold itemFromFinding
  cases input.aliasFor row.id with
  | some found => rfl
  | none =>
    cases input.falsifiedFor row.id with
    | some found => rfl
    | none =>
      cases input.scopedFor row.id with
      | some found =>
        cases blocking : found.blocking with
        | true => simp [pending, blocking]
        | false => simp [pending, blocking]
      | none => simp [pending, own]

theorem pending_added : (addedItem input prior row).pending = false := by
  cases found : latestOf prior row.id with
  | none =>
    simp only [addedItem, found, AdjudicationInput.itemOf]
    exact pending_settled settled _ _
  | some latest =>
    have plain := pending_settled settled (nextVersionOf prior row.id) .evidence_conflict
    simp only [addedItem, found]
    exact plain

theorem pending_refreshed : (refreshedItem input row latest).pending = false :=
  pending_settled settled latest.assertion.assertionVersion latest.kind

end

def Reaches (prior : List AdjudicatedItem) (rows : List LedgerFinding) (place : Nat) : Prop :=
  ∃ row ∈ rows, ∃ latest, latestOf prior row.id = some latest ∧ latest.assertion.invariant = row.title ∧
    (priorByFinding prior).findIdx? (·.assertionId = latest.assertionId) = some place

theorem reaches_append : Reaches prior (done ++ [row]) place ↔
    Reaches prior done place ∨ Reaches prior [row] place := by
  simp only [Reaches, mem_append, or_and_right, exists_or]

/-- The items after some rows: those of the start that no row reached, and
evaluations that are not pending. -/
structure Covers (prior : List AdjudicatedItem) (done : List LedgerFinding)
    (items : List AdjudicatedItem) : Prop where
  ids : ∃ added, items.map (·.assertionId) = (priorByFinding prior).map (·.assertionId) ++ added
  stays : ∀ place item, (priorByFinding prior)[place]? = some item → ¬ Reaches prior done place →
    items[place]? = some item
  pending : ∀ (place : Nat) item, items[place]? = some item → item.pending = true →
    (priorByFinding prior)[place]? = some item ∧ ¬ Reaches prior done place

theorem findIdx_ids (items : List AdjudicatedItem) (id : JsString) :
    items.findIdx? (·.assertionId = id) = (items.map (·.assertionId)).findIdx? (· = id) := by
  rw [List.findIdx?_map]
  rfl

namespace Covers

theorem start : Covers prior [] (priorByFinding prior) := by
  refine ⟨⟨[], by rw [append_nil]⟩, fun _ _ found _ => found, ?_⟩
  intro place item found _
  refine ⟨found, ?_⟩
  intro reached
  obtain ⟨row, member, -⟩ := reached
  contradiction

section

variable (covers : Covers prior done items)

include covers

theorem findIdx (member : latest ∈ prior) :
    ∃ place, (priorByFinding prior).findIdx? (·.assertionId = latest.assertionId) = some place ∧
      items.findIdx? (·.assertionId = latest.assertionId) = some place := by
  have listed : latest ∈ priorByFinding prior := (priorByFinding_perm prior).mem_iff.mpr member
  cases found : (priorByFinding prior).findIdx? (·.assertionId = latest.assertionId) with
  | none =>
    rw [List.findIdx?_eq_none_iff] at found
    exact absurd rfl (of_decide_eq_false (found latest listed))
  | some place =>
    refine ⟨place, rfl, ?_⟩
    obtain ⟨added, ids⟩ := covers.ids
    rw [findIdx_ids] at found
    rw [findIdx_ids, ids, List.findIdx?_append, found]
    rfl

theorem adds (settled : Settled input.candidateSha row)
    (added : CouncilKit.Repair.adds prior row = true) :
    Covers prior (done ++ [row]) (items ++ [addedItem input prior row]) := by
  have aside : ∀ place, Reaches prior (done ++ [row]) place ↔ Reaches prior done place := by
    intro place
    rw [reaches_append, or_iff_left]
    intro reached
    obtain ⟨other, member, latest, found, same, -⟩ := reached
    rw [mem_singleton.mp member] at found same
    simp [CouncilKit.Repair.adds, found, same] at added
  refine ⟨?_, ?_, ?_⟩
  · obtain ⟨more, ids⟩ := covers.ids
    refine ⟨more ++ [(addedItem input prior row).assertionId], ?_⟩
    rw [map_append, ids, append_assoc, map_singleton]
  · intro place item found unreached
    have kept := covers.stays place item found (fun reached => unreached ((aside place).mpr reached))
    rw [List.getElem?_append_left (List.getElem?_eq_some_iff.mp kept).1]
    exact kept
  · intro place item found pending
    rw [List.getElem?_append] at found
    split at found
    · obtain ⟨old, unreached⟩ := covers.pending place item found pending
      exact ⟨old, fun reached => unreached ((aside place).mp reached)⟩
    · have last := mem_of_getElem? found
      rw [mem_singleton.mp last, pending_added settled] at pending
      contradiction

theorem refreshes (settled : Settled input.candidateSha row)
    (found : latestOf prior row.id = some latest) (same : latest.assertion.invariant = row.title) :
    Covers prior (done ++ [row])
      (replaceAssertion items latest.assertionId (refreshedItem input row latest)) := by
  obtain ⟨reached, where_, here⟩ := covers.findIdx (latestOf_mem found).1
  have replaced : replaceAssertion items latest.assertionId (refreshedItem input row latest) =
      items.set reached (refreshedItem input row latest) := by
    have index : items.findIdx? (·.assertion.assertionId = latest.assertionId) = some reached := here
    simp only [replaceAssertion, index]
  have mine : Reaches prior [row] reached :=
    ⟨row, mem_singleton_self row, latest, found, same, where_⟩
  have only : ∀ place, Reaches prior [row] place → place = reached := by
    intro place other
    obtain ⟨second, member, last, lastFound, -, index⟩ := other
    rw [mem_singleton.mp member, found] at lastFound
    rw [← Option.some.inj lastFound, where_] at index
    exact (Option.some.inj index).symm
  obtain ⟨bound, named, -⟩ := List.findIdx?_eq_some_iff_getElem.mp here
  rw [replaced]
  refine ⟨?_, ?_, ?_⟩
  · obtain ⟨more, ids⟩ := covers.ids
    refine ⟨more, ?_⟩
    have id : (refreshedItem input row latest).assertionId = (items[reached]).assertionId :=
      (of_decide_eq_true named).symm
    rw [map_set, id, ← map_set, set_getElem_self]
    exact ids
  · intro place item old unreached
    have apart : reached ≠ place := by
      intro equal
      subst equal
      exact unreached (reaches_append.mpr (.inr mine))
    rw [List.getElem?_set_ne apart]
    exact covers.stays place item old fun earlier => unreached (reaches_append.mpr (.inl earlier))
  · intro place item there pending
    by_cases equal : reached = place
    · subst equal
      rw [List.getElem?_set_self bound] at there
      rw [← Option.some.inj there, pending_refreshed settled] at pending
      contradiction
    · rw [List.getElem?_set_ne equal] at there
      obtain ⟨old, unreached⟩ := covers.pending place item there pending
      refine ⟨old, fun again => ?_⟩
      rcases reaches_append.mp again with earlier | now
      · exact unreached earlier
      · exact equal (only place now).symm

end

theorem loop (covers : Covers prior done state.items)
    (settled : ∀ row ∈ rows, Settled input.candidateSha row) :
    Covers prior (done ++ rows) (rows.foldl (ingestRow input prior) state).items := by
  induction rows generalizing done state with
  | nil =>
    rw [append_nil]
    exact covers
  | cons row rest ih =>
    have here := settled row mem_cons_self
    have later : Covers prior (done ++ [row]) (ingestRow input prior state row).items := by
      cases added : CouncilKit.Repair.adds prior row with
      | true =>
        rw [(ingestRow_adds input state added).1]
        exact covers.adds here added
      | false =>
        obtain ⟨latest, found, same, items, -⟩ :=
          ingestRow_refreshes input state added
        rw [items]
        exact covers.refreshes here found same
    have final := ih later fun other member => settled other (mem_cons_of_mem _ member)
    rw [append_assoc] at final
    exact final

end Covers

/-- Every assertion is named after its finding, and every raw id has an item. -/
structure Sourced (before : Option AdjudicationProjection) : Prop where
  named : ∀ item ∈ itemsOf before, item.assertion.Named
  raw : ∀ id ∈ before.elim [] (·.rawFindingIds), id ∈ (itemsOf before).map (·.sourceId)

section

variable (named : ∀ item ∈ items, item.assertion.Named) (latestNamed : latest.assertion.Named)

include named latestNamed

theorem sources_replace :
    (replaceAssertion items latest.assertionId (refreshedItem input row latest)).map (·.sourceId) =
      items.map (·.sourceId) := by
  unfold replaceAssertion
  cases index : items.findIdx? (·.assertion.assertionId = latest.assertionId) with
  | none => rfl
  | some place =>
    obtain ⟨bound, same, -⟩ := List.findIdx?_eq_some_iff_getElem.mp index
    have here : (items[place]).assertion.Named := named _ (getElem_mem bound)
    have ids : (items[place]).assertion.assertionId = latest.assertion.assertionId :=
      of_decide_eq_true same
    rw [here, latestNamed] at ids
    have source : (refreshedItem input row latest).sourceId = (items[place]).sourceId :=
      (assertionIdFor_injective ids).1.symm
    rw [map_set, source, ← map_set, set_getElem_self]

theorem named_replace :
    ∀ item ∈ replaceAssertion items latest.assertionId (refreshedItem input row latest),
      item.assertion.Named := by
  intro item member
  unfold replaceAssertion at member
  split at member
  · rcases mem_or_eq_of_mem_set member with old | new
    · exact named item old
    · rw [new]
      exact latestNamed
  · exact named item member

end

def Held (state : Ingestion) (id : JsString) : Prop :=
  id ∈ state.mapped ∧ id ∈ state.items.map (·.sourceId)

structure Sources (prior : List AdjudicatedItem) (state : Ingestion) : Prop where
  named : ∀ item ∈ state.items, item.assertion.Named
  held : ∀ item ∈ prior, Held state item.sourceId

theorem Sources.turn (sources : Sources prior state) (namedPrior : ∀ item ∈ prior, item.assertion.Named)
    (input : AdjudicationInput) (row : LedgerFinding) :
    Sources prior (ingestRow input prior state row) ∧ Held (ingestRow input prior state row) row.id ∧
      ∀ id, Held state id → Held (ingestRow input prior state row) id := by
  cases added : adds prior row with
  | true =>
    obtain ⟨items, mapped⟩ := ingestRow_adds input state added
    have source : (addedItem input prior row).sourceId = row.id := by
      rw [sourceId, addedItem_assertion]
      rfl
    have grows : ∀ id, Held state id → Held (ingestRow input prior state row) id := by
      intro id held
      rw [Held, mapped, items, map_append]
      exact ⟨mem_append_left _ held.1, mem_append_left _ held.2⟩
    refine ⟨⟨?_, fun item member => grows _ (sources.held item member)⟩, ?_, grows⟩
    · intro item member
      rw [items] at member
      rcases mem_append.mp member with old | new
      · exact sources.named item old
      · rw [mem_singleton.mp new, addedItem_assertion]
        exact newAssertion_named input prior row
    · rw [Held, mapped, items, map_append, map_singleton, source]
      exact ⟨mem_append_right _ (mem_singleton_self _),
        mem_append_right _ (mem_singleton_self _)⟩
  | false =>
    obtain ⟨latest, found, -, items, mapped⟩ :=
      ingestRow_refreshes input state added
    obtain ⟨member, source⟩ := latestOf_mem found
    have latestNamed := namedPrior latest member
    have grows : ∀ id, Held state id → Held (ingestRow input prior state row) id := by
      intro id held
      rw [Held, mapped, items, sources_replace sources.named latestNamed]
      exact held
    refine ⟨⟨?_, fun item member => grows _ (sources.held item member)⟩, ?_, grows⟩
    · rw [items]
      exact named_replace sources.named latestNamed
    · rw [← source]
      exact grows _ (sources.held latest member)

theorem Sources.loop (sources : Sources prior state)
    (namedPrior : ∀ item ∈ prior, item.assertion.Named) (input : AdjudicationInput)
    (rows : List LedgerFinding) :
    Sources prior (rows.foldl (ingestRow input prior) state) ∧
      (∀ id, Held state id → Held (rows.foldl (ingestRow input prior) state) id) ∧
      ∀ row ∈ rows, Held (rows.foldl (ingestRow input prior) state) row.id := by
  induction rows generalizing state with
  | nil => exact ⟨sources, fun _ held => held, fun _ member => nomatch member⟩
  | cons row rest ih =>
    obtain ⟨next, here, grows⟩ := sources.turn namedPrior input row
    obtain ⟨final, keeps, others⟩ := ih next
    refine ⟨final, fun id held => keeps id (grows id held), ?_⟩
    intro other member
    rcases mem_cons.mp member with first | later
    · rw [first]
      exact keeps row.id here
    · exact others other later

theorem Sourced.ingest (sourced : Sourced before) (input : AdjudicationInput) :
    Sourced (some (ingestAdjudication before input)) ∧
      (ingestAdjudication before input).uncoveredSourceIds = [] := by
  have grouped := priorByFinding_perm (itemsOf before)
  have start : Sources (itemsOf before) ⟨priorByFinding (itemsOf before),
      (priorByFinding (itemsOf before)).map (·.sourceId),
      (priorByFinding (itemsOf before)).map (·.rootCauseId)⟩ := by
    refine ⟨fun item member => sourced.named item (grouped.mem_iff.mp member), ?_⟩
    intro item member
    have listed : item.sourceId ∈ (priorByFinding (itemsOf before)).map (·.sourceId) :=
      mem_map_of_mem (grouped.mem_iff.mpr member)
    exact ⟨listed, listed⟩
  obtain ⟨final, keeps, rows⟩ := start.loop sourced.named input input.findings
  have held : ∀ id ∈ (ingestAdjudication before input).rawFindingIds,
      Held (input.findings.foldl (ingestRow input (itemsOf before))
        ⟨priorByFinding (itemsOf before), (priorByFinding (itemsOf before)).map (·.sourceId),
          (priorByFinding (itemsOf before)).map (·.rootCauseId)⟩) id := by
    intro id member
    rcases mem_append.mp (mem_unique.mp member) with old | new
    · obtain ⟨item, listed, rfl⟩ := mem_map.mp (sourced.raw id old)
      exact keeps _ (start.held item listed)
    · obtain ⟨row, listed, rfl⟩ := mem_map.mp new
      exact rows row listed
  refine ⟨⟨final.named, fun id member => (held id member).2⟩, ?_⟩
  refine filter_eq_nil_iff.mpr fun id member => ?_
  have mapped : (input.findings.foldl (ingestRow input (itemsOf before)) _).mapped.contains id = true :=
    contains_iff_mem.mpr (held id member).1
  exact (Bool.not_eq_true _).mpr (congrArg (!·) mapped)

theorem sourced_ingestAll (inputs : List AdjudicationInput) : Sourced (ingestAll inputs) := by
  have base : Sourced none := by
    refine ⟨?_, ?_⟩
    · intro item member
      contradiction
    · intro id member
      contradiction
  have all : ∀ before, Sourced before →
      Sourced (inputs.foldl (fun prior input => some (ingestAdjudication prior input)) before) := by
    induction inputs with
    | nil => exact fun _ sourced => sourced
    | cons input rest ih => exact fun before sourced => ih _ (sourced.ingest input).1
  exact all none base

variable {projection : AdjudicationProjection}

theorem idsWith_nil {disposition : AcceptanceDisposition} :
    projection.idsWith disposition = [] ↔ ∀ item ∈ projection.items, item.disposition ≠ disposition := by
  simp [AdjudicationProjection.idsWith, filter_eq_nil_iff]

theorem view_clear (covered : projection.uncoveredSourceIds = []) :
    ((gateAcceptanceView projection).openIds = [] ∧ (gateAcceptanceView projection).coverageGaps = []) ↔
      ∀ item ∈ projection.items, item.pending = false := by
  simp only [gateAcceptanceView, covered, append_nil, idsWith_nil, pending,
    Bool.or_eq_false_iff, decide_eq_false_iff_not]
  constructor
  · intro clear item member
    exact ⟨clear.1 item member, clear.2 item member⟩
  · intro clear
    exact ⟨fun item member => (clear item member).1, fun item member => (clear item member).2⟩

/-- After a ledger that is settled throughout, the view is clear when the
ingestion reached every item that was pending. -/
theorem gate_clear_iff (inputs : List AdjudicationInput) (last : AdjudicationInput)
    (settled : ∀ row ∈ last.findings, Settled last.candidateSha row) :
    ((gateAcceptanceView (ingestAdjudication (ingestAll inputs) last)).openIds = [] ∧
      (gateAcceptanceView (ingestAdjudication (ingestAll inputs) last)).coverageGaps = []) ↔
    ∀ place item, (priorByFinding (itemsOf (ingestAll inputs)))[place]? = some item →
      item.pending = true → Reaches (itemsOf (ingestAll inputs)) last.findings place := by
  rw [view_clear ((sourced_ingestAll inputs).ingest last).2]
  have covers : Covers (itemsOf (ingestAll inputs)) last.findings
      (ingestAdjudication (ingestAll inputs) last).items := by
    have start : Covers (itemsOf (ingestAll inputs)) []
        (Ingestion.mk (priorByFinding (itemsOf (ingestAll inputs)))
          ((priorByFinding (itemsOf (ingestAll inputs))).map (·.sourceId))
          ((priorByFinding (itemsOf (ingestAll inputs))).map (·.rootCauseId))).items := Covers.start
    exact start.loop settled
  constructor
  · intro clear place item found pending
    by_contra unreached
    have kept := covers.stays place item found unreached
    rw [clear item (mem_of_getElem? kept)] at pending
    contradiction
  · intro reached item member
    cases pending : item.pending with
    | false => rfl
    | true =>
      obtain ⟨place, found⟩ := mem_iff_getElem?.mp member
      obtain ⟨old, unreached⟩ := covers.pending place item found pending
      exact absurd (reached place item old pending) unreached

def acceptedFinding (id title : JsString) : LedgerFinding :=
  { sampleFinding id title with status := .accepted, acceptedReason := some (js "kept as it is") }

theorem settled_sample (id title : JsString) : Settled (js "c") (acceptedFinding id title) :=
  .inr rfl

/-- The finding that was open is accepted under its old title. -/
theorem gate_clear_accepted : (gateAcceptanceView (ingestAdjudication
    (ingestAll [sampleIngestion [sampleFinding (js "F") (js "old")]])
    (sampleIngestion [acceptedFinding (js "F") (js "old")]))).openIds = [] := by
  have settled : ∀ row ∈ (sampleIngestion [acceptedFinding (js "F") (js "old")]).findings,
      Settled (js "c") row := by
    intro row member
    rw [mem_singleton.mp member]
    exact settled_sample (js "F") (js "old")
  have one : (priorByFinding (itemsOf (ingestAll
      [sampleIngestion [sampleFinding (js "F") (js "old")]]))).length = 1 := by decide +kernel
  refine ((gate_clear_iff _ _ settled).mpr ?_).1
  intro place item found _
  have bound := (List.getElem?_eq_some_iff.mp found).1
  rw [one] at bound
  have first : place = 0 := by omega
  subst first
  exact ⟨_, mem_singleton_self _, _, rfl, rfl, rfl⟩

/-- The version before the new title stays open when the finding is accepted. -/
theorem superseded_stays_open : ¬ ∀ (inputs : List AdjudicationInput) (last : AdjudicationInput),
    (∀ row ∈ last.findings, Settled last.candidateSha row) →
      (gateAcceptanceView (ingestAdjudication (ingestAll inputs) last)).openIds = [] := by
  intro claimed
  have clear := claimed [sampleIngestion [sampleFinding (js "F") (js "old")]]
    (sampleIngestion [acceptedFinding (js "F") (js "new")]) (by
      intro row member
      rw [mem_singleton.mp member]
      exact settled_sample (js "F") (js "new"))
  revert clear
  decide +kernel

end CouncilKit.Repair
