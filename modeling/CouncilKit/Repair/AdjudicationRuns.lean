import CouncilKit.Data.Decimal
import CouncilKit.Data.Grouping
import CouncilKit.Data.Transition
import CouncilKit.Repair.Adjudication

namespace CouncilKit.Repair

open Data Review List

/-- The arguments of `appendCounterExample`. -/
structure CounterExample where
  fromAssertionId : JsString
  newFindingId : JsString
  evidence : JsString
  invariant : JsString

/-- The item of a counter-example to an item; its version counts on from there. -/
def counterItem (projection : AdjudicationProjection) (input : CounterExample)
    (prior : AdjudicatedItem) : AdjudicatedItem :=
  let nextVersion := prior.assertion.assertionVersion + 1
  { assertion := {
      assertionId := assertionIdFor input.newFindingId nextVersion
      assertionVersion := nextVersion
      sourceFindingId := input.newFindingId
      candidateSha := some projection.candidateSha
      invariant := input.invariant
      trigger := input.evidence
      expectedTerminal := js "defect absent on candidate"
      evidenceRef := input.evidence }
    kind := .evidence_conflict
    disposition := .still_open
    rootCauseId := prior.rootCauseId
    aliasOf := none
    requiredResponsibility := true
    blocking := true
    relatedAssertionIds := [prior.assertion.assertionId]
    evidence := input.evidence }

def appendCounterExample (projection : AdjudicationProjection) (input : CounterExample) :
    AdjudicationProjection :=
  match projection.items.find? (·.assertion.assertionId = input.fromAssertionId) with
  | none => projection
  | some prior =>
    { projection with
      version := projection.version + 1
      items := projection.items ++ [counterItem projection input prior]
      rawFindingIds := unique (projection.rawFindingIds ++ [input.newFindingId]) }

inductive AdjudicationAction where
  | ingest (input : AdjudicationInput)
  | append (input : CounterExample)

def adjudicate (prior : Option AdjudicationProjection) :
    AdjudicationAction → Option (Option AdjudicationProjection)
  | .ingest input => some (some (ingestAdjudication prior input))
  | .append input => prior.map fun projection => some (appendCounterExample projection input)

def AdjudicatedItem.assertionId (item : AdjudicatedItem) : JsString := item.assertion.assertionId

def latestOf (prior : List AdjudicatedItem) (id : JsString) : Option AdjudicatedItem :=
  (prior.filter (·.sourceId = id)).getLast?

def nextVersionOf (prior : List AdjudicatedItem) (id : JsString) : Nat :=
  ((prior.filter (·.sourceId = id)).map (·.assertion.assertionVersion)).foldl max 0 + 1

/-- A row that is new, or says something else than the last item of its finding. -/
def adds (prior : List AdjudicatedItem) (row : LedgerFinding) : Bool :=
  (latestOf prior row.id).all (·.assertion.invariant ≠ row.title)

variable (input : AdjudicationInput)

def assertionOf (row : LedgerFinding) (version : Nat) : ImmutableAssertion where
  assertionId := assertionIdFor row.id version
  assertionVersion := version
  sourceFindingId := row.id
  candidateSha := some input.candidateSha
  invariant := row.title
  trigger := (assertionMeaning row).trigger
  expectedTerminal := js "defect absent on candidate"
  evidenceRef := evidenceOf row

def newAssertion (prior : List AdjudicatedItem) (row : LedgerFinding) :
    ImmutableAssertion := assertionOf input row (nextVersionOf prior row.id)

def addedItem (prior : List AdjudicatedItem) (row : LedgerFinding) :
    AdjudicatedItem :=
  match latestOf prior row.id with
  | none => input.itemOf row
  | some latest => { itemFromFinding input row (nextVersionOf prior row.id) .evidence_conflict with
      relatedAssertionIds := [latest.assertionId] }

def refreshedItem (row : LedgerFinding) (latest : AdjudicatedItem) :
    AdjudicatedItem :=
  { itemFromFinding input row latest.assertion.assertionVersion latest.kind with
    assertion := latest.assertion }

variable {input : AdjudicationInput} {prior items : List AdjudicatedItem} {state : Ingestion}
  {row : LedgerFinding} {latest item refreshed : AdjudicatedItem}

theorem itemFromFinding_assertion (input : AdjudicationInput) (row : LedgerFinding) (version : Nat)
    (kind : AdjudicationKind) :
    (itemFromFinding input row version kind).assertion = assertionOf input row version := by
  simp only [itemFromFinding, assertionOf]
  split
  · rfl
  · split
    · rfl
    · split
      · rfl
      · rfl

theorem nextVersionOf_none (absent : latestOf prior row.id = none) : nextVersionOf prior row.id = 1 := by
  rw [latestOf, List.getLast?_eq_none_iff] at absent
  simp [nextVersionOf, absent]

theorem addedItem_assertion (input : AdjudicationInput) (prior : List AdjudicatedItem)
    (row : LedgerFinding) : (addedItem input prior row).assertion = newAssertion input prior row := by
  cases found : latestOf prior row.id with
  | none =>
    simp only [addedItem, found, newAssertion, nextVersionOf_none found, AdjudicationInput.itemOf,
      itemFromFinding_assertion]
  | some latest => simp only [addedItem, found, newAssertion, itemFromFinding_assertion]

theorem ingestRow_known (found : latestOf prior row.id = some latest) :
    ingestRow input prior state row =
      if latest.assertion.invariant ≠ row.title then
        { items := state.items ++ [addedItem input prior row]
          mapped := state.mapped ++ [row.id]
          rootCauses := state.rootCauses ++ [(addedItem input prior row).rootCauseId] }
      else { state with
        items := replaceAssertion state.items latest.assertionId (refreshedItem input row latest) } := by
  simp only [addedItem, found]
  rw [latestOf] at found
  unfold ingestRow
  extract_lets priorItems
  rw [show priorItems.getLast? = some latest from found]
  rfl

theorem ingestRow_adds (input : AdjudicationInput) (state : Ingestion) (added : adds prior row = true) :
    (ingestRow input prior state row).items = state.items ++ [addedItem input prior row] ∧
      (ingestRow input prior state row).mapped = state.mapped ++ [row.id] := by
  cases found : latestOf prior row.id with
  | none =>
    rw [latestOf] at found
    simp only [ingestRow, found, addedItem, latestOf, AdjudicationInput.itemOf, and_self]
  | some latest =>
    have reworded : latest.assertion.invariant ≠ row.title := by simpa [adds, found] using added
    rw [ingestRow_known found, if_pos reworded]
    exact ⟨rfl, rfl⟩

theorem ingestRow_refreshes (input : AdjudicationInput) (state : Ingestion)
    (added : adds prior row = false) :
    ∃ latest, latestOf prior row.id = some latest ∧ latest.assertion.invariant = row.title ∧
      (ingestRow input prior state row).items =
        replaceAssertion state.items latest.assertionId (refreshedItem input row latest) ∧
      (ingestRow input prior state row).mapped = state.mapped := by
  cases found : latestOf prior row.id with
  | none => simp [adds, found] at added
  | some latest =>
    have same : latest.assertion.invariant = row.title := by simpa [adds, found] using added
    rw [ingestRow_known found, if_neg (not_not.mpr same)]
    exact ⟨latest, rfl, same, rfl, rfl⟩

theorem assertionIdFor_injective {first second : JsString} {left right : Nat}
    (same : assertionIdFor first left = assertionIdFor second right) :
    first = second ∧ left = right := by
  have mark : Regex.isDigit 0x76 = false := by decide
  have spelled (id : JsString) (version : Nat) : assertionIdFor id version =
      (js "A-" ++ id ++ js "-") ++ 0x76 :: JsString.ofNat version := by
    have dash : js "-v" = js "-" ++ [0x76] := by decide
    rw [assertionIdFor, dash]
    simp only [append_assoc, cons_append, nil_append]
  rw [spelled, spelled] at same
  obtain ⟨ids, versions⟩ := JsString.append_ofNat_inj mark mark same
  exact ⟨append_cancel_left (append_cancel_right ids), versions⟩

def ImmutableAssertion.Named (assertion : ImmutableAssertion) : Prop :=
  assertion.assertionId = assertionIdFor assertion.sourceFindingId assertion.assertionVersion

def assertions (items : List AdjudicatedItem) : List ImmutableAssertion := items.map (·.assertion)

structure Frozen (items : List AdjudicatedItem) : Prop where
  named : ∀ assertion ∈ assertions items, assertion.Named
  distinct : ((assertions items).map (·.assertionId)).Nodup

theorem newAssertion_named (input : AdjudicationInput) (prior : List AdjudicatedItem)
    (row : LedgerFinding) : (newAssertion input prior row).Named := rfl

theorem start_le_foldl_max (values : List Nat) (start : Nat) : start ≤ values.foldl max start := by
  induction values generalizing start with
  | nil => exact Nat.le_refl start
  | cons head rest ih => exact Nat.le_trans (Nat.le_max_left start head) (ih (max start head))

theorem le_foldl_max {values : List Nat} {value : Nat} (start : Nat) (member : value ∈ values) :
    value ≤ values.foldl max start := by
  induction values generalizing start with
  | nil => contradiction
  | cons head rest ih =>
    rcases mem_cons.mp member with here | later
    · rw [here]
      exact Nat.le_trans (Nat.le_max_right start head) (start_le_foldl_max rest (max start head))
    · exact ih (max start head) later

theorem version_lt_next (member : item ∈ prior) (source : item.sourceId = row.id) :
    item.assertion.assertionVersion < nextVersionOf prior row.id := by
  refine Nat.lt_succ_of_le (le_foldl_max 0 ?_)
  exact mem_map_of_mem (mem_filter.mpr ⟨member, decide_eq_true source⟩)

theorem newAssertion_fresh (frozen : Frozen prior) {old : ImmutableAssertion}
    (member : old ∈ assertions prior) :
    old.assertionId ≠ (newAssertion input prior row).assertionId := by
  intro same
  have named : old.Named := frozen.named old member
  rw [named] at same
  obtain ⟨source, version⟩ := assertionIdFor_injective same
  obtain ⟨item, listed, rfl⟩ := mem_map.mp member
  have bound := version_lt_next listed source
  have next : item.assertion.assertionVersion = nextVersionOf prior row.id := version
  omega

def Agrees (prior items : List AdjudicatedItem) : Prop :=
  ∀ assertion ∈ assertions items, ∀ old ∈ assertions prior,
    assertion.assertionId = old.assertionId → assertion = old

theorem agrees_self (frozen : Frozen prior) : Agrees prior prior := by
  intro assertion member old oldMember same
  exact inj_on_of_nodup_map frozen.distinct member oldMember same

theorem latestOf_mem (found : latestOf prior row.id = some latest) :
    latest ∈ prior ∧ latest.sourceId = row.id := by
  have member := mem_of_getLast? found
  obtain ⟨listed, source⟩ := mem_filter.mp member
  exact ⟨listed, of_decide_eq_true source⟩

theorem assertions_replace (agrees : Agrees prior items) (found : latest ∈ prior)
    (same : refreshed.assertion = latest.assertion) :
    assertions (replaceAssertion items latest.assertionId refreshed) = assertions items := by
  unfold replaceAssertion
  cases index : items.findIdx? (·.assertion.assertionId = latest.assertionId) with
  | none => rfl
  | some place =>
    obtain ⟨bound, named, -⟩ := List.findIdx?_eq_some_iff_getElem.mp index
    have listed : (items[place]).assertion ∈ assertions items :=
      mem_map_of_mem (getElem_mem bound)
    have old : (items[place]).assertion = latest.assertion :=
      agrees _ listed _ (mem_map_of_mem found) (of_decide_eq_true named)
    simp only [assertions, map_set, same, ← old]
    rw [← map_set, set_getElem_self]

theorem assertions_rows (frozen : Frozen prior) (rows : List LedgerFinding)
    (agrees : Agrees prior state.items) :
    assertions (rows.foldl (ingestRow input prior) state).items =
      assertions state.items ++ (rows.filter (adds prior)).map (newAssertion input prior) := by
  induction rows generalizing state with
  | nil => simp
  | cons row rest ih =>
    rw [foldl_cons]
    cases added : adds prior row with
    | true =>
      have items := (ingestRow_adds input state added).1
      have here : assertions (ingestRow input prior state row).items =
          assertions state.items ++ [newAssertion input prior row] := by
        rw [items, assertions, map_append, map_singleton, addedItem_assertion]
        rfl
      rw [ih, here, filter_cons_of_pos added, map_cons, append_assoc]
      · rfl
      · intro assertion member old oldMember same
        rw [here] at member
        rcases mem_append.mp member with known | new
        · exact agrees assertion known old oldMember same
        · rw [mem_singleton.mp new] at same
          exact absurd same.symm (newAssertion_fresh frozen oldMember)
    | false =>
      obtain ⟨latest, found, -, items, -⟩ :=
        ingestRow_refreshes input state added
      have here : assertions (ingestRow input prior state row).items =
          assertions state.items := by
        rw [items]
        exact assertions_replace agrees (latestOf_mem found).1 rfl
      rw [ih, here, filter_cons_of_neg (by simp [added])]
      rw [Agrees, here]
      exact agrees

theorem mem_replace (member : item ∈ items) (apart : item.assertionId ≠ latest.assertionId) :
    item ∈ replaceAssertion items latest.assertionId refreshed := by
  unfold replaceAssertion
  cases index : items.findIdx? (·.assertion.assertionId = latest.assertionId) with
  | none => exact member
  | some place =>
    obtain ⟨bound, named, -⟩ := List.findIdx?_eq_some_iff_getElem.mp index
    obtain ⟨other, inside, rfl⟩ := mem_iff_getElem.mp member
    have different : place ≠ other := by
      intro same
      subst same
      exact apart (of_decide_eq_true named)
    refine mem_iff_getElem.mpr ⟨other, by simpa using inside, ?_⟩
    exact getElem_set_ne different _

theorem mem_rows (rows : List LedgerFinding) (member : item ∈ state.items)
    (fresh : ∀ old ∈ prior, item.assertionId ≠ old.assertionId) :
    item ∈ (rows.foldl (ingestRow input prior) state).items := by
  induction rows generalizing state with
  | nil => exact member
  | cons row rest ih =>
    apply ih
    cases added : adds prior row with
    | true =>
      rw [(ingestRow_adds input state added).1]
      exact mem_append_left _ member
    | false =>
      obtain ⟨latest, found, -, items, -⟩ :=
        ingestRow_refreshes input state added
      rw [items]
      exact mem_replace member (fresh latest (latestOf_mem found).1)

theorem addedItem_mem (frozen : Frozen prior) (rows : List LedgerFinding) (listed : row ∈ rows)
    (added : adds prior row = true) :
    addedItem input prior row ∈ (rows.foldl (ingestRow input prior) state).items := by
  induction rows generalizing state with
  | nil => contradiction
  | cons head rest ih =>
    rw [foldl_cons]
    rcases mem_cons.mp listed with here | later
    · subst here
      apply mem_rows
      · rw [(ingestRow_adds input state added).1]
        exact mem_append_right _ (mem_singleton_self _)
      · intro old member same
        rw [AdjudicatedItem.assertionId, addedItem_assertion] at same
        exact newAssertion_fresh frozen (mem_map_of_mem member) same.symm
    · exact ih later

def itemsOf (projection : Option AdjudicationProjection) : List AdjudicatedItem :=
  projection.elim [] (·.items)

variable {before after start final : Option AdjudicationProjection} {action : AdjudicationAction}

theorem priorByFinding_perm (items : List AdjudicatedItem) : (priorByFinding items).Perm items :=
  grouped_perm AdjudicatedItem.sourceId items

theorem assertions_ingest (frozen : Frozen (itemsOf before)) (input : AdjudicationInput) :
    assertions (ingestAdjudication before input).items =
      assertions (priorByFinding (itemsOf before)) ++
        (input.findings.filter (adds (itemsOf before))).map (newAssertion input (itemsOf before)) := by
  have grouped := priorByFinding_perm (itemsOf before)
  have agrees : Agrees (itemsOf before) (priorByFinding (itemsOf before)) := by
    intro assertion member old oldMember same
    exact agrees_self frozen assertion ((grouped.map _).mem_iff.mp member) old oldMember same
  exact assertions_rows frozen input.findings agrees

theorem frozen_ingest_iff (frozen : Frozen (itemsOf before)) (input : AdjudicationInput) :
    Frozen (ingestAdjudication before input).items ↔
      ((input.findings.filter (adds (itemsOf before))).map (·.id)).Nodup := by
  have grouped := priorByFinding_perm (itemsOf before)
  have kept := (grouped.map (·.assertion)).map (·.assertionId)
  have ids : ((input.findings.filter (adds (itemsOf before))).map
      (newAssertion input (itemsOf before))).map (·.assertionId) =
      ((input.findings.filter (adds (itemsOf before))).map (·.id)).map
        fun id => assertionIdFor id (nextVersionOf (itemsOf before) id) := by
    rw [map_map, map_map]
    rfl
  have injective : Function.Injective fun id => assertionIdFor id (nextVersionOf (itemsOf before) id) :=
    fun first second same => (assertionIdFor_injective same).1
  constructor
  · intro whole
    have distinct := whole.distinct
    rw [assertions_ingest frozen, map_append, nodup_append, ids] at distinct
    exact (nodup_map_iff injective).mp distinct.2.1
  · intro distinct
    refine ⟨?_, ?_⟩
    · intro assertion member
      rw [assertions_ingest frozen] at member
      rcases mem_append.mp member with old | new
      · exact frozen.named assertion ((grouped.map _).mem_iff.mp old)
      · obtain ⟨row, -, rfl⟩ := mem_map.mp new
        exact newAssertion_named input (itemsOf before) row
    · rw [assertions_ingest frozen, map_append, nodup_append]
      refine ⟨kept.nodup_iff.mpr frozen.distinct, ?_, ?_⟩
      · rw [ids]
        exact (nodup_map_iff injective).mpr distinct
      · intro id member other new same
        obtain ⟨old, oldMember, rfl⟩ := mem_map.mp (kept.mem_iff.mp member)
        obtain ⟨assertion, listed, rfl⟩ := mem_map.mp new
        obtain ⟨row, -, rfl⟩ := mem_map.mp listed
        exact newAssertion_fresh frozen oldMember same

theorem assertions_append (projection : AdjudicationProjection) {counter : CounterExample}
    (found : projection.items.find? (·.assertion.assertionId = counter.fromAssertionId) = some item) :
    assertions (appendCounterExample projection counter).items =
      assertions projection.items ++ [(counterItem projection counter item).assertion] := by
  simp only [appendCounterExample, found, assertions, map_append, map_singleton]

theorem frozen_append_iff {projection : AdjudicationProjection} (frozen : Frozen projection.items)
    (counter : CounterExample) :
    Frozen (appendCounterExample projection counter).items ↔
      ∀ item, projection.items.find? (·.assertion.assertionId = counter.fromAssertionId) = some item →
        assertionIdFor counter.newFindingId (item.assertion.assertionVersion + 1) ∉
          (assertions projection.items).map (·.assertionId) := by
  cases found : projection.items.find? (·.assertion.assertionId = counter.fromAssertionId) with
  | none => simp [appendCounterExample, found, frozen]
  | some item =>
    have grown := assertions_append projection found
    have id : (counterItem projection counter item).assertion.assertionId =
        assertionIdFor counter.newFindingId (item.assertion.assertionVersion + 1) := rfl
    constructor
    · intro whole other same
      cases same
      have distinct := whole.distinct
      rw [grown, map_append, nodup_append] at distinct
      intro taken
      exact distinct.2.2 _ taken _ (mem_singleton_self _) id.symm
    · intro fresh
      refine ⟨?_, ?_⟩
      · intro assertion member
        rw [grown] at member
        rcases mem_append.mp member with old | new
        · exact frozen.named assertion old
        · rw [mem_singleton.mp new]
          rfl
      · rw [grown, map_append, nodup_append]
        refine ⟨frozen.distinct, nodup_singleton _, ?_⟩
        intro old member other new same
        rw [map_singleton, mem_singleton] at new
        subst new
        rw [same, id] at member
        exact fresh item rfl member

/-- The rows that add an item have ids of their own, and a counter-example gets a
version that its finding does not have. -/
def Apart (before : Option AdjudicationProjection) : AdjudicationAction → Prop
  | .ingest input => ((input.findings.filter (adds (itemsOf before))).map (·.id)).Nodup
  | .append counter => ∀ item,
      (itemsOf before).find? (·.assertion.assertionId = counter.fromAssertionId) = some item →
        assertionIdFor counter.newFindingId (item.assertion.assertionVersion + 1) ∉
          (assertions (itemsOf before)).map (·.assertionId)

/-- Assertions stay as they are, and the lists of ids only grow. -/
structure Keeps (before after : Option AdjudicationProjection) : Prop where
  assertions : ∀ assertion ∈ assertions (itemsOf before), assertion ∈ assertions (itemsOf after)
  rawFindingIds : ∀ id ∈ before.elim [] (·.rawFindingIds), id ∈ after.elim [] (·.rawFindingIds)
  rootCauseIds : ∀ id ∈ before.elim [] (·.rootCauseIds), id ∈ after.elim [] (·.rootCauseIds)

theorem Keeps.refl (before : Option AdjudicationProjection) : Keeps before before :=
  ⟨fun _ member => member, fun _ member => member, fun _ member => member⟩

theorem Keeps.trans {first second third : Option AdjudicationProjection} (earlier : Keeps first second)
    (later : Keeps second third) : Keeps first third :=
  ⟨fun assertion member => later.assertions assertion (earlier.assertions assertion member),
    fun id member => later.rawFindingIds id (earlier.rawFindingIds id member),
    fun id member => later.rootCauseIds id (earlier.rootCauseIds id member)⟩

theorem keeps_ingest (frozen : Frozen (itemsOf before)) (input : AdjudicationInput) :
    Keeps before (some (ingestAdjudication before input)) := by
  refine ⟨?_, ?_, ?_⟩
  · intro assertion member
    have grown := assertions_ingest frozen input
    simp only [itemsOf, Option.elim_some] at grown ⊢
    rw [grown]
    exact mem_append_left _ (((priorByFinding_perm _).map _).mem_iff.mpr member)
  · intro id member
    exact mem_unique.mpr (mem_append_left _ member)
  · intro id member
    exact mem_unique.mpr (mem_append_right _ member)

theorem keeps_append (projection : AdjudicationProjection) (counter : CounterExample) :
    Keeps (some projection) (some (appendCounterExample projection counter)) := by
  unfold appendCounterExample
  split
  · exact Keeps.refl _
  · refine ⟨?_, ?_, ?_⟩
    · intro assertion member
      simp only [itemsOf, Option.elim_some, assertions, map_append] at member ⊢
      exact mem_append_left _ member
    · intro id member
      exact mem_unique.mpr (mem_append_left _ member)
    · exact fun id member => member

theorem adjudicate_keeps (frozen : Frozen (itemsOf before)) (apart : Apart before action)
    (stepped : adjudicate before action = some after) :
    Frozen (itemsOf after) ∧ Keeps before after := by
  cases action with
  | ingest input =>
    cases stepped
    exact ⟨(frozen_ingest_iff frozen input).mpr apart, keeps_ingest frozen input⟩
  | append counter =>
    obtain ⟨projection, rfl, rfl⟩ := Option.map_eq_some_iff.mp stepped
    exact ⟨(frozen_append_iff frozen counter).mpr apart, keeps_append projection counter⟩

theorem frozen_none : Frozen (itemsOf none) := by
  refine ⟨?_, nodup_nil⟩
  intro assertion member
  contradiction

theorem ingest_rewords (frozen : Frozen (itemsOf before)) {input : AdjudicationInput}
    (listed : row ∈ input.findings) (found : latestOf (itemsOf before) row.id = some latest)
    (reworded : latest.assertion.invariant ≠ row.title) :
    ∃ item ∈ (ingestAdjudication before input).items, item.sourceId = row.id ∧
      item.assertion.invariant = row.title ∧ item.relatedAssertionIds = [latest.assertionId] ∧
      ∀ old ∈ itemsOf before, old.sourceId = row.id →
        old.assertion.assertionVersion < item.assertion.assertionVersion := by
  have added : adds (itemsOf before) row = true := by simpa [adds, found] using reworded
  refine ⟨addedItem input (itemsOf before) row, addedItem_mem frozen input.findings listed added,
    ?_, ?_, ?_, ?_⟩
  · rw [AdjudicatedItem.sourceId, addedItem_assertion]
    rfl
  · rw [addedItem_assertion]
    rfl
  · simp only [addedItem, found]
  · intro old member source
    rw [addedItem_assertion]
    exact version_lt_next member source

theorem history_frozen {actions : List AdjudicationAction} (run : Run adjudicate Apart start actions final)
    (frozen : Frozen (itemsOf start)) : Frozen (itemsOf final) := by
  induction run with
  | done => exact frozen
  | next apart stepped _ ih => exact ih (adjudicate_keeps frozen apart stepped).1

/-- Over any history that keeps ids apart: ids are unique, every assertion stays
as it was, and rewording adds a version to the last. -/
theorem history_keeps {actions more : List AdjudicationAction}
    (first : Run adjudicate Apart none actions start)
    (later : Run adjudicate Apart start more final) :
    ((assertions (itemsOf final)).map (·.assertionId)).Nodup ∧ Keeps start final ∧
      ∀ (input : AdjudicationInput), ∀ row ∈ input.findings, ∀ latest,
        latestOf (itemsOf final) row.id = some latest → latest.assertion.invariant ≠ row.title →
          Keeps final (some (ingestAdjudication final input)) ∧
          ∃ item ∈ (ingestAdjudication final input).items, item.sourceId = row.id ∧
            item.assertion.invariant = row.title ∧
            item.relatedAssertionIds = [latest.assertionId] ∧
            ∀ old ∈ itemsOf final, old.sourceId = row.id →
              old.assertion.assertionVersion < item.assertion.assertionVersion := by
  have frozenStart := history_frozen first frozen_none
  have frozen := history_frozen later frozenStart
  refine ⟨frozen.distinct, ?_, ?_⟩
  · exact later.relates Keeps.refl Keeps.trans adjudicate_keeps frozenStart
  · intro input row listed latest found reworded
    exact ⟨keeps_ingest frozen input, ingest_rewords frozen listed found reworded⟩

def sampleFinding (id title : JsString) : LedgerFinding where
  id
  severity := .minor
  status := .open
  title
  text := []
  source := .unique
  reviewer := none
  files := []

def sampleIngestion (findings : List LedgerFinding) : AdjudicationInput :=
  { sourceRunId := js "r", candidateSha := js "c", findings }

def ingestedOnce : Option AdjudicationProjection :=
  some (ingestAdjudication none (sampleIngestion [sampleFinding (js "F") (js "old")]))

def ingestedTwice : Option AdjudicationProjection :=
  some (ingestAdjudication ingestedOnce (sampleIngestion [sampleFinding (js "F") (js "new")]))

/-- A finding is reworded between two ingestions. -/
theorem history_keeps_reworded : Keeps ingestedOnce ingestedTwice ∧
    ((assertions (itemsOf ingestedTwice)).map (·.assertionId)) = [js "A-F-v1", js "A-F-v2"] := by
  have ids : (((sampleIngestion [sampleFinding (js "F") (js "old")]).findings.filter
        (adds (itemsOf none))).map (·.id)).Nodup ∧
      (((sampleIngestion [sampleFinding (js "F") (js "new")]).findings.filter
        (adds (itemsOf ingestedOnce))).map (·.id)).Nodup ∧
      ((assertions (itemsOf ingestedTwice)).map (·.assertionId)) = [js "A-F-v1", js "A-F-v2"] := by
    decide +kernel
  obtain ⟨old, new, versions⟩ := ids
  have first : Run adjudicate Apart none
      [.ingest (sampleIngestion [sampleFinding (js "F") (js "old")])] ingestedOnce :=
    .next old rfl (.done _)
  have later : Run adjudicate Apart ingestedOnce
      [.ingest (sampleIngestion [sampleFinding (js "F") (js "new")])] ingestedTwice :=
    .next new rfl (.done _)
  exact ⟨(history_keeps first later).2.1, versions⟩

def sampleCounter : AdjudicationAction :=
  .append ⟨js "A-E1-v1", js "E2", js "again", js "ready stays ready"⟩

/-- The second counter-example takes the id of the first. -/
theorem counter_examples_collide : ¬ ∀ (actions : List AdjudicationAction)
    (final : Option AdjudicationProjection), Run adjudicate anyStep none actions final →
      ((assertions (itemsOf final)).map (·.assertionId)).Nodup := by
  intro claimed
  have run : Run adjudicate anyStep none
      [.ingest (sampleIngestion [sampleFinding (js "E1") (js "ready")]), sampleCounter, sampleCounter] _ :=
    .next trivial rfl (.next trivial rfl (.next trivial rfl (.done _)))
  have distinct := claimed _ _ run
  revert distinct
  decide +kernel

end CouncilKit.Repair
