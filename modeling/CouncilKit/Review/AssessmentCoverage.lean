import CouncilKit.Data.Grouping
import CouncilKit.Review.Assessment

namespace CouncilKit.Review

open Data Repair List

def ValidRow (candidateSha output : JsString) (assessment : ReviewerAssessment) : Prop :=
  ∃ raw ∈ extractAssessmentBlocks output, ∃ rows, Json.parse raw = some (.array rows) ∧ rows.length ≤ 200 ∧
    ∃ row ∈ rows, reviewerAssessmentSchema (stripUnknownAssessmentKeys row) = .ok assessment ∧
      assessment.candidateSha = candidateSha ∧
      ¬ (assessment.outcome = .verified_closed ∧ assessment.method = .not_evaluated)

def ReviewerAssessment.decisive (assessment : ReviewerAssessment) : Prop :=
  assessment.outcome = .verified_closed ∨ assessment.outcome = .still_open

def DiagnosticsInput.Counts (input : DiagnosticsInput) (assessment : ReviewerAssessment) : Prop :=
  (∃ attempt ∈ input.attempts, attempt.counts = true ∧
    ValidRow input.candidateSha attempt.output assessment) ∨
  ∃ extra ∈ input.extraAssessments, extra.assessment = assessment

def DiagnosticsInput.Decides (input : DiagnosticsInput) (id : JsString)
    (assessment : ReviewerAssessment) : Prop :=
  input.Counts assessment ∧ assessment.findingId = id ∧ assessment.decisive

theorem decisive_iff {assessment : ReviewerAssessment} :
    assessment.decisive ↔ assessment.outcome ≠ .not_evaluated := by
  unfold ReviewerAssessment.decisive
  cases assessment.outcome with
  | verified_closed => simp
  | still_open => simp
  | not_evaluated => simp

variable {attemptId candidateSha output raw : JsString} {blockIndex index : Nat} {row : Json}
  {assessment : ReviewerAssessment}

theorem diagnoseRow_valid :
    (diagnoseRow attemptId candidateSha blockIndex index row).2 = some assessment ↔
      reviewerAssessmentSchema (stripUnknownAssessmentKeys row) = .ok assessment ∧
        assessment.candidateSha = candidateSha ∧
        ¬ (assessment.outcome = .verified_closed ∧ assessment.method = .not_evaluated) := by
  unfold diagnoseRow
  dsimp only
  cases parsed : reviewerAssessmentSchema (stripUnknownAssessmentKeys row) with
  | error first => simp
  | ok data =>
    dsimp only
    split
    · rename_i other
      constructor
      · intro given
        cases given
      · intro given
        obtain ⟨same, sha, -⟩ := given
        cases same
        exact absurd sha other
    split
    · rename_i unproved
      constructor
      · intro given
        cases given
      · intro given
        obtain ⟨same, -, proved⟩ := given
        cases same
        exact absurd unproved proved
    · rename_i sha proved
      constructor
      · intro given
        cases given
        exact ⟨rfl, not_not.mp sha, proved⟩
      · intro given
        cases given.1
        rfl

def AssessmentDiagnosticItem.OfRow (item : AssessmentDiagnosticItem) : Prop :=
  item.status ≠ .missing ∧ item.errorClass ≠ js "contradictory_outcome"

theorem diagnoseRow_item :
    (diagnoseRow attemptId candidateSha blockIndex index row).1.OfRow := by
  unfold diagnoseRow
  dsimp only
  split
  · refine ⟨nofun, ?_⟩
    split
    · exact (by decide : js "unknown_key" ≠ js "contradictory_outcome")
    · exact (by decide : js "schema" ≠ js "contradictory_outcome")
  split
  · exact ⟨nofun, (by decide : js "candidate_sha" ≠ js "contradictory_outcome")⟩
  split
  · exact ⟨nofun, (by decide : js "close_without_method" ≠ js "contradictory_outcome")⟩
  · exact ⟨nofun, (by decide : js "ok" ≠ js "contradictory_outcome")⟩

theorem diagnoseBlock_items :
    ∀ item ∈ (diagnoseBlock attemptId candidateSha raw blockIndex).items, item.OfRow := by
  intro item member
  unfold diagnoseBlock at member
  split at member
  · rw [mem_singleton.mp member]
    exact ⟨nofun, (by decide : js "json" ≠ js "contradictory_outcome")⟩
  · split at member
    · rw [mem_singleton.mp member]
      exact ⟨nofun, (by decide : js "schema" ≠ js "contradictory_outcome")⟩
    · obtain ⟨diagnosed, among, rfl⟩ := mem_map.mp member
      obtain ⟨entry, -, rfl⟩ := mem_map.mp among
      exact diagnoseRow_item
  · rw [mem_singleton.mp member]
    exact ⟨nofun, (by decide : js "schema" ≠ js "contradictory_outcome")⟩

theorem diagnoseBlock_valid :
    (∃ diagnosed ∈ (diagnoseBlock attemptId candidateSha raw blockIndex).valid,
      diagnosed.assessment = assessment) ↔
    ∃ rows, Json.parse raw = some (.array rows) ∧ rows.length ≤ 200 ∧
      ∃ row ∈ rows, reviewerAssessmentSchema (stripUnknownAssessmentKeys row) = .ok assessment ∧
        assessment.candidateSha = candidateSha ∧
        ¬ (assessment.outcome = .verified_closed ∧ assessment.method = .not_evaluated) := by
  unfold diagnoseBlock
  split
  · rename_i failed
    simp [failed]
  · rename_i rows parsed
    split
    · rename_i long
      simp [parsed, long]
    · rename_i short
      constructor
      · intro given
        obtain ⟨diagnosed, member, rfl⟩ := given
        obtain ⟨data, among, rfl⟩ := mem_map.mp member
        obtain ⟨result, diagnosedRow, valid⟩ := mem_filterMap.mp among
        obtain ⟨entry, listed, rfl⟩ := mem_map.mp diagnosedRow
        have inside : entry.1 ∈ rows := fst_mem_of_mem_zipIdx listed
        exact ⟨rows, parsed, Nat.not_lt.mp short, entry.1, inside, diagnoseRow_valid.mp valid⟩
      · intro given
        obtain ⟨found, same, -, row, member, accepted⟩ := given
        cases parsed.symm.trans same
        obtain ⟨index, bound, rfl⟩ := mem_iff_getElem.mp member
        refine ⟨⟨assessment, attemptId, []⟩, mem_map.mpr ⟨assessment, ?_, rfl⟩, rfl⟩
        apply mem_filterMap.mpr
        refine ⟨_, mem_map.mpr ⟨(rows[index], index), ?_, rfl⟩, diagnoseRow_valid.mpr accepted⟩
        exact mk_mem_zipIdx_iff_getElem?.mpr (List.getElem?_eq_getElem bound)
  · rename_i other notArray parsed
    constructor
    · intro given
      obtain ⟨diagnosed, member, -⟩ := given
      cases member
    · intro given
      obtain ⟨rows, same, -⟩ := given
      exact absurd (Option.some.inj (parsed.symm.trans same)) (notArray rows)

theorem diagnoseAttemptAssessments_valid :
    (∃ diagnosed ∈ (diagnoseAttemptAssessments attemptId output candidateSha).valid,
      diagnosed.assessment = assessment) ↔ ValidRow candidateSha output assessment := by
  constructor
  · intro given
    obtain ⟨diagnosed, member, same⟩ := given
    obtain ⟨block, among, inside⟩ := mem_flatMap.mp member
    obtain ⟨entry, listed, rfl⟩ := mem_map.mp among
    exact ⟨entry.1, fst_mem_of_mem_zipIdx listed,
      diagnoseBlock_valid.mp ⟨diagnosed, inside, same⟩⟩
  · intro given
    obtain ⟨raw, member, accepted⟩ := given
    obtain ⟨index, bound, rfl⟩ := mem_iff_getElem.mp member
    obtain ⟨diagnosed, inside, same⟩ := (@diagnoseBlock_valid attemptId candidateSha _ index
      assessment).mpr accepted
    refine ⟨diagnosed, mem_flatMap.mpr ⟨_, mem_map.mpr
      ⟨((extractAssessmentBlocks output)[index], index), ?_, rfl⟩, inside⟩, same⟩
    exact mk_mem_zipIdx_iff_getElem?.mpr (List.getElem?_eq_getElem bound)

theorem diagnoseAttemptAssessments_items :
    ∀ item ∈ (diagnoseAttemptAssessments attemptId output candidateSha).items, item.OfRow := by
  intro item member
  obtain ⟨block, among, inside⟩ := mem_flatMap.mp member
  obtain ⟨entry, -, rfl⟩ := mem_map.mp among
  exact diagnoseBlock_items item inside

variable {input : DiagnosticsInput} {id : JsString}

theorem diagnoseAttempt_items (attempt : AssessedAttempt) :
    ∀ item ∈ (diagnoseAttempt candidateSha attempt).items, item.OfRow := by
  intro item member
  unfold diagnoseAttempt at member
  split at member
  · exact diagnoseAttemptAssessments_items item member
  · cases member

theorem diagnoseAttempt_valid {attempt : AssessedAttempt} :
    (∃ diagnosed ∈ (diagnoseAttempt candidateSha attempt).valid, diagnosed.assessment = assessment) ↔
    attempt.counts = true ∧ ValidRow candidateSha attempt.output assessment := by
  unfold diagnoseAttempt
  split
  · rename_i counts
    have valid := @diagnoseAttemptAssessments_valid attempt.attemptId candidateSha attempt.output assessment
    rw [← valid]
    constructor
    · intro given
      obtain ⟨diagnosed, member, rfl⟩ := given
      obtain ⟨row, among, rfl⟩ := mem_map.mp member
      exact ⟨counts, row, among, rfl⟩
    · intro given
      obtain ⟨-, row, among, rfl⟩ := given
      exact ⟨_, mem_map_of_mem among, rfl⟩
  · rename_i skipped
    constructor
    · intro given
      obtain ⟨diagnosed, member, -⟩ := given
      cases member
    · intro given
      exact absurd given.1 skipped

theorem counts_iff :
    (∃ row ∈ (buildAssessmentDiagnostics input).2, row.assessment = assessment) ↔
      input.Counts assessment := by
  constructor
  · intro given
    obtain ⟨row, member, rfl⟩ := given
    rcases mem_append.mp member with read | extra
    · obtain ⟨diagnosed, among, inside⟩ := mem_flatMap.mp read
      obtain ⟨attempt, listed, rfl⟩ := mem_map.mp among
      exact Or.inl ⟨attempt, listed, diagnoseAttempt_valid.mp ⟨row, inside, rfl⟩⟩
    · exact Or.inr ⟨row, extra, rfl⟩
  · intro given
    cases given with
    | inl read =>
      obtain ⟨attempt, listed, valid⟩ := read
      obtain ⟨row, inside, same⟩ := diagnoseAttempt_valid.mpr valid
      exact ⟨row, mem_append_left _
        (mem_flatMap.mpr ⟨_, mem_map_of_mem listed, inside⟩), same⟩
    | inr extra =>
      obtain ⟨row, listed, same⟩ := extra
      exact ⟨row, mem_append_right _ listed, same⟩

theorem mem_decisiveOutcomes {outcome : VerificationOutcome} :
    outcome ∈ decisiveOutcomes (buildAssessmentDiagnostics input).2 id ↔
      ∃ assessment, input.Decides id assessment ∧ assessment.outcome = outcome := by
  unfold decisiveOutcomes
  rw [mem_unique, mem_map]
  constructor
  · intro given
    obtain ⟨row, member, same⟩ := given
    obtain ⟨listed, checks⟩ := mem_filter.mp member
    simp only [Bool.and_eq_true, decide_eq_true_eq] at checks
    exact ⟨row.assessment, ⟨counts_iff.mp ⟨row, listed, rfl⟩, checks.1, decisive_iff.mpr checks.2⟩, same⟩
  · intro given
    obtain ⟨found, ⟨counts, named, decisive⟩, same⟩ := given
    obtain ⟨row, listed, rfl⟩ := counts_iff.mpr counts
    refine ⟨row, mem_filter.mpr ⟨listed, ?_⟩, same⟩
    simp only [Bool.and_eq_true, decide_eq_true_eq]
    exact ⟨named, decisive_iff.mp decisive⟩

theorem covered_iff :
    ((((buildAssessmentDiagnostics input).2.filter (·.assessment.outcome ≠ .not_evaluated)).map
      (·.assessment.findingId)).contains id) = true ↔ ∃ assessment, input.Decides id assessment := by
  rw [contains_iff_mem, mem_map]
  constructor
  · intro given
    obtain ⟨row, member, named⟩ := given
    obtain ⟨listed, decisive⟩ := mem_filter.mp member
    exact ⟨row.assessment, counts_iff.mp ⟨row, listed, rfl⟩, named,
      decisive_iff.mpr (of_decide_eq_true decisive)⟩
  · intro given
    obtain ⟨found, counts, named, decisive⟩ := given
    obtain ⟨row, listed, rfl⟩ := counts_iff.mpr counts
    exact ⟨row, mem_filter.mpr ⟨listed, decide_eq_true (decisive_iff.mp decisive)⟩, named⟩

def DiagnosticsInput.Contradicted (input : DiagnosticsInput) (id : JsString) : Prop :=
  ∃ left right, input.Decides id left ∧ input.Decides id right ∧ left.outcome ≠ right.outcome

variable {α : Type}

theorem two_of_length {values : List α} (distinct : values.Nodup)
    (long : 1 < values.length) : ∃ first ∈ values, ∃ second ∈ values, first ≠ second := by
  cases values with
  | nil => cases long
  | cons first rest =>
    cases rest with
    | nil => exact absurd long (Nat.lt_irrefl 1)
    | cons second more =>
      refine ⟨first, mem_cons_self, second,
        mem_cons_of_mem _ mem_cons_self, ?_⟩
      intro same
      exact (nodup_cons.mp distinct).1 (same ▸ mem_cons_self)

theorem contradicted_iff :
    1 < (decisiveOutcomes (buildAssessmentDiagnostics input).2 id).length ↔ input.Contradicted id := by
  constructor
  · intro long
    obtain ⟨first, one, second, two, apart⟩ := two_of_length (nodup_unique _) long
    obtain ⟨left, decidesLeft, rfl⟩ := mem_decisiveOutcomes.mp one
    obtain ⟨right, decidesRight, rfl⟩ := mem_decisiveOutcomes.mp two
    exact ⟨left, right, decidesLeft, decidesRight, apart⟩
  · intro given
    obtain ⟨left, right, decidesLeft, decidesRight, apart⟩ := given
    have one := mem_decisiveOutcomes.mpr ⟨left, decidesLeft, rfl⟩
    have two := mem_decisiveOutcomes.mpr ⟨right, decidesRight, rfl⟩
    by_contra short
    generalize decisiveOutcomes (buildAssessmentDiagnostics input).2 id = outcomes at one two short
    cases outcomes with
    | nil => cases one
    | cons outcome rest =>
      have alone : rest = [] := by
        rw [length_cons] at short
        exact length_eq_zero_iff.mp (by omega)
      rw [alone] at one two
      exact apart ((mem_singleton.mp one).trans (mem_singleton.mp two).symm)

theorem single_iff :
    (decisiveOutcomes (buildAssessmentDiagnostics input).2 id).length = 1 ↔
      (∃ assessment, input.Decides id assessment) ∧ ¬ input.Contradicted id := by
  rw [← contradicted_iff]
  have some_ : (∃ assessment, input.Decides id assessment) ↔
      0 < (decisiveOutcomes (buildAssessmentDiagnostics input).2 id).length := by
    rw [length_pos_iff_exists_mem]
    constructor
    · intro given
      obtain ⟨found, decides⟩ := given
      exact ⟨found.outcome, mem_decisiveOutcomes.mpr ⟨found, decides, rfl⟩⟩
    · intro given
      obtain ⟨outcome, member⟩ := given
      obtain ⟨found, decides, -⟩ := mem_decisiveOutcomes.mp member
      exact ⟨found, decides⟩
  rw [some_]
  omega

variable {item : AssessmentDiagnosticItem}

theorem item_cases (member : item ∈ (buildAssessmentDiagnostics input).1.items) :
    item.OfRow ∨ ∃ id ∈ input.requiredFindingIds,
      item ∈ coverageItems (buildAssessmentDiagnostics input).2 id := by
  rcases mem_append.mp member with early | required
  · left
    rcases mem_append.mp early with read | extra
    · obtain ⟨diagnosed, among, inside⟩ := mem_flatMap.mp read
      obtain ⟨attempt, -, rfl⟩ := mem_map.mp among
      exact diagnoseAttempt_items attempt item inside
    · obtain ⟨extra, -, rfl⟩ := mem_map.mp extra
      exact ⟨nofun, (by decide : js "ok" ≠ js "contradictory_outcome")⟩
  · obtain ⟨id, listed, inside⟩ := mem_flatMap.mp required
    exact Or.inr ⟨id, listed, inside⟩

theorem mem_unless {item found : α} {condition : Prop} [Decidable condition] :
    item ∈ (if condition then [] else [found]) ↔ item = found ∧ ¬ condition := by
  split
  · rename_i holds
    simp [holds]
  · rename_i fails
    simp [fails]

theorem mem_when {item found : α} {condition : Prop} [Decidable condition] :
    item ∈ (if condition then [found] else []) ↔ item = found ∧ condition := by
  split
  · rename_i holds
    simp [holds]
  · rename_i fails
    simp [fails]

theorem mem_coverageItems :
    item ∈ coverageItems (buildAssessmentDiagnostics input).2 id ↔
      (item = missingItem id ∧ ¬ ∃ assessment, input.Decides id assessment) ∨
      (item = contradictoryItem id ∧ input.Contradicted id) := by
  unfold coverageItems
  rw [mem_append, ← contradicted_iff, ← covered_iff]
  exact or_congr mem_unless mem_when

theorem required_item (listed : id ∈ input.requiredFindingIds)
    (member : item ∈ coverageItems (buildAssessmentDiagnostics input).2 id) :
    item ∈ (buildAssessmentDiagnostics input).1.items :=
  mem_append_right _ (mem_flatMap.mpr ⟨id, listed, member⟩)

/-- The coverage is complete exactly when every required id is decided and none is contradicted,
and the items of the two kinds name the ids where that fails. -/
theorem coverage_exact (input : DiagnosticsInput) :
    ((buildAssessmentDiagnostics input).1.coverageComplete = true ↔
      ∀ id ∈ input.requiredFindingIds,
        (∃ assessment, input.Decides id assessment) ∧ ¬ input.Contradicted id) ∧
    (∀ named, (∃ item ∈ (buildAssessmentDiagnostics input).1.items,
        item.status = .missing ∧ item.findingId = named) ↔
      ∃ id ∈ input.requiredFindingIds, named = some id ∧ ¬ ∃ assessment, input.Decides id assessment) ∧
    (∀ named, (∃ item ∈ (buildAssessmentDiagnostics input).1.items,
        item.errorClass = js "contradictory_outcome" ∧ item.findingId = named) ↔
      ∃ id ∈ input.requiredFindingIds, named = some id ∧ input.Contradicted id) := by
  refine ⟨?_, ?_, ?_⟩
  · have complete : (buildAssessmentDiagnostics input).1.coverageComplete =
        input.requiredFindingIds.all fun id =>
          (decisiveOutcomes (buildAssessmentDiagnostics input).2 id).length = 1 := rfl
    rw [complete, all_eq_true]
    constructor
    · intro all id listed
      exact single_iff.mp (of_decide_eq_true (all id listed))
    · intro all id listed
      exact decide_eq_true (single_iff.mpr (all id listed))
  · intro named
    constructor
    · intro given
      obtain ⟨item, member, missing, rfl⟩ := given
      cases item_cases member with
      | inl ofRow => exact absurd missing ofRow.1
      | inr required =>
        obtain ⟨id, listed, inside⟩ := required
        cases mem_coverageItems.mp inside with
        | inl bare => exact ⟨id, listed, by rw [bare.1]; rfl, bare.2⟩
        | inr torn =>
          rw [torn.1] at missing
          cases missing
    · intro given
      obtain ⟨id, listed, rfl, bare⟩ := given
      exact ⟨missingItem id, required_item listed (mem_coverageItems.mpr (Or.inl ⟨rfl, bare⟩)), rfl, rfl⟩
  · intro named
    constructor
    · intro given
      obtain ⟨item, member, error, rfl⟩ := given
      cases item_cases member with
      | inl ofRow => exact absurd error ofRow.2
      | inr required =>
        obtain ⟨id, listed, inside⟩ := required
        cases mem_coverageItems.mp inside with
        | inl bare =>
          rw [bare.1] at error
          exact absurd error
            (by decide : js "missing_required_id" ≠ js "contradictory_outcome")
        | inr torn => exact ⟨id, listed, by rw [torn.1]; rfl, torn.2⟩
    · intro given
      obtain ⟨id, listed, rfl, torn⟩ := given
      exact ⟨contradictoryItem id,
        required_item listed (mem_coverageItems.mpr (Or.inr ⟨rfl, torn⟩)), rfl, rfl⟩

/-- The same attempts, ids and further assessments in another order. -/
structure DiagnosticsInput.Reordered (first second : DiagnosticsInput) : Prop where
  candidateSha : first.candidateSha = second.candidateSha
  requiredFindingIds : first.requiredFindingIds.Perm second.requiredFindingIds
  attempts : first.attempts.Perm second.attempts
  extraAssessments : first.extraAssessments.Perm second.extraAssessments

namespace DiagnosticsInput.Reordered

variable {first second : DiagnosticsInput} (reordered : first.Reordered second)

include reordered

theorem decides_iff : first.Decides id assessment ↔ second.Decides id assessment := by
  simp only [Decides, Counts, reordered.candidateSha, reordered.attempts.mem_iff,
    reordered.extraAssessments.mem_iff]

theorem contradicted_iff : first.Contradicted id ↔ second.Contradicted id := by
  simp only [Contradicted, reordered.decides_iff]

theorem coverageItems (id : JsString) : coverageItems (buildAssessmentDiagnostics first).2 id =
    coverageItems (buildAssessmentDiagnostics second).2 id := by
  have covered := (@covered_iff first id).trans
    ((exists_congr fun _ => reordered.decides_iff).trans (@covered_iff second id).symm)
  have torn := (@Review.contradicted_iff first id).trans
    (reordered.contradicted_iff.trans (@Review.contradicted_iff second id).symm)
  exact congrArg₂ (· ++ ·) (if_congr covered rfl rfl) (if_congr torn rfl rfl)

end DiagnosticsInput.Reordered

/-- The diagnostics do not depend on the order in which the reviewers finish. -/
theorem diagnostics_unordered {first second : DiagnosticsInput} (reordered : first.Reordered second) :
    (buildAssessmentDiagnostics first).1.coverageComplete =
        (buildAssessmentDiagnostics second).1.coverageComplete ∧
      (buildAssessmentDiagnostics first).1.items.Perm (buildAssessmentDiagnostics second).1.items := by
  constructor
  · have complete (input : DiagnosticsInput) :
        (buildAssessmentDiagnostics input).1.coverageComplete = true ↔ ∀ id ∈ input.requiredFindingIds,
          (∃ assessment, input.Decides id assessment) ∧ ¬ input.Contradicted id := by
      simp only [buildAssessmentDiagnostics, all_eq_true, decide_eq_true_eq, ← single_iff]
    rw [Bool.eq_iff_iff, complete, complete]
    simp only [reordered.requiredFindingIds.mem_iff, reordered.decides_iff, reordered.contradicted_iff]
  · refine .append (.append ?_ (reordered.extraAssessments.map _)) ?_
    · rw [reordered.candidateSha]
      exact (reordered.attempts.map _).flatMap_right _
    · change List.Perm (first.requiredFindingIds.flatMap
        (coverageItems (buildAssessmentDiagnostics first).2)) _
      rw [funext reordered.coverageItems]
      exact reordered.requiredFindingIds.flatMap_right _

def twoReviews (first second : JsString) : DiagnosticsInput :=
  ⟨js "r", none, [first, second],
    [first, second].map fun name => ⟨name, js "success", some 0, name, name⟩, []⟩

theorem diagnostics_unordered_two :
    (buildAssessmentDiagnostics (twoReviews (js "F-1") (js "F-2"))).1.items.Perm
      (buildAssessmentDiagnostics (twoReviews (js "F-2") (js "F-1"))).1.items := by
  have swapped (first second : JsString) :
      (twoReviews first second).Reordered (twoReviews second first) :=
    ⟨rfl, .swap .., .swap .., .refl _⟩
  exact (diagnostics_unordered (swapped (js "F-1") (js "F-2"))).2

end CouncilKit.Review
