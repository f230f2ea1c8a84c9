import CouncilKit.Data.GreedyMerge
import CouncilKit.Data.Grouping
import CouncilKit.Review.FindingMatch

namespace CouncilKit.Review

open Data List

def coalesceFilledField (earlier later : Nullish JsString) : Nullish JsString :=
  if (earlier.toOption.getD []).trim ≠ [] then earlier
  else if (later.toOption.getD []).trim ≠ [] then later
  else if earlier ≠ .absent then earlier
  else later

def mergeFindingEvidence (stronger : Bool) (evidence summary : JsString) : JsString :=
  let kept := if stronger then evidence else summary
  let rest := if stronger then js "聚合摘要: " ++ summary else evidence
  (kept ++ js "\n\n" ++ rest).clipUtf16 8000

/-- A member that is spread only when it is not `undefined`. -/
def orEarlier {α : Type} (found earlier : Nullish α) : Nullish α :=
  match found with
  | .absent => earlier
  | found => found

def collapseSameLocusFindings (earlier later : LedgerFinding) : LedgerFinding :=
  let text := if later.text ≠ earlier.text then mergeFindingEvidence true earlier.text later.text
    else earlier.text
  let invariantId := coalesceFilledField earlier.invariantId later.invariantId
  let counterexample := coalesceFilledField earlier.counterexample later.counterexample
  let contractClass := Nullish.coalesce earlier.contractClass later.contractClass
  { earlier with
    text
    files := (unique (earlier.files ++ later.files)).take 32
    source := if earlier.source = .consensus ∨ later.source = .consensus then .consensus
      else earlier.source
    reviewer := earlier.reviewer.or later.reviewer
    contractClass := orEarlier contractClass earlier.contractClass
    invariantId := orEarlier invariantId earlier.invariantId
    counterexample := orEarlier counterexample earlier.counterexample }

section

variable [Unicode] [UnicodeProperties]

def collapsesInto (locus : FileLineCitation) (row candidate : LedgerFinding) : Bool :=
  candidate.severity = row.severity && lociEqual locus (primaryFindingLocus candidate) &&
    sameRootCauseIdentity candidate row

def dedupeRow (kept : List LedgerFinding) (row : LedgerFinding) : List LedgerFinding :=
  match primaryFindingLocus row with
  | none => kept ++ [row]
  | some locus =>
    match kept.findIdx? (collapsesInto locus row) with
    | none => kept ++ [row]
    | some existingIndex =>
      kept.modify existingIndex fun existing => collapseSameLocusFindings existing row

def dedupeFindingsByLocus (findings : List LedgerFinding) : List LedgerFinding :=
  findings.foldl dedupeRow []

def duplicate (kept row : LedgerFinding) : Bool :=
  (primaryFindingLocus row).any fun locus => collapsesInto locus row kept

theorem dedupeRow_eq (kept : List LedgerFinding) (row : LedgerFinding) :
    dedupeRow kept row = place duplicate collapseSameLocusFindings kept row := by
  unfold dedupeRow
  cases located : primaryFindingLocus row with
  | none =>
    have apart : ∀ other ∈ kept, duplicate other row = false := by
      intro other _
      rw [duplicate, located]
      rfl
    exact (place_apart apart).symm
  | some locus =>
    have same (candidate : LedgerFinding) :
        duplicate candidate row = collapsesInto locus row candidate := by
      rw [duplicate, located]
      rfl
    dsimp only
    induction kept with
    | nil => rfl
    | cons other rest ih =>
      rw [place, same, findIdx?_cons]
      cases collapsesInto locus row other with
      | true => rfl
      | false =>
        rw [if_neg Bool.false_ne_true, if_neg Bool.false_ne_true, ← ih]
        cases rest.findIdx? (collapsesInto locus row) with
        | none => rfl
        | some index => rfl

theorem dedupe_eq (findings : List LedgerFinding) :
    dedupeFindingsByLocus findings = findings.foldl (place duplicate collapseSameLocusFindings) [] := by
  have steps : dedupeRow = place duplicate collapseSameLocusFindings := by
    funext kept row
    exact dedupeRow_eq kept row
  rw [dedupeFindingsByLocus, steps]

def LedgerFinding.invariant (row : LedgerFinding) : JsString :=
  (row.invariantId.toOption.getD []).trim

variable {earlier later : LedgerFinding}

omit [Unicode] [UnicodeProperties] in
theorem invariant_collapse :
    (collapseSameLocusFindings earlier later).invariant =
      if earlier.invariant ≠ [] then earlier.invariant else later.invariant := by
  have field : (collapseSameLocusFindings earlier later).invariantId =
      orEarlier (coalesceFilledField earlier.invariantId later.invariantId) earlier.invariantId := rfl
  unfold LedgerFinding.invariant
  rw [field]
  unfold coalesceFilledField
  split
  · rename_i filled
    cases named : earlier.invariantId with
    | absent =>
      rw [named] at filled
      exact absurd rfl filled
    | null => rfl
    | value content => rfl
  · rename_i empty
    rw [not_not] at empty
    split
    · rename_i filled
      cases named : later.invariantId with
      | absent =>
        rw [named] at filled
        exact absurd rfl filled
      | null => rfl
      | value content => rfl
    · rename_i bare
      rw [not_not] at bare
      rw [bare]
      split
      · cases named : earlier.invariantId with
        | absent => rfl
        | null => rfl
        | value content =>
          rw [named] at empty
          exact empty
      · cases named : later.invariantId with
        | absent => exact empty
        | null => rfl
        | value content =>
          rw [named] at bare
          exact bare

/-- The files of a row are among those of the one that stands for it, unless these are full. -/
def FilesShown (kept row : LedgerFinding) : Prop :=
  (∀ file ∈ row.files, file ∈ kept.files) ∨ (kept.files.length = 32 ∧ kept.files.Nodup)

section

omit [Unicode] [UnicodeProperties]

theorem files_collapse (earlier later : LedgerFinding) :
    (∀ file ∈ earlier.files ++ later.files, file ∈ (collapseSameLocusFindings earlier later).files) ∨
    ((collapseSameLocusFindings earlier later).files.length = 32 ∧
      (collapseSameLocusFindings earlier later).files.Nodup) := by
  have files : (collapseSameLocusFindings earlier later).files =
      (unique (earlier.files ++ later.files)).take 32 := rfl
  rw [files]
  by_cases short : (unique (earlier.files ++ later.files)).length ≤ 32
  · left
    intro file member
    rw [take_of_length_le short]
    exact mem_unique.mpr member
  · right
    rw [length_take]
    exact ⟨by omega, (nodup_unique _).sublist (take_sublist _ _)⟩

theorem files_collapse_full (full : earlier.files.length = 32)
    (distinct : earlier.files.Nodup) :
    (collapseSameLocusFindings earlier later).files.length = 32 ∧
      (collapseSameLocusFindings earlier later).files.Nodup := by
  have files : (collapseSameLocusFindings earlier later).files =
      (unique (earlier.files ++ later.files)).take 32 := rfl
  have among : earlier.files ⊆ unique (earlier.files ++ later.files) := by
    intro file member
    exact mem_unique.mpr (mem_append_left _ member)
  have long := (subperm_of_subset distinct among).length_le
  rw [files, length_take]
  exact ⟨by omega, (nodup_unique _).sublist (take_sublist _ _)⟩

end

/-- What an output row keeps of an input row that was collapsed into it. -/
structure StandsFor (kept row : LedgerFinding) : Prop where
  severity : kept.severity = row.severity
  invariant : row.invariant ≠ [] → kept.invariant = row.invariant
  files : FilesShown kept row

omit [Unicode] [UnicodeProperties] in
theorem StandsFor.itself (row : LedgerFinding) : StandsFor row row :=
  ⟨rfl, fun _ => rfl, Or.inl fun _ member => member⟩

variable {kept row : LedgerFinding}

omit [Unicode] [UnicodeProperties] in
theorem StandsFor.old {member : LedgerFinding} (stands : StandsFor kept member) :
    StandsFor (collapseSameLocusFindings kept row) member where
  severity := stands.severity
  invariant named := by
    have same := stands.invariant named
    rw [invariant_collapse, if_pos (same ▸ named), same]
  files := by
    cases stands.files with
    | inl shown =>
      cases files_collapse kept row with
      | inl both => exact Or.inl fun file among => both file (mem_append_left _ (shown file among))
      | inr full => exact Or.inr full
    | inr full => exact Or.inr (files_collapse_full full.1 full.2)

theorem duplicate_severity (same : duplicate kept row = true) :
    kept.severity = row.severity ∧ sameRootCauseIdentity kept row = true := by
  unfold duplicate at same
  cases located : primaryFindingLocus row with
  | none =>
    rw [located] at same
    cases same
  | some locus =>
    rw [located] at same
    simp only [Option.any_some, collapsesInto, Bool.and_eq_true, decide_eq_true_eq] at same
    exact ⟨same.1.1, same.2⟩

theorem StandsFor.new (same : duplicate kept row = true) :
    StandsFor (collapseSameLocusFindings kept row) row where
  severity := (duplicate_severity same).1
  invariant named := by
    rw [invariant_collapse]
    split
    · rename_i filled
      have identity := (duplicate_severity same).2
      unfold sameRootCauseIdentity at identity
      rw [if_pos ⟨filled, named⟩] at identity
      exact of_decide_eq_true identity
    · rfl
  files := by
    cases files_collapse kept row with
    | inl both => exact Or.inl fun file among => both file (mem_append_right _ among)
    | inr full => exact Or.inr full

def locusGroups (findings : List LedgerFinding) : List (MergeGroup LedgerFinding) :=
  mergeGroups duplicate collapseSameLocusFindings findings

theorem stands_for (findings : List LedgerFinding) :
    ∀ group ∈ locusGroups findings, ∀ member ∈ group.members,
      StandsFor (group.item collapseSameLocusFindings) member.1 :=
  mergeGroups_represents findings StandsFor.itself (fun _ _ _ _ stands => stands.old)
    fun _ _ same => StandsFor.new same

/-- Every input row stands in one group; rows with different invariant ids are never in one; the
output row of a group has its severity and its files.  Two output rows are duplicates only where a
row was collapsed into one of them after both were there, and without such a pair a second pass
changes nothing. -/
theorem dedupe_groups (findings : List LedgerFinding) :
    ∃ groups : List (MergeGroup LedgerFinding),
      dedupeFindingsByLocus findings =
        groups.map (MergeGroup.item collapseSameLocusFindings) ∧
      (groups.flatMap MergeGroup.members).Perm findings.zipIdx ∧
      (∀ group ∈ groups, ∀ one ∈ group.members, ∀ two ∈ group.members,
        one.1.invariant ≠ [] → two.1.invariant ≠ [] → one.1.invariant = two.1.invariant) ∧
      (∀ group ∈ groups, ∀ member ∈ group.members,
        (group.item collapseSameLocusFindings).severity = member.1.severity ∧
        FilesShown (group.item collapseSameLocusFindings) member.1) ∧
      groups.Pairwise (fun left right =>
        duplicate (left.item collapseSameLocusFindings)
          (right.item collapseSameLocusFindings) = true → Touched left right) ∧
      ((dedupeFindingsByLocus findings).Pairwise (fun left right => duplicate left right = false) →
        dedupeFindingsByLocus (dedupeFindingsByLocus findings) = dedupeFindingsByLocus findings) := by
  refine ⟨locusGroups findings, ?_, mergeGroups_perm findings, ?_, ?_, mergeGroups_apart findings, ?_⟩
  · rw [dedupe_eq, locusGroups, mergeGroups_items]
  · intro group listed one first two second named alsoNamed
    have left := (stands_for findings group listed one first).invariant named
    have right := (stands_for findings group listed two second).invariant alsoNamed
    exact left.symm.trans right
  · intro group listed member among
    have stands := stands_for findings group listed member among
    exact ⟨stands.severity, stands.files⟩
  · intro apart
    rw [dedupe_eq (dedupeFindingsByLocus findings)]
    have unchanged := @foldl_place_apart _ duplicate collapseSameLocusFindings
      (dedupeFindingsByLocus findings) [] apart
    exact unchanged

end

def locusRow (id title : String) (invariantId : Nullish JsString) : LedgerFinding :=
  { id := js id
    severity := .major
    status := .open
    title := js title
    text := js "a.c:1"
    source := .unique
    reviewer := none
    files := [js "a.c"]
    invariantId }

/-- The third row is worded like the first and names the invariant of the second. -/
def threeRows : List LedgerFinding :=
  [locusRow "F1" "aa" .absent, locusRow "F2" "bb" (.value (js "INV-1")),
    locusRow "F3" "aa" (.value (js "INV-1"))]

/-- The first row takes the invariant id of the third, and a second pass would merge both. -/
theorem dedupe_leaves_duplicates :
    letI := Unicode.ascii
    letI := UnicodeProperties.ascii
    (∃ left right, dedupeFindingsByLocus threeRows = [left, right] ∧ left.id ≠ right.id ∧
      left.invariantId = right.invariantId ∧ duplicate left right = true) ∧
    dedupeFindingsByLocus (dedupeFindingsByLocus threeRows) ≠ dedupeFindingsByLocus threeRows := by
  let _ := Unicode.ascii
  let _ := UnicodeProperties.ascii
  let left := collapseSameLocusFindings (locusRow "F1" "aa" .absent)
    (locusRow "F3" "aa" (.value (js "INV-1")))
  let right := locusRow "F2" "bb" (.value (js "INV-1"))
  have once : dedupeFindingsByLocus threeRows = [left, right] := by decide +kernel
  have same : duplicate left right = true := by decide +kernel
  refine ⟨⟨left, right, once, by decide +kernel, by decide +kernel, same⟩, ?_⟩
  rw [once, dedupe_eq]
  intro stays
  have lengths := congrArg length stays
  rw [foldl_cons, foldl_cons, foldl_nil, place, place, if_pos same] at lengths
  cases lengths

end CouncilKit.Review
