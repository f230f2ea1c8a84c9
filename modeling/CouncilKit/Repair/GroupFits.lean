import CouncilKit.Repair.GroupRoots

namespace CouncilKit.Repair

open Data Data.JsString Review List FindingGroupsFile Bool Function

def bucketGroup (place : JsString × Bucket JsString JsString) : FindingGroup where
  rootCauseId := place.1
  findingIds := place.2.members
  aliases := place.2.others
  basis := place.2.note

namespace BuildInput

variable {input : BuildInput}

theorem prior_byRoot {groups : List FindingGroup} {building : GroupBuilding}
    (known : ∀ group ∈ groups, ∀ id ∈ group.findingIds, input.known id = true)
    (some_ : ∀ group ∈ groups, group.findingIds ≠ []) :
    groups.foldl input.addPrior building =
      ⟨(groups.map priorDeposit).foldl deposit building.byRoot,
        groups.foldl recordGroup building.idToRoot⟩ := by
  induction groups generalizing building with
  | nil => rfl
  | cons group rest ih =>
    rw [forall_mem_cons] at known some_
    have kept : group.findingIds.filter input.known = group.findingIds :=
      filter_eq_self.mpr known.1
    have stepped : input.addPrior building group =
        ⟨deposit building.byRoot (priorDeposit group),
          recordGroup building.idToRoot group⟩ := by
      unfold addPrior
      dsimp only
      rw [kept, if_neg some_.1]
      rfl
    rw [foldl_cons, stepped, ih known.2 some_.2]
    rfl

variable {aliases : List FindingAlias}

theorem matches_byRoot {building : GroupBuilding} :
    (aliases.foldl input.addMatch building).byRoot =
      (matchDeposits input.known building.idToRoot aliases).foldl deposit building.byRoot := by
  induction aliases generalizing building with
  | nil => rfl
  | cons found rest ih =>
    rw [foldl_cons, ih]
    rfl

theorem Prepared.nonempty (prepared : input.Prepared) :
    ∀ group ∈ input.priorList, group.findingIds ≠ [] := by
  intro group listed empty
  have valid := prepared.schema group listed
  simp [findingGroupSchema, empty] at valid

theorem Prepared.byRoot (prepared : input.Prepared) : input.building.byRoot = gather input.deposits := by
  have file : input.priorList.foldl recordGroup (fun _ => none) =
      rootCauseByFindingId input.priorGroups := by
    unfold priorList
    cases input.priorGroups with
    | none => rfl
    | some file => rfl
  have start := @prior_byRoot input input.priorList ⟨[], fun _ => none⟩ prepared.grouped.known
    prepared.nonempty
  unfold building
  rw [matches_byRoot]
  change (matchDeposits input.known (input.priorList.foldl input.addPrior _).idToRoot _).foldl deposit
    (input.priorList.foldl input.addPrior _).byRoot = _
  rw [start, file, gather, deposits, foldl_append]

variable {idToRoot : JsString → Option JsString}

theorem matchDeposits_members (originals : ∀ found ∈ aliases, input.known found.originalId = true) :
    ∀ entry ∈ matchDeposits input.known idToRoot aliases, entry.members ≠ [] ∧
      (∀ id ∈ entry.members, input.known id = true) := by
  induction aliases generalizing idToRoot with
  | nil =>
    intro entry member
    cases member
  | cons found rest ih =>
    rw [forall_mem_cons] at originals
    rw [matchDeposits_cons, forall_mem_cons]
    refine ⟨⟨?_, ?_⟩, ih originals.2⟩
    · apply ne_nil_of_mem
      exact mem_filter.mpr ⟨mem_cons_self, originals.1⟩
    · intro id member
      exact (mem_filter.mp member).2

theorem Prepared.members (prepared : input.Prepared) :
    ∀ entry ∈ input.deposits, entry.members ≠ [] ∧ (∀ id ∈ entry.members, input.known id = true) := by
  unfold deposits
  rw [forall_mem_append]
  refine ⟨?_, matchDeposits_members prepared.originals⟩
  intro entry member
  obtain ⟨group, listed, rfl⟩ := mem_map.mp member
  exact ⟨prepared.nonempty group listed, prepared.grouped.known group listed⟩

theorem Prepared.groups (prepared : input.Prepared) :
    input.groups = (gather input.deposits).map bucketGroup := by
  unfold BuildInput.groups
  rw [prepared.byRoot]
  apply filter_eq_self.mpr
  intro group listed
  obtain ⟨place, member, rfl⟩ := mem_map.mp listed
  have holds := gather_holds input.deposits place member
  obtain ⟨entry, among, same, -⟩ := holds.noted
  obtain ⟨id, inside⟩ := exists_mem_of_ne_nil _ (prepared.members entry among).1
  have stored : id ∈ place.2.members := (holds.member id).mpr (mem_membersAt.mpr ⟨entry, among, same, inside⟩)
  rw [decide_eq_true_eq]
  exact length_pos_of_mem stored

variable {entries : List GroupDeposit}

theorem named_bucket {place : JsString × Bucket JsString JsString}
    {id : JsString} (holds : Holds entries place.1 place.2) :
    id ∈ (bucketGroup place).named ↔ ∃ entry ∈ entries, entry.key = place.1 ∧ id ∈ entry.named := by
  have split_ : id ∈ (bucketGroup place).named ↔ id ∈ place.2.members ∨ id ∈ place.2.others :=
    mem_append
  rw [split_, holds.member id, holds.other id, mem_membersAt, mem_othersAt]
  constructor
  · intro given
    cases given with
    | inl found =>
      obtain ⟨entry, listed, same, inside⟩ := found
      exact ⟨entry, listed, same, mem_named.mpr (Or.inl inside)⟩
    | inr found =>
      obtain ⟨entry, listed, same, inside⟩ := found
      exact ⟨entry, listed, same, mem_named.mpr (Or.inr inside)⟩
  · intro given
    obtain ⟨entry, listed, same, named⟩ := given
    cases mem_named.mp named with
    | inl inside => exact Or.inl ⟨entry, listed, same, inside⟩
    | inr inside => exact Or.inr ⟨entry, listed, same, inside⟩

theorem bucket_of {entry : GroupDeposit} (listed : entry ∈ entries) :
    ∃ place ∈ gather entries, place.1 = entry.key :=
  mem_map.mp (mem_keys.mpr ⟨entry, listed, rfl⟩)

theorem wellGrouped_iff (prepared : input.Prepared) :
    WellGrouped input.groups input.known ↔ OneRooted input.deposits := by
  rw [prepared.groups]
  constructor
  · intro grouped
    constructor
    · intro one first two second id named alsoNamed
      obtain ⟨left, leftMember, leftKey⟩ := bucket_of first
      obtain ⟨right, rightMember, rightKey⟩ := bucket_of second
      have inLeft := (named_bucket (gather_holds input.deposits left leftMember)).mpr
        ⟨one, first, leftKey.symm, named⟩
      have inRight := (named_bucket (gather_holds input.deposits right rightMember)).mpr
        ⟨two, second, rightKey.symm, alsoNamed⟩
      have same := grouped.single _ (mem_map_of_mem leftMember) _ (mem_map_of_mem rightMember)
        id inLeft inRight
      exact leftKey.symm.trans (same.trans rightKey)
    · intro one first two second named
      obtain ⟨left, leftMember, leftKey⟩ := bucket_of first
      obtain ⟨right, rightMember, rightKey⟩ := bucket_of second
      rw [← leftKey] at named
      have inRight := (named_bucket (gather_holds input.deposits right rightMember)).mpr
        ⟨two, second, rightKey.symm, named⟩
      have same := grouped.rooted _ (mem_map_of_mem leftMember) _ (mem_map_of_mem rightMember) inRight
      exact rightKey.symm.trans (same.trans leftKey)
  · intro oneRooted
    constructor
    · intro group listed id member
      obtain ⟨place, among, rfl⟩ := mem_map.mp listed
      have holds := gather_holds input.deposits place among
      obtain ⟨entry, deposited, -, inside⟩ := mem_membersAt.mp ((holds.member id).mp member)
      exact (prepared.members entry deposited).2 id inside
    · intro group listed other alsoListed id named alsoNamed
      obtain ⟨left, leftMember, rfl⟩ := mem_map.mp listed
      obtain ⟨right, rightMember, rfl⟩ := mem_map.mp alsoListed
      obtain ⟨one, first, leftKey, inOne⟩ :=
        (named_bucket (gather_holds input.deposits left leftMember)).mp named
      obtain ⟨two, second, rightKey, inTwo⟩ :=
        (named_bucket (gather_holds input.deposits right rightMember)).mp alsoNamed
      exact leftKey.symm.trans ((oneRooted.single one first two second id inOne inTwo).trans rightKey)
    · intro group listed other alsoListed named
      obtain ⟨left, leftMember, rfl⟩ := mem_map.mp listed
      obtain ⟨right, rightMember, rfl⟩ := mem_map.mp alsoListed
      obtain ⟨two, second, rightKey, inTwo⟩ :=
        (named_bucket (gather_holds input.deposits right rightMember)).mp named
      obtain ⟨one, first, leftKey, -⟩ := (gather_holds input.deposits left leftMember).noted
      have root : one.key ∈ two.named := leftKey ▸ inTwo
      exact rightKey.symm.trans ((oneRooted.rooted one first two second root).trans leftKey)

theorem matchDeposits_source :
    ∀ entry ∈ matchDeposits input.known idToRoot aliases, ∃ found ∈ aliases,
      entry.members = [found.originalId, found.aliasId].filter input.known ∧
        entry.others = [found.aliasId] ∧ entry.note = found.basis := by
  induction aliases generalizing idToRoot with
  | nil =>
    intro entry member
    cases member
  | cons found rest ih =>
    rw [matchDeposits_cons, forall_mem_cons]
    refine ⟨⟨found, mem_cons_self, rfl, rfl, rfl⟩, ?_⟩
    intro entry member
    obtain ⟨later, listed, fields⟩ := ih entry member
    exact ⟨later, mem_cons_of_mem _ listed, fields⟩

theorem matchDeposits_target {aliases : List FindingAlias} {idToRoot : JsString → Option JsString} :
    ∀ found ∈ aliases, ∃ entry ∈ matchDeposits input.known idToRoot aliases,
      entry.members = [found.originalId, found.aliasId].filter input.known ∧
        entry.others = [found.aliasId] := by
  induction aliases generalizing idToRoot with
  | nil =>
    intro found member
    cases member
  | cons first rest ih =>
    rw [matchDeposits_cons, forall_mem_cons]
    refine ⟨⟨_, mem_cons_self, rfl, rfl⟩, ?_⟩
    intro found member
    obtain ⟨entry, listed, fields⟩ := @ih (recordMatch idToRoot first) found member
    exact ⟨entry, mem_cons_of_mem _ listed, fields⟩

theorem text_le {least most : Nat} {value : JsString} (bound : least ≤ most)
    (valid : text least value = true) : text most value = true := by
  unfold text at valid ⊢
  rw [and_eq_true, decide_eq_true_eq] at valid ⊢
  exact ⟨valid.1, le_trans valid.2 bound⟩

theorem matchDeposits_keys (mapped : ∀ id root, idToRoot id = some root → text 400 root = true)
    (texts : ∀ found ∈ aliases, text 160 found.originalId = true) :
    ∀ entry ∈ matchDeposits input.known idToRoot aliases, text 400 entry.key = true := by
  induction aliases generalizing idToRoot with
  | nil =>
    intro entry member
    cases member
  | cons found rest ih =>
    rw [forall_mem_cons] at texts
    have root : text 400 (matchRoot idToRoot found) = true := by
      unfold matchRoot
      cases led : idToRoot found.originalId with
      | none => exact text_le (by decide) texts.1
      | some root => exact mapped _ root led
    rw [matchDeposits_cons, forall_mem_cons]
    refine ⟨root, ih ?_ texts.2⟩
    intro id other led
    unfold recordMatch at led
    by_cases isAlias : id = found.aliasId
    · subst isAlias
      rw [update_self, Option.some_inj] at led
      exact led ▸ root
    · rw [update_of_ne isAlias] at led
      by_cases isOriginal : id = found.originalId
      · subst isOriginal
        rw [update_self, Option.some_inj] at led
        exact led ▸ root
      · rw [update_of_ne isOriginal] at led
        exact mapped id other led

structure GroupValid (group : FindingGroup) : Prop where
  root : text 400 group.rootCauseId = true
  some_ : 1 ≤ group.findingIds.length
  few : group.findingIds.length ≤ 64
  members : ∀ id ∈ group.findingIds, text 160 id = true
  fewAliases : group.aliases.length ≤ 64
  aliases : ∀ id ∈ group.aliases, text 160 id = true
  basis : text 2000 group.basis = true

theorem groupValid {group : FindingGroup} (valid : findingGroupSchema group = true) : GroupValid group := by
  unfold findingGroupSchema at valid
  simp only [and_eq_true, decide_eq_true_eq, all_eq_true] at valid
  obtain ⟨⟨⟨⟨⟨⟨⟨root, some_⟩, few⟩, members⟩, fewAliases⟩, aliases⟩, basis⟩, -⟩ := valid
  exact ⟨root, some_, few, members, fewAliases, aliases, basis⟩

theorem groupValid_schema {group : FindingGroup} (valid : GroupValid group)
    (bare : group.adjudication = none) : findingGroupSchema group = true := by
  unfold findingGroupSchema
  simp only [and_eq_true, decide_eq_true_eq, all_eq_true, bare]
  exact ⟨⟨⟨⟨⟨⟨⟨valid.root, valid.some_⟩, valid.few⟩, valid.members⟩, valid.fewAliases⟩,
    valid.aliases⟩, valid.basis⟩, rfl⟩

def AliasTexts (input : BuildInput) : Prop :=
  ∀ entry ∈ input.matches, text 160 entry.originalId = true ∧ text 160 entry.aliasId = true

variable (prepared : input.Prepared)

include prepared

theorem Prepared.oneRooted :
    OneRooted (input.priorList.map priorDeposit) := oneRooted_of_wellGrouped prepared.grouped

theorem Prepared.keys (texts : input.AliasTexts) :
    ∀ entry ∈ input.deposits, text 400 entry.key = true := by
  unfold deposits
  rw [forall_mem_append]
  have prior : ∀ entry ∈ input.priorList.map priorDeposit, text 400 entry.key = true := by
    intro entry member
    obtain ⟨group, listed, rfl⟩ := mem_map.mp member
    exact (groupValid (prepared.schema group listed)).root
  refine ⟨prior, matchDeposits_keys ?_ fun found listed => (texts found listed).1⟩
  intro id root led
  obtain ⟨entry, listed, -, same⟩ := (leads_prior prepared.oneRooted id root).mp led
  rw [← same]
  exact prior entry listed

theorem Prepared.texts (texts : input.AliasTexts) :
    ∀ entry ∈ input.deposits, (∀ id ∈ entry.members, text 160 id = true) ∧
      (∀ id ∈ entry.others, text 160 id = true) ∧ text 2000 entry.note = true := by
  unfold deposits
  rw [forall_mem_append]
  constructor
  · intro entry member
    obtain ⟨group, listed, rfl⟩ := mem_map.mp member
    have valid := groupValid (prepared.schema group listed)
    exact ⟨valid.members, valid.aliases, valid.basis⟩
  · intro entry member
    obtain ⟨found, listed, members, others, note⟩ := matchDeposits_source entry member
    obtain ⟨original, other⟩ := texts found listed
    rw [members, others, note]
    refine ⟨?_, ?_, prepared.bases found listed⟩
    · intro id inside
      have one := mem_of_mem_filter inside
      rw [mem_cons, mem_singleton] at one
      cases one with
      | inl same => exact same ▸ original
      | inr same => exact same ▸ other
    · intro id inside
      exact mem_singleton.mp inside ▸ other

theorem Prepared.schema_iff [Unicode] : findingGroupsFileSchema input.sidecar = true ↔
      input.AliasTexts ∧ (unique (input.deposits.map (·.key))).length ≤ 200 ∧
      (∀ entry ∈ input.deposits, (unique (membersAt input.deposits entry.key)).length ≤ 64 ∧
        (unique (othersAt input.deposits entry.key)).length ≤ 64) ∧
      findingGroupsSource input.sidecar = true := by
  have groups : input.sidecar.file.groups = (gather input.deposits).map bucketGroup := prepared.groups
  unfold findingGroupsFileSchema
  rw [groups, and_eq_true, and_eq_true, decide_eq_true_eq, length_map, gather_length, all_eq_true]
  constructor
  · intro given
    obtain ⟨⟨source, few⟩, every⟩ := given
    have valid : ∀ place ∈ gather input.deposits, GroupValid (bucketGroup place) :=
      fun place listed => groupValid (every _ (mem_map_of_mem listed))
    refine ⟨?_, few, ?_, source⟩
    · intro found listed
      obtain ⟨entry, deposited, members, others⟩ :=
        @matchDeposits_target input _ (rootCauseByFindingId input.priorGroups)
          found listed
      have inDeposits : entry ∈ input.deposits := mem_append_right _ deposited
      obtain ⟨place, among, key⟩ := bucket_of inDeposits
      have holds := gather_holds input.deposits place among
      constructor
      · apply (valid place among).members
        apply (holds.member _).mpr
        apply mem_membersAt.mpr
        refine ⟨entry, inDeposits, key.symm, ?_⟩
        rw [members]
        exact mem_filter.mpr ⟨mem_cons_self, prepared.originals found listed⟩
      · apply (valid place among).aliases
        apply (holds.other _).mpr
        apply mem_othersAt.mpr
        refine ⟨entry, inDeposits, key.symm, ?_⟩
        rw [others]
        exact mem_singleton.mpr rfl
    · intro entry inDeposits
      obtain ⟨place, among, key⟩ := bucket_of inDeposits
      have holds := gather_holds input.deposits place among
      rw [← key, ← holds.member_length, ← holds.other_length]
      exact ⟨(valid place among).few, (valid place among).fewAliases⟩
  · intro given
    obtain ⟨texts, few, sizes, source⟩ := given
    refine ⟨⟨source, few⟩, ?_⟩
    intro group listed
    obtain ⟨place, among, rfl⟩ := mem_map.mp listed
    have holds := gather_holds input.deposits place among
    obtain ⟨first, inDeposits, key, note⟩ := holds.noted
    obtain ⟨id, inside⟩ := exists_mem_of_ne_nil _ (prepared.members first inDeposits).1
    have stored : id ∈ place.2.members :=
      (holds.member id).mpr (mem_membersAt.mpr ⟨first, inDeposits, key, inside⟩)
    have size := sizes first inDeposits
    rw [key, ← holds.member_length, ← holds.other_length] at size
    apply groupValid_schema _ rfl
    constructor
    · have root := prepared.keys texts first inDeposits
      rw [key] at root
      exact root
    · exact length_pos_of_mem stored
    · exact size.1
    · intro other member
      obtain ⟨entry, deposited, -, found⟩ := mem_membersAt.mp ((holds.member other).mp member)
      exact (prepared.texts texts entry deposited).1 other found
    · exact size.2
    · intro other member
      obtain ⟨entry, deposited, -, found⟩ := mem_othersAt.mp ((holds.other other).mp member)
      exact (prepared.texts texts entry deposited).2.1 other found
    · have basis := (prepared.texts texts first inDeposits).2.2
      rw [note] at basis
      exact basis

theorem Prepared.validate_iff [Unicode] :
    validateFindingGroups input.sidecar.file (some input.known) = .ok () ↔
      aliasesFree (rootCauseByFindingId input.priorGroups)
        (input.priorList.map (·.rootCauseId)) input.matches := by
  have nonempty : ∀ group ∈ input.sidecar.file.groups, group.findingIds ≠ [] := by
    intro group listed
    have counted := (mem_filter.mp listed).2
    rw [decide_eq_true_eq] at counted
    exact ne_nil_of_length_pos counted
  have keys : ∀ root, root ∈ input.priorList.map (·.rootCauseId) ↔
      ∃ entry ∈ input.priorList.map priorDeposit, entry.key = root := by
    intro root
    simp [priorDeposit]
  have oneRooted := oneRooted_matches_iff (leads_prior prepared.oneRooted) prepared.oneRooted
    prepared.originals keys
  rw [validateFindingGroups_iff, and_iff_left nonempty, ← oneRooted]
  exact wellGrouped_iff prepared

theorem Prepared.build_iff [Unicode] : (∃ built, buildFindingGroups input = .ok built ∧
      validateFindingGroups built.file (some input.known) = .ok ()) ↔ input.Fits := by
  have valid := prepared.validate_iff
  have limits := prepared.schema_iff
  unfold buildFindingGroups
  constructor
  · intro given
    obtain ⟨built, done, -⟩ := given
    cases checked : validateFindingGroups input.sidecar.file (some input.known) with
    | error error =>
      rw [checked] at done
      cases done
    | ok passed =>
      rw [checked] at done
      dsimp only at done
      split at done
      · rename_i accepted
        obtain ⟨texts, few, sizes, source⟩ := limits.mp accepted
        exact ⟨valid.mp checked, texts, few, fun entry listed => (sizes entry listed).1,
          fun entry listed => (sizes entry listed).2, source⟩
      · cases done
  · intro fits
    have passed := valid.mpr fits.free
    have accepted := limits.mpr ⟨fits.texts, fits.roots,
      fun entry listed => ⟨fits.members entry listed, fits.aliases entry listed⟩, fits.source⟩
    refine ⟨input.sidecar, ?_, passed⟩
    rw [passed]
    dsimp only
    rw [if_pos accepted]

end BuildInput

section Persist

variable [Digest] [Unicode] [UnicodeProperties] [Collation] {run : PersistRun}
  {review : IncrementalReview} {prior next : List LedgerFinding} {sha : JsString}
  {decisions : Option DecisionsFile}

def priorKnown (review : IncrementalReview) (prior : List LedgerFinding) (id : JsString) : Bool :=
  ((review.known prior).map (·.id)).contains id

omit [Collation] in
theorem aliases_source :
    ∀ found ∈ (classifiedPrior prior next decisions).aliases, found.originalId ∈ prior.map (·.id) ∧
      found.basis = js "against-chain alias; stable root is the original finding id" := by
  have steps : ∀ (rows : List LedgerFinding) (state : Classifying),
      ∀ found ∈ (rows.foldl (classifyPrior next decisions) state).aliases,
        found ∈ state.aliases ∨ (found.originalId ∈ rows.map (·.id) ∧
          found.basis = js "against-chain alias; stable root is the original finding id") := by
    intro rows
    induction rows with
    | nil =>
      intro state found listed
      exact Or.inl listed
    | cons old rest ih =>
      intro state found listed
      cases ih (classifyPrior next decisions state old) found listed with
      | inr later => exact Or.inr ⟨mem_cons_of_mem _ later.1, later.2⟩
      | inl here =>
        unfold classifyPrior at here
        dsimp only at here
        split at here
        · exact Or.inl here
        · split at here
          · exact Or.inl here
          · dsimp only at here
            split at here
            · cases mem_append.mp here with
              | inl before => exact Or.inl before
              | inr last =>
                rw [mem_singleton.mp last]
                exact Or.inr ⟨mem_cons_self, rfl⟩
            · exact Or.inl here
  intro found listed
  cases steps prior ⟨[], [], []⟩ found listed with
  | inl none_ => cases none_
  | inr source => exact source

theorem known_kept {id : JsString} (known : priorKnown review prior id = true) :
    (run.input review prior sha).known id = true := by
  unfold priorKnown IncrementalReview.known at known
  rw [contains_iff_mem, IncrementalReview.project_ids] at known
  obtain ⟨old, inPrior, rfl⟩ := mem_map.mp known
  unfold BuildInput.known
  rw [contains_iff_mem]
  exact IncrementalReview.prior_id_kept inPrior

theorem prepared_input
    (schema : ∀ file ∈ run.priorGroups, ∀ group ∈ file.groups, findingGroupSchema group = true)
    (accepted : ∀ file ∈ run.priorGroups,
      validateFindingGroups file (some (priorKnown review prior)) = .ok ()) :
    (run.input review prior sha).Prepared := by
  have list : (run.input review prior sha).priorList = (run.priorGroups.map (·.groups)).getD [] := rfl
  constructor
  · rw [list]
    cases stored : run.priorGroups with
    | none =>
      constructor
      · intro group listed
        cases listed
      · intro group listed
        cases listed
      · intro group listed
        cases listed
    | some file =>
      have grouped := validateFindingGroups_wellGrouped (accepted file stored)
      exact ⟨fun group listed id member => known_kept (grouped.known group listed id member),
        grouped.single, grouped.rooted⟩
  · rw [list]
    cases stored : run.priorGroups with
    | none =>
      intro group listed
      cases listed
    | some file => exact schema file stored
  · intro found listed
    have source := (aliases_source found listed).1
    apply known_kept
    unfold priorKnown
    rw [contains_iff_mem]
    exact source
  · intro found listed
    rw [(aliases_source found listed).2]
    decide

theorem persist_failure :
    (persistFindings run review prior).failure = none ↔
      ∀ sha, review.sha = some sha → FULL_COMMIT_SHA sha = true → run.priorGroupsInvalid = false →
        (0 < (aliasesOf review prior).length ∨ run.priorGroups.isSome = true) →
        ∃ built, buildFindingGroups (run.input review prior sha) = .ok built := by
  unfold persistFindings
  dsimp only
  cases given : review.sha with
  | none => simp
  | some sha =>
    rw [Option.filter_some]
    cases full : FULL_COMMIT_SHA sha with
    | false =>
      rw [if_neg Bool.false_ne_true]
      refine iff_of_true rfl ?_
      intro other same fullOther
      cases same
      rw [full] at fullOther
      cases fullOther
    | true =>
      rw [if_pos rfl]
      dsimp only
      split
      · rename_i invalid
        refine iff_of_true rfl ?_
        intro other _ _ valid
        rw [invalid] at valid
        cases valid
      · rename_i valid
        rw [not_eq_true] at valid
        split
        · rename_i needed
          cases built : buildFindingGroups (run.input review prior sha) with
          | ok sidecar =>
            refine iff_of_true rfl ?_
            intro other same _ _ _
            cases same
            exact ⟨sidecar, built⟩
          | error error =>
            constructor
            · intro none_
              cases none_
            · intro every
              obtain ⟨sidecar, done⟩ := every sha rfl full valid needed
              rw [built] at done
              cases done
        · rename_i unneeded
          refine iff_of_true rfl ?_
          intro other _ _ _ needed
          exact absurd needed unneeded

theorem build_ok_iff (prepared : (run.input review prior sha).Prepared) :
    (∃ built, buildFindingGroups (run.input review prior sha) = .ok built) ↔
      (run.input review prior sha).Fits := by
  rw [← prepared.build_iff]
  constructor
  · intro given
    obtain ⟨built, done⟩ := given
    refine ⟨built, done, ?_⟩
    unfold buildFindingGroups at done
    split at done
    · cases done
    · rename_i checked
      split at done
      · cases done
        exact checked
      · cases done
  · intro given
    obtain ⟨built, done, -⟩ := given
    exact ⟨built, done⟩

/-- The groups of a review are built, and no write is left half done, exactly when its aliases
fit. -/
theorem groups_built_iff
    (schema : ∀ file ∈ run.priorGroups, ∀ group ∈ file.groups, findingGroupSchema group = true)
    (accepted : ∀ file ∈ run.priorGroups,
      validateFindingGroups file (some (priorKnown review prior)) = .ok ()) :
    (∀ sha, (∃ built, buildFindingGroups (run.input review prior sha) = .ok built ∧
        validateFindingGroups built.file (some (run.input review prior sha).known) = .ok ()) ↔
      (run.input review prior sha).Fits) ∧
    ((persistFindings run review prior).failure = none ↔
      ∀ sha, review.sha = some sha → FULL_COMMIT_SHA sha = true → run.priorGroupsInvalid = false →
        (0 < (aliasesOf review prior).length ∨ run.priorGroups.isSome = true) →
        (run.input review prior sha).Fits) := by
  constructor
  · intro sha
    exact (prepared_input schema accepted).build_iff
  · rw [persist_failure]
    constructor
    · intro every sha given full valid needed
      exact (build_ok_iff (prepared_input schema accepted)).mp (every sha given full valid needed)
    · intro every sha given full valid needed
      exact (build_ok_iff (prepared_input schema accepted)).mpr (every sha given full valid needed)

end Persist

section Samples

def ledgerRow (id title : String) (severity : FindingSeverity) : LedgerFinding where
  id := js id
  severity
  status := .open
  title := js title
  text := js title
  source := .unique
  reviewer := none
  files := []

/-- The second row was found before as `F-9`. -/
def priorRows : List LedgerFinding :=
  [ledgerRow "F-1" "log grows" .minor, ledgerRow "F-2" "retry drops the write" .major]

def aliasedGroups : FindingGroupsFile :=
  ⟨[{ rootCauseId := js "F-1", findingIds := [js "F-1"], aliases := [js "F-9"],
      basis := js "against-chain alias" }]⟩

def sampleReview (reported : List LedgerFinding) : IncrementalReview where
  reported
  prDecisions := none
  loadedAt := fun _ => []
  projectedAt := fun _ => []
  sha := some (List.replicate 40 0x61)
  complete := false
  assessments := fun _ => []

def sampleRun : PersistRun where
  runId := js "run-2"
  againstRunId := js "run-1"
  priorGroups := some aliasedGroups
  priorGroupsInvalid := false
  hashFindings := fun _ => List.replicate 64 0x61

attribute [local instance] plainDigest Unicode.ascii UnicodeProperties.ascii Collation.units

theorem sample_schema : ∀ file ∈ sampleRun.priorGroups, ∀ group ∈ file.groups,
    findingGroupSchema group = true := by
  intro file given
  cases given
  decide

theorem sample_accepted {reported : List LedgerFinding} : ∀ file ∈ sampleRun.priorGroups,
    validateFindingGroups file (some (priorKnown (sampleReview reported) priorRows)) = .ok () := by
  intro file given
  cases given
  rfl

/-- A report without rows keeps the groups as they are. -/
theorem groups_built_empty : (persistFindings sampleRun (sampleReview []) priorRows).failure = none := by
  apply (groups_built_iff sample_schema sample_accepted).2.mpr
  intro sha given _ _ _
  cases given
  have none_ : aliasesOf (sampleReview []) priorRows = [] := by decide +kernel
  have matched : (sampleRun.input (sampleReview []) priorRows (List.replicate 40 0x61)).matches =
      [] := none_
  have deposited : (sampleRun.input (sampleReview []) priorRows (List.replicate 40 0x61)).deposits =
      aliasedGroups.groups.map priorDeposit := by
    unfold BuildInput.deposits
    rw [matched]
    rfl
  constructor
  · rw [matched]
    exact trivial
  · rw [matched]
    intro entry listed
    cases listed
  · rw [deposited]
    decide
  · rw [deposited]
    decide
  · rw [deposited]
    decide
  · decide +kernel

def reusedRow : LedgerFinding := ledgerRow "F-9" "`F-2` drops the queued write" .major

/-- The report names `F-2` by an id that the groups have for `F-1`: the ledger is replaced, the
sidecar is not written. -/
theorem groups_reused_alias :
    aliasesOf (sampleReview [reusedRow]) priorRows = [⟨js "F-2", js "F-9",
      js "against-chain alias; stable root is the original finding id"⟩] ∧
    ¬ (∃ built, buildFindingGroups
      (sampleRun.input (sampleReview [reusedRow]) priorRows (List.replicate 40 0x61)) = .ok built) ∧
    (persistFindings sampleRun (sampleReview [reusedRow]) priorRows).failure ≠ none := by
  have moved : aliasesOf (sampleReview [reusedRow]) priorRows = [⟨js "F-2", js "F-9",
      js "against-chain alias; stable root is the original finding id"⟩] := by decide +kernel
  have taken : rootCauseByFindingId sampleRun.priorGroups (js "F-9") =
      some (js "F-1") := by decide +kernel
  have own : rootCauseByFindingId sampleRun.priorGroups (js "F-2") = none := by
    decide +kernel
  have unbuilt : ¬ (∃ built, buildFindingGroups
      (sampleRun.input (sampleReview [reusedRow]) priorRows (List.replicate 40 0x61)) = .ok built) := by
    rw [build_ok_iff (prepared_input sample_schema sample_accepted)]
    intro fits
    have free := fits.free
    have matched : (sampleRun.input (sampleReview [reusedRow]) priorRows
        (List.replicate 40 0x61)).matches = _ := moved
    have stored : (sampleRun.input (sampleReview [reusedRow]) priorRows
        (List.replicate 40 0x61)).priorGroups = sampleRun.priorGroups := rfl
    rw [matched, stored, aliasesFree] at free
    have root : BuildInput.matchRoot (rootCauseByFindingId sampleRun.priorGroups)
        ⟨js "F-2", js "F-9", js "against-chain alias; stable root is the original finding id"⟩ =
          js "F-2" := by
      unfold BuildInput.matchRoot
      dsimp only
      rw [own]
      rfl
    cases free.1 with
    | inl fresh =>
      have conflict := taken.symm.trans fresh
      cases conflict
    | inr same =>
      have conflict := taken.symm.trans same
      rw [root, Option.some_inj] at conflict
      exact absurd conflict (by decide)
  refine ⟨moved, unbuilt, ?_⟩
  intro complete
  exact unbuilt (persist_failure.mp complete (List.replicate 40 0x61) rfl (by decide) rfl
    (Or.inr rfl))

end Samples

end CouncilKit.Repair
