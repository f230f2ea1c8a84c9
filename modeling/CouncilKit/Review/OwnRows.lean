import CouncilKit.Review.LostFindings

namespace CouncilKit.Review

open Data List Option

section Lists

variable {α : Type*} {list : List α} {first second : α} {test : α → Bool}

theorem find?_sublist (found : list.find? test = some first) (member : second ∈ list)
    (holds : test second = true) (different : second ≠ first) :
    [first, second].Sublist list := by
  obtain ⟨-, ahead, behind, rfl, fails⟩ := List.find?_eq_some_iff_append.mp found
  have later : second ∈ behind := by
    rcases mem_append.mp member with early | late
    · have := fails second early
      simp [holds] at this
    · exact (mem_cons.mp late).resolve_left different
  apply List.Sublist.trans _ (sublist_append_right ahead _)
  exact List.Sublist.cons_cons first (singleton_sublist.mpr later)

theorem pair_sublist (member : first ∈ list) (other : second ∈ list) (different : first ≠ second) :
    ∃ pair : List α, pair.Sublist list ∧ pair.Perm [first, second] := by
  obtain ⟨ahead, behind, rfl⟩ := append_of_mem member
  rcases mem_append.mp other with early | late
  · have inOrder : [second, first].Sublist (ahead ++ first :: behind) :=
      (singleton_sublist.mpr early).append (singleton_sublist.mpr mem_cons_self)
    exact ⟨_, inOrder, List.Perm.swap first second []⟩
  · have behind_ : second ∈ behind := (mem_cons.mp late).resolve_left (Ne.symm different)
    have inOrder : [first, second].Sublist (ahead ++ first :: behind) :=
      (List.Sublist.cons_cons first (singleton_sublist.mpr behind_)).trans (sublist_append_right ahead _)
    exact ⟨_, inOrder, List.Perm.refl _⟩

end Lists

section Owners

variable [Digest] [Unicode] [UnicodeProperties]

omit [Unicode] [UnicodeProperties] in
/-- The row has the id of a prior row that was not accepted, and no decision
separates the two. -/
structure Owns (decisions : Option DecisionsFile) (old row : LedgerFinding) : Prop where
  going : old.status ≠ .accepted
  id : old.id = row.id
  unseparated : matchDecisionIdentity decisions old row ≠ some false

def OwnRowsMerged (prior next : List LedgerFinding) (decisions : Option DecisionsFile) : Prop :=
  ∀ old ∈ prior, ∀ row ∈ next, Owns decisions old row →
    Merges prior next decisions old row ∧ ∀ other, Merges prior next decisions other row → other = old

omit [Unicode] [UnicodeProperties] in
/-- Among the rows that are left, none ahead of it has the decision of the prior
row; where the row itself has not, none at all has, and none ahead has its id. -/
def Foremost (next : List LedgerFinding) (decisions : Option DecisionsFile)
    (old row : LedgerFinding) (used : List JsString) : Prop :=
  ∃ ahead behind, eligible old next used decisions = ahead ++ row :: behind ∧
    (∀ other ∈ ahead, matchDecisionIdentity decisions old other ≠ some true) ∧
    (matchDecisionIdentity decisions old row ≠ some true →
      (∀ other ∈ ahead, other.id ≠ row.id) ∧
      ∀ other ∈ behind, matchDecisionIdentity decisions old other ≠ some true)

/-- When its prior row has its turn, each such row is still there and foremost. -/
def LeftToOwners (prior next : List LedgerFinding) (decisions : Option DecisionsFile) : Prop :=
  ∀ old ∈ prior, ∀ row ∈ next, Owns decisions old row →
    ∃ before after, prior = before ++ old :: after ∧
      Foremost next decisions old row (usedIds before next decisions)

/-- No prior row would take the row of another, or a row of its id, if that were
all there is, and of two rows the prior row would take its own. -/
structure Unrivalled (prior next : List LedgerFinding) (decisions : Option DecisionsFile) :
    Prop where
  alone : ∀ old ∈ prior, ∀ row ∈ next, Owns decisions old row → ∀ other ∈ prior, other ≠ old →
    ∀ same ∈ next, same.id = row.id → takenRow [same] decisions other [] = none
  foremost : ∀ old ∈ prior, ∀ row ∈ next, Owns decisions old row → ∀ other ∈ next,
    ∀ pair : List LedgerFinding, pair.Sublist next → pair.Perm [row, other] →
      takenRow pair decisions old [] = some row

variable {prior next : List LedgerFinding} {decisions : Option DecisionsFile}
  {old row other : LedgerFinding} {used : List JsString}

theorem takenRow_going (going : old.status ≠ .accepted) :
    takenRow next decisions old used = matchFinding old next used decisions := by
  cases found : matchFinding old next used decisions <;> simp [takenRow, found, going, Option.filter]

theorem takenRow_own (owns : Owns decisions old row) :
    takenRow next decisions old used = some row ↔ Foremost next decisions old row used := by
  rw [takenRow_going owns.going]
  constructor
  · intro found
    have member := matchFinding_eligible found
    simp only [matchFinding, or_eq_some_iff] at found
    rcases found with strict | ⟨noStrict, byId | ⟨noId, -⟩⟩
    · obtain ⟨holds, ahead, behind, split, fails⟩ := List.find?_eq_some_iff_append.mp strict
      refine ⟨ahead, behind, split, fun other early => by simpa using fails other early, ?_⟩
      exact fun not => absurd (of_decide_eq_true holds) not
    · obtain ⟨-, ahead, behind, split, fails⟩ := List.find?_eq_some_iff_append.mp byId
      have none : ∀ other ∈ eligible old next used decisions,
          matchDecisionIdentity decisions old other ≠ some true := by
        simpa using noStrict
      refine ⟨ahead, behind, split, fun other early => none other (by simp [split, early]),
        fun _ => ⟨fun other early => ?_, fun other late => none other (by simp [split, late])⟩⟩
      have different := fails other early
      rw [owns.id] at different
      simpa using different
    · have absent := List.find?_eq_none.mp noId row member
      simp [owns.id] at absent
  · rintro ⟨ahead, behind, split, early, rest⟩
    by_cases strict : matchDecisionIdentity decisions old row = some true
    · have found : (eligible old next used decisions).find?
          (fun other => matchDecisionIdentity decisions old other = some true) = some row := by
        rw [List.find?_eq_some_iff_append]
        exact ⟨by simp [strict], ahead, behind, split, fun other member => by
          simpa using early other member⟩
      simp [matchFinding, found]
    · obtain ⟨ids, late⟩ := rest strict
      have none : (eligible old next used decisions).find?
          (fun other => matchDecisionIdentity decisions old other = some true) = none := by
        rw [List.find?_eq_none, split]
        intro other member holds
        have holds := of_decide_eq_true holds
        rcases mem_append.mp member with ahead | here
        · exact early other ahead holds
        · rcases mem_cons.mp here with rfl | behind
          · exact strict holds
          · exact late other behind holds
      have byId : (eligible old next used decisions).find? (·.id = old.id) = some row := by
        rw [List.find?_eq_some_iff_append]
        refine ⟨by simp [owns.id], ahead, behind, split, fun other member => ?_⟩
        have different := ids other member
        rw [← owns.id] at different
        simpa using different
      simp [matchFinding, none, byId]

theorem own_rows_left : OwnRowsMerged prior next decisions ↔ LeftToOwners prior next decisions := by
  constructor
  · intro merged old inPrior row member owns
    obtain ⟨⟨-, taken⟩, -⟩ := merged old inPrior row member owns
    obtain ⟨before, after, split, turned⟩ := mem_served.mp taken
    exact ⟨before, after, split, (takenRow_own owns).mp turned⟩
  · intro left old inPrior row member owns
    obtain ⟨before, after, split, foremost⟩ := left old inPrior row member owns
    have taken : (old, row) ∈ takenRows prior next decisions :=
      mem_served.mpr ⟨before, after, split, (takenRow_own owns).mpr foremost⟩
    exact ⟨⟨owns.going, taken⟩, fun other merges => takenRows_once taken merges.2⟩

omit [Digest] in
def Scores (old row : LedgerFinding) : Prop :=
  row.severity = old.severity ∧ ¬ matchScore old row < hundredths 55

def Suits (decisions : Option DecisionsFile) (old row : LedgerFinding) : Prop :=
  matchDecisionIdentity decisions old row = some true ∨ row.id = old.id ∨
    referenced old row = true ∨ sameLocus old row = true ∨ Scores old row

def Takes (decisions : Option DecisionsFile) (old row : LedgerFinding) : Prop :=
  matchDecisionIdentity decisions old row ≠ some false ∧ Suits decisions old row ∧
    (old.status = .accepted → matchDecisionIdentity decisions old row = some true)

omit [Digest] in
theorem betterScored_cases (best : Option (LedgerFinding × ℚ)) :
    betterScored old best row = best ∨
      Scores old row ∧ betterScored old best row = some (row, matchScore old row) := by
  simp only [betterScored]
  split
  · exact .inl rfl
  · rename_i fits
    split
    · simp only [ne_eq, not_or, not_not] at fits
      exact .inr ⟨fits, rfl⟩
    · exact .inl rfl

omit [Digest] in
theorem betterScored_some (best : Option (LedgerFinding × ℚ)) (facts : best ≠ none ∨ Scores old row) :
    betterScored old best row ≠ none := by
  rcases betterScored_cases best with kept | ⟨-, taken⟩
  · rw [kept]
    rcases facts with some | fits
    · exact some
    · intro none
      simp [betterScored, none, fits.1, fits.2] at kept
  · simp [taken]

variable {rows : List LedgerFinding}

omit [Digest] in
theorem scored_of_foldl {found : LedgerFinding × ℚ}
    (ended : rows.foldl (betterScored old) none = some found) : Scores old found.1 := by
  induction rows using List.reverseRecOn generalizing found with
  | nil => contradiction
  | append_singleton before row ih =>
    rw [foldl_append, foldl_cons, foldl_nil] at ended
    rcases betterScored_cases (before.foldl (betterScored old) none) with kept | ⟨fits, taken⟩
    · exact ih (kept.symm.trans ended)
    · rw [taken] at ended
      cases ended
      exact fits

omit [Digest] in
theorem foldl_of_scored (member : row ∈ rows) (fits : Scores old row) :
    rows.foldl (betterScored old) none ≠ none := by
  induction rows using List.reverseRecOn with
  | nil => simp at member
  | append_singleton before last ih =>
    rw [foldl_append, foldl_cons, foldl_nil]
    apply betterScored_some
    rcases mem_append.mp member with early | here
    · exact .inl (ih early)
    · rw [mem_singleton] at here
      exact .inr (here ▸ fits)

theorem matchFinding_suits (found : matchFinding old next used decisions = some row) :
    Suits decisions old row := by
  simp only [matchFinding, weakMatch, or_eq_some_iff, map_eq_some_iff] at found
  rcases found with strict | ⟨-, byId | ⟨-, reference | ⟨-, locus | ⟨-, best, ended, rfl⟩⟩⟩⟩
  · exact .inl (by simpa using List.find?_some strict)
  · exact .inr (.inl (by simpa using List.find?_some byId))
  · exact .inr (.inr (.inl (List.find?_some reference)))
  · exact .inr (.inr (.inr (.inl (List.find?_some locus))))
  · exact .inr (.inr (.inr (.inr (scored_of_foldl ended))))

theorem matchFinding_ne_none (member : row ∈ eligible old next used decisions)
    (suits : Suits decisions old row) : matchFinding old next used decisions ≠ none := by
  intro none
  simp only [matchFinding, weakMatch, or_eq_none_iff, map_eq_none_iff,
    List.find?_eq_none] at none
  obtain ⟨noStrict, noId, noReference, noLocus, noScore⟩ := none
  rcases suits with strict | id | reference | locus | fits
  · exact noStrict row member (decide_eq_true strict)
  · exact noId row member (decide_eq_true id)
  · exact noReference row member reference
  · exact noLocus row member locus
  · exact foldl_of_scored member fits noScore

theorem takenRow_takes (taken : takenRow next decisions old used = some row) : Takes decisions old row := by
  obtain ⟨found, passes⟩ := filter_eq_some_iff.mp taken
  refine ⟨(mem_eligible.mp (takenRow_eligible taken)).2.2, matchFinding_suits found, ?_⟩
  exact fun accepted => (of_decide_eq_true passes).resolve_left (by simp [accepted])

theorem takenRow_ne_none (takes : Takes decisions old row) (member : row ∈ next)
    (unspent : row.id ∉ used) : takenRow next decisions old used ≠ none := by
  obtain ⟨unseparated, suits, strictly⟩ := takes
  have inRows : row ∈ eligible old next used decisions :=
    mem_eligible.mpr ⟨member, unspent, unseparated⟩
  by_cases accepted : old.status = .accepted
  · have strict := strictly accepted
    cases found : (eligible old next used decisions).find?
        (fun other => matchDecisionIdentity decisions old other = some true) with
    | none => exact absurd (decide_eq_true strict) (List.find?_eq_none.mp found row inRows)
    | some first =>
      have holds : matchDecisionIdentity decisions old first = some true := by
        simpa using List.find?_some found
      simp [takenRow, matchFinding, found, holds, Option.filter]
  · rw [takenRow_going accepted]
    exact matchFinding_ne_none inRows suits

theorem takenRow_alone (taken : takenRow next decisions old used = some row) :
    takenRow [row] decisions old [] ≠ none :=
  takenRow_ne_none (takenRow_takes taken) mem_cons_self (by simp)

theorem takenRow_among (alone : takenRow [row] decisions old [] ≠ none) (member : row ∈ next)
    (unspent : row.id ∉ used) : takenRow next decisions old used ≠ none := by
  obtain ⟨found, taken⟩ := ne_none_iff_exists'.mp alone
  have same : found = row := by
    simpa using (mem_eligible.mp (takenRow_eligible taken)).1
  exact takenRow_ne_none (same ▸ takenRow_takes taken) member unspent

theorem Unrivalled.sub {fewer some : List LedgerFinding} (unrivalled : Unrivalled prior next decisions)
    (priors : fewer.Subperm prior) (rows : some.Sublist next) : Unrivalled fewer some decisions where
  alone old inPrior row member owns other inOther different same inSame :=
    unrivalled.alone old (priors.subset inPrior) row (rows.subset member) owns other
      (priors.subset inOther) different same (rows.subset inSame)
  foremost old inPrior row member owns other inOther pair inOrder :=
    unrivalled.foremost old (priors.subset inPrior) row (rows.subset member) owns other
      (rows.subset inOther) pair (inOrder.trans rows)

section

omit [Unicode] [UnicodeProperties]

theorem eligible_sublist : (eligible old next used decisions).Sublist next := filter_sublist

theorem eligible_pair {pair : List LedgerFinding} (rows : pair.Perm [row, other])
    (first : matchDecisionIdentity decisions old row ≠ some false)
    (second : matchDecisionIdentity decisions old other ≠ some false) :
    eligible old pair [] decisions = pair := by
  rw [eligible, filter_eq_self]
  intro found member
  rcases mem_cons.mp (rows.subset member) with rfl | later
  · simp [first]
  · rw [mem_singleton] at later
    simp [later, second]

end

theorem rival_pair (member : row ∈ next) (owns : Owns decisions old row) (unspent : row.id ∉ used)
    (taken : takenRow next decisions old used = some other) (different : row ≠ other) :
    ∃ pair : List LedgerFinding, pair.Sublist next ∧ pair.Perm [row, other] ∧
      takenRow pair decisions old [] = some other := by
  have inRows : row ∈ eligible old next used decisions :=
    mem_eligible.mpr ⟨member, unspent, owns.unseparated⟩
  have otherRows := takenRow_eligible taken
  obtain ⟨inNext, -, unseparated⟩ := mem_eligible.mp otherRows
  rw [takenRow_going owns.going] at taken
  simp only [matchFinding, or_eq_some_iff] at taken
  rcases taken with strict | ⟨noStrict, byId | ⟨noId, -⟩⟩
  · have holds : matchDecisionIdentity decisions old other = some true := by
      simpa using List.find?_some strict
    by_cases also : matchDecisionIdentity decisions old row = some true
    · have inOrder := (find?_sublist strict inRows (by simp [also]) different).trans eligible_sublist
      refine ⟨_, inOrder, List.Perm.swap .., ?_⟩
      rw [takenRow_going owns.going, matchFinding,
        eligible_pair (List.Perm.swap ..) owns.unseparated unseparated]
      simp [holds]
    · obtain ⟨pair, inOrder, rows⟩ := pair_sublist member inNext different
      refine ⟨pair, inOrder, rows, ?_⟩
      have found : pair.find? (fun other => matchDecisionIdentity decisions old other = some true) =
          some other := by
        apply find?_eq_of_unique (rows.symm.subset (by simp)) (by simp [holds])
        intro found inPair strict
        have strict := of_decide_eq_true strict
        rcases mem_cons.mp (rows.subset inPair) with rfl | later
        · exact absurd strict also
        · exact mem_singleton.mp later
      rw [takenRow_going owns.going, matchFinding, eligible_pair rows owns.unseparated unseparated]
      simp [found]
  · have none : ∀ other ∈ eligible old next used decisions,
        matchDecisionIdentity decisions old other ≠ some true := by
      simpa using noStrict
    have holds : other.id = old.id := by simpa using List.find?_some byId
    have inOrder := (find?_sublist byId inRows (by simp [owns.id]) different).trans eligible_sublist
    refine ⟨_, inOrder, List.Perm.swap .., ?_⟩
    rw [takenRow_going owns.going, matchFinding,
      eligible_pair (List.Perm.swap ..) owns.unseparated unseparated]
    simp [none row inRows, none other otherRows, holds]
  · have absent := List.find?_eq_none.mp noId row inRows
    simp [owns.id] at absent

theorem Unrivalled.takes_own (unrivalled : Unrivalled prior next decisions) (inPrior : old ∈ prior)
    (member : row ∈ next) (owns : Owns decisions old row) (unspent : row.id ∉ used) :
    takenRow next decisions old used = some row := by
  have chosen : takenRow next decisions old used ≠ none :=
    takenRow_ne_none ⟨owns.unseparated, .inr (.inl owns.id.symm), fun accepted =>
      absurd accepted owns.going⟩ member unspent
  obtain ⟨found, taken⟩ := ne_none_iff_exists'.mp chosen
  by_contra other
  have different : row ≠ found := fun same => other (same ▸ taken)
  obtain ⟨pair, inOrder, rows, rival⟩ := rival_pair member owns unspent taken different
  have inNext := (mem_eligible.mp (takenRow_eligible taken)).1
  rw [unrivalled.foremost old inPrior row member owns found inNext pair inOrder rows] at rival
  exact different (Option.some.inj rival)

theorem Unrivalled.merged (unrivalled : Unrivalled prior next decisions) :
    OwnRowsMerged prior next decisions := by
  rw [own_rows_left]
  intro old inPrior row member owns
  obtain ⟨before, after, split, first⟩ := eq_append_cons_of_mem inPrior
  have unspent : row.id ∉ usedIds before next decisions := by
    intro spent
    obtain ⟨⟨other, same⟩, taken, id⟩ := mem_usedIds.mp spent
    obtain ⟨inBefore, inNext, -⟩ := takenRows_facts taken
    have inOther : other ∈ prior := by simp [split, inBefore]
    have different : other ≠ old := fun equal => first (equal ▸ inBefore)
    obtain ⟨_, _, -, turned⟩ := mem_served.mp taken
    exact takenRow_alone turned
      (unrivalled.alone old inPrior row member owns other inOther different same inNext id)
  exact ⟨before, after, split, (takenRow_own owns).mp (unrivalled.takes_own inPrior member owns unspent)⟩

theorem mem_takenRows_pair {first second found : LedgerFinding}
    (taken : (second, found) ∈ takenRows [first, second] next decisions) (different : first ≠ second) :
    takenRow next decisions second (turn (takenRow next decisions) LedgerFinding.id [] first) =
      some found := by
  simp only [takenRows, served, append_nil, mem_append, mem_toList, map_eq_some_iff, Prod.mk.injEq] at taken
  rcases taken with ⟨_, -, same, -⟩ | ⟨_, turned, -, rfl⟩
  · exact absurd same different
  · exact turned

theorem rival_takes {same : LedgerFinding} (merged : OwnRowsMerged [other, old] next decisions)
    (member : row ∈ next) (owns : Owns decisions old row) (different : other ≠ old)
    (inNext : same ∈ next) (ids : ∀ found ∈ next, found.id = row.id) :
    takenRow [same] decisions other [] = none := by
  by_contra alone
  obtain ⟨found, taken⟩ := ne_none_iff_exists'.mp (takenRow_among alone inNext (not_mem_nil (a := same.id)))
  have spent : row.id ∈ turn (takenRow next decisions) LedgerFinding.id [] other :=
    mem_turn.mpr (.inr ⟨found, taken, ids found (mem_eligible.mp (takenRow_eligible taken)).1⟩)
  obtain ⟨⟨-, own⟩, -⟩ := merged old (by simp) row member owns
  have turned := mem_takenRows_pair own different
  exact (mem_eligible.mp (takenRow_eligible turned)).2.1 spent

theorem OwnRowsMerged.unrivalled
    (merged : ∀ fewer some : List LedgerFinding, fewer.Subperm prior → some.Sublist next →
      OwnRowsMerged fewer some decisions) : Unrivalled prior next decisions where
  alone old inPrior row member owns other inOther different same inNext id := by
    obtain ⟨order, inOrder, priors⟩ := pair_sublist inOther inPrior different
    have fewer : [other, old].Subperm prior := ⟨order, priors, inOrder⟩
    by_cases equal : same = row
    · apply rival_takes (merged _ [row] fewer (singleton_sublist.mpr member)) (by simp) owns
        different (by simp [equal])
      simp
    · obtain ⟨pair, sub, rows⟩ := pair_sublist inNext member equal
      apply rival_takes (merged _ pair fewer sub) (rows.symm.subset (by simp)) owns different
        (rows.symm.subset (by simp))
      intro found inPair
      rcases mem_cons.mp (rows.subset inPair) with rfl | later
      · exact id
      · rw [mem_singleton.mp later]
  foremost old inPrior row member owns other _ pair inOrder rows := by
    have one : [old].Subperm prior := (singleton_sublist.mpr inPrior).subperm
    have own := merged [old] pair one inOrder old (by simp) row (rows.symm.subset (by simp)) owns
    have taken := own.1.2
    simpa [takenRows, served] using taken

/-- A ledger's rows go to their prior rows exactly when each is left to its own
by the rows before it; and for every choice and order of the prior rows and
every choice of the report's rows they do exactly when no two of them rival. -/
theorem own_rows_merged :
    (OwnRowsMerged prior next decisions ↔ LeftToOwners prior next decisions) ∧
      ((∀ fewer some : List LedgerFinding, fewer.Subperm prior → some.Sublist next →
        OwnRowsMerged fewer some decisions) ↔ Unrivalled prior next decisions) := by
  refine ⟨own_rows_left, OwnRowsMerged.unrivalled, fun unrivalled fewer some priors rows => ?_⟩
  exact (unrivalled.sub priors rows).merged

end Owners

section Samples

attribute [local instance] plainDigest Unicode.ascii UnicodeProperties.ascii

def retryFinding : LedgerFinding := sampleRow (js "F-1") (js "retry drops the queued write")

def crashFinding : LedgerFinding :=
  sampleRow (js "F-2") (js "retry drops the queued write after a crash")

/-- The report of `F-2` goes to `F-1`, which stands first, and to `F-2` only in
the other order. -/
theorem own_row_crossed :
    takenRows [retryFinding, crashFinding] [crashFinding] none = [(retryFinding, crashFinding)] ∧
      takenRows [crashFinding, retryFinding] [crashFinding] none = [(crashFinding, crashFinding)] ∧
      ¬ OwnRowsMerged [retryFinding, crashFinding] [crashFinding] none := by
  have crossed : takenRows [retryFinding, crashFinding] [crashFinding] none =
      [(retryFinding, crashFinding)] := by decide +kernel
  refine ⟨crossed, by decide +kernel, fun merged => ?_⟩
  have owns : Owns none crashFinding crashFinding := ⟨by decide, rfl, nofun⟩
  obtain ⟨⟨-, taken⟩, -⟩ := merged crashFinding (by simp) crashFinding (by simp) owns
  rw [crossed, mem_singleton] at taken
  obtain ⟨same, -⟩ := Prod.mk.inj taken
  exact absurd (congrArg (·.id) same) (by decide)

end Samples

end CouncilKit.Review
