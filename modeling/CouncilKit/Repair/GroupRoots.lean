import CouncilKit.Repair.GroupBuild

namespace CouncilKit.Repair

open Data Data.JsString Review BuildInput List FindingGroupsFile Option Function

abbrev GroupDeposit := Deposit JsString JsString JsString

def GroupDeposit.named (entry : GroupDeposit) : List JsString := entry.members ++ entry.others

def priorDeposit (group : FindingGroup) : GroupDeposit :=
  ⟨group.rootCauseId, group.findingIds, group.aliases, group.basis⟩

def matchDeposits (known : JsString → Bool) :
    (JsString → Option JsString) → List FindingAlias → List GroupDeposit
  | _, [] => []
  | idToRoot, entry :: rest =>
    ⟨matchRoot idToRoot entry, [entry.originalId, entry.aliasId].filter known,
      [entry.aliasId], entry.basis⟩ ::
      matchDeposits known (recordMatch idToRoot entry) rest

/-- No alias is the root of another group or belongs to one, by the prior groups or an alias
before it. -/
def aliasesFree : (JsString → Option JsString) → List JsString → List FindingAlias → Prop
  | _, _, [] => True
  | idToRoot, roots, entry :: rest =>
    let root := matchRoot idToRoot entry
    (idToRoot entry.aliasId = none ∨ idToRoot entry.aliasId = some root) ∧
      (entry.aliasId ∈ roots → entry.aliasId = root) ∧
      aliasesFree (recordMatch idToRoot entry) (root :: roots) rest

namespace BuildInput

def priorList (input : BuildInput) : List FindingGroup := (input.priorGroups.map (·.groups)).getD []

def deposits (input : BuildInput) : List GroupDeposit :=
  input.priorList.map priorDeposit ++
    matchDeposits input.known (rootCauseByFindingId input.priorGroups) input.matches

/-- The aliases are free, and roots, members and aliases stay within the limits. -/
structure Fits [Unicode] (input : BuildInput) : Prop where
  free : aliasesFree (rootCauseByFindingId input.priorGroups)
    (input.priorList.map (·.rootCauseId)) input.matches
  texts : ∀ entry ∈ input.matches, text 160 entry.originalId = true ∧ text 160 entry.aliasId = true
  roots : (unique (input.deposits.map (·.key))).length ≤ 200
  members : ∀ entry ∈ input.deposits, (unique (membersAt input.deposits entry.key)).length ≤ 64
  aliases : ∀ entry ∈ input.deposits, (unique (othersAt input.deposits entry.key)).length ≤ 64
  source : findingGroupsSource input.sidecar = true

/-- The prior groups are valid in this ledger, and the originals of the aliases are its rows. -/
structure Prepared (input : BuildInput) : Prop where
  grouped : WellGrouped input.priorList input.known
  schema : ∀ group ∈ input.priorList, findingGroupSchema group = true
  originals : ∀ entry ∈ input.matches, input.known entry.originalId = true
  bases : ∀ entry ∈ input.matches, text 2000 entry.basis = true

end BuildInput

variable {entries more : List GroupDeposit} {entry : GroupDeposit} {id root : JsString}
  {idToRoot : JsString → Option JsString} {known : JsString → Bool} {roots : List JsString}
  {found : FindingAlias} {aliases : List FindingAlias}

theorem mem_named : id ∈ entry.named ↔ id ∈ entry.members ∨ id ∈ entry.others := mem_append

/-- An id is named under one key, and a key is named under no other. -/
structure OneRooted (entries : List GroupDeposit) : Prop where
  single : ∀ one ∈ entries, ∀ two ∈ entries, ∀ id, id ∈ one.named → id ∈ two.named → one.key = two.key
  rooted : ∀ one ∈ entries, ∀ two ∈ entries, one.key ∈ two.named → two.key = one.key

theorem OneRooted.before (oneRooted : OneRooted (entries ++ more)) : OneRooted entries where
  single one first two second :=
    oneRooted.single one (mem_append_left _ first) two (mem_append_left _ second)
  rooted one first two second :=
    oneRooted.rooted one (mem_append_left _ first) two (mem_append_left _ second)

def Leads (idToRoot : JsString → Option JsString) (entries : List GroupDeposit) : Prop :=
  ∀ id root, idToRoot id = some root ↔ ∃ entry ∈ entries, id ∈ entry.named ∧ entry.key = root

theorem Leads.unnamed (leads : Leads idToRoot entries) (fresh : idToRoot id = none) :
    ∀ entry ∈ entries, id ∉ entry.named := by
  intro entry listed named
  have led := (leads id entry.key).mpr ⟨entry, listed, named, rfl⟩
  rw [fresh] at led
  cases led

def matchDeposit (known : JsString → Bool) (idToRoot : JsString → Option JsString)
    (found : FindingAlias) : GroupDeposit :=
  ⟨matchRoot idToRoot found, [found.originalId, found.aliasId].filter known, [found.aliasId], found.basis⟩

theorem matchDeposits_cons : matchDeposits known idToRoot (found :: aliases) =
    matchDeposit known idToRoot found :: matchDeposits known (recordMatch idToRoot found) aliases := rfl

theorem mem_matchDeposit (original : known found.originalId = true) :
    id ∈ (matchDeposit known idToRoot found).named ↔ id = found.originalId ∨ id = found.aliasId := by
  rw [mem_named, matchDeposit]
  dsimp only
  rw [mem_filter, mem_cons, mem_singleton]
  constructor
  · intro given
    cases given with
    | inl member => exact member.1
    | inr same => exact Or.inr same
  · intro given
    cases given with
    | inl same => exact Or.inl ⟨Or.inl same, same ▸ original⟩
    | inr same => exact Or.inr same

section

variable (leads : Leads idToRoot entries)

include leads

theorem matchRoot_cases :
    (idToRoot found.originalId = none ∧ matchRoot idToRoot found = found.originalId) ∨
      ∃ entry ∈ entries, found.originalId ∈ entry.named ∧
        entry.key = matchRoot idToRoot found := by
  unfold matchRoot
  cases mapped : idToRoot found.originalId with
  | none => exact Or.inl ⟨rfl, rfl⟩
  | some root => exact Or.inr ((leads _ _).mp mapped)

theorem Leads.record (original : known found.originalId = true)
    (free : idToRoot found.aliasId = none ∨ idToRoot found.aliasId = some (matchRoot idToRoot found)) :
    Leads (recordMatch idToRoot found)
      (entries ++ [matchDeposit known idToRoot found]) := by
  intro id root
  have own : ∀ root, (∃ entry ∈ entries ++ [matchDeposit known idToRoot found],
      id ∈ entry.named ∧ entry.key = root) ↔
        idToRoot id = some root ∨ ((id = found.originalId ∨ id = found.aliasId) ∧
          matchRoot idToRoot found = root) := by
    intro root
    rw [leads id root]
    constructor
    · intro given
      obtain ⟨entry, listed, named, same⟩ := given
      cases mem_append.mp listed with
      | inl before => exact Or.inl ⟨entry, before, named, same⟩
      | inr last =>
        rw [mem_singleton.mp last] at named same
        exact Or.inr ⟨(mem_matchDeposit original).mp named, same⟩
    · intro given
      cases given with
      | inl before =>
        obtain ⟨entry, listed, named, same⟩ := before
        exact ⟨entry, mem_append_left _ listed, named, same⟩
      | inr last =>
        exact ⟨_, mem_append_right _ mem_cons_self, (mem_matchDeposit original).mpr last.1,
          last.2⟩
  rw [own root]
  unfold recordMatch
  by_cases isAlias : id = found.aliasId
  · subst isAlias
    rw [update_self, some_inj]
    constructor
    · intro same
      exact Or.inr ⟨Or.inr rfl, same⟩
    · intro given
      cases given with
      | inr last => exact last.2
      | inl before =>
        cases free with
        | inl fresh =>
          rw [fresh] at before
          cases before
        | inr same =>
          rw [same, some_inj] at before
          exact before
  · rw [update_of_ne isAlias]
    by_cases isOriginal : id = found.originalId
    · subst isOriginal
      rw [update_self, some_inj]
      constructor
      · intro same
        exact Or.inr ⟨Or.inl rfl, same⟩
      · intro given
        cases given with
        | inr last => exact last.2
        | inl before =>
          unfold matchRoot
          rw [before, getD_some]
    · rw [update_of_ne isOriginal]
      constructor
      · exact Or.inl
      · intro given
        cases given with
        | inl before => exact before
        | inr last =>
          cases last.1 with
          | inl same => exact absurd same isOriginal
          | inr same => exact absurd same isAlias

theorem oneRooted_match_iff (oneRooted : OneRooted entries)
    (original : known found.originalId = true) :
    OneRooted (entries ++ [matchDeposit known idToRoot found]) ↔
      (idToRoot found.aliasId = none ∨
        idToRoot found.aliasId = some (matchRoot idToRoot found)) ∧
      ∀ entry ∈ entries, entry.key = found.aliasId →
        found.aliasId = matchRoot idToRoot found := by
  have last : matchDeposit known idToRoot found ∈
      entries ++ [matchDeposit known idToRoot found] :=
    mem_append_right _ mem_cons_self
  have aliased : found.aliasId ∈ (matchDeposit known idToRoot found).named :=
    (mem_matchDeposit original).mpr (Or.inr rfl)
  constructor
  · intro longer
    constructor
    · cases mapped : idToRoot found.aliasId with
      | none => exact Or.inl rfl
      | some root =>
        obtain ⟨entry, listed, named, same⟩ := (leads _ _).mp mapped
        right
        rw [← same]
        exact congrArg some
          (longer.single entry (mem_append_left _ listed) _ last _ named aliased)
    · intro entry listed same
      have root := longer.rooted entry (mem_append_left _ listed) _ last (same ▸ aliased)
      exact (root.trans same).symm
  · intro given
    obtain ⟨free, unrooted⟩ := given
    -- an id of the new deposit leads to its root wherever it is named
    have leadsTo : ∀ entry ∈ entries, ∀ id, id ∈ entry.named →
        id ∈ (matchDeposit known idToRoot found).named →
          entry.key = matchRoot idToRoot found := by
      intro entry listed id named ours
      have mapped := (leads id entry.key).mpr ⟨entry, listed, named, rfl⟩
      cases (mem_matchDeposit original).mp ours with
      | inl same =>
        unfold matchRoot
        rw [← same, mapped, getD_some]
      | inr same =>
        rw [same] at mapped
        cases free with
        | inl fresh =>
          rw [fresh] at mapped
          cases mapped
        | inr root =>
          rw [root, some_inj] at mapped
          exact mapped.symm
    constructor
    · intro one first two second id named alsoNamed
      cases mem_append.mp first with
      | inl before =>
        cases mem_append.mp second with
        | inl earlier => exact oneRooted.single one before two earlier id named alsoNamed
        | inr new =>
          rw [mem_singleton.mp new] at alsoNamed ⊢
          exact leadsTo one before id named alsoNamed
      | inr new =>
        rw [mem_singleton.mp new] at named ⊢
        cases mem_append.mp second with
        | inl earlier => exact (leadsTo two earlier id alsoNamed named).symm
        | inr same => rw [mem_singleton.mp same]
    · intro one first two second named
      cases mem_append.mp first with
      | inl before =>
        cases mem_append.mp second with
        | inl earlier => exact oneRooted.rooted one before two earlier named
        | inr new =>
          rw [mem_singleton.mp new] at named ⊢
          cases (mem_matchDeposit original).mp named with
          | inr same => exact ((unrooted one before same).symm.trans same.symm)
          | inl same =>
            -- the original is a key: it is its own root
            cases matchRoot_cases leads with
            | inl fresh => exact fresh.2.trans same.symm
            | inr mapped =>
              obtain ⟨entry, listed, named, root⟩ := mapped
              rw [← same] at named
              exact root.symm.trans (oneRooted.rooted one before entry listed named)
      | inr new =>
        rw [mem_singleton.mp new] at named ⊢
        cases mem_append.mp second with
        | inr same => rw [mem_singleton.mp same]
        | inl earlier =>
          cases matchRoot_cases leads with
          | inl fresh =>
            have unnamed := leads.unnamed fresh.1 two earlier
            rw [← fresh.2] at unnamed
            exact absurd named unnamed
          | inr mapped =>
            obtain ⟨entry, listed, -, root⟩ := mapped
            have inner : entry.key ∈ two.named := root ▸ named
            exact (oneRooted.rooted entry listed two earlier inner).trans root

theorem oneRooted_matches_iff (oneRooted : OneRooted entries)
    (originals : ∀ found ∈ aliases, known found.originalId = true)
    (keys : ∀ root, root ∈ roots ↔ ∃ entry ∈ entries, entry.key = root) :
    OneRooted (entries ++ matchDeposits known idToRoot aliases) ↔ aliasesFree idToRoot roots aliases := by
  induction aliases generalizing idToRoot entries roots with
  | nil =>
    rw [matchDeposits, append_nil, aliasesFree]
    exact iff_true_intro oneRooted
  | cons found rest ih =>
    rw [forall_mem_cons] at originals
    have shifted : entries ++ matchDeposits known idToRoot (found :: rest) =
        (entries ++ [matchDeposit known idToRoot found]) ++
          matchDeposits known (recordMatch idToRoot found) rest := by
      rw [matchDeposits_cons, append_assoc, singleton_append]
    have longer : ∀ root, root ∈ matchRoot idToRoot found :: roots ↔
        ∃ entry ∈ entries ++ [matchDeposit known idToRoot found], entry.key = root := by
      intro root
      rw [mem_cons, keys root]
      constructor
      · intro given
        cases given with
        | inl same => exact ⟨_, mem_append_right _ mem_cons_self, same.symm⟩
        | inr before =>
          obtain ⟨entry, listed, same⟩ := before
          exact ⟨entry, mem_append_left _ listed, same⟩
      · intro given
        obtain ⟨entry, listed, same⟩ := given
        cases mem_append.mp listed with
        | inl before => exact Or.inr ⟨entry, before, same⟩
        | inr last =>
          rw [mem_singleton.mp last] at same
          exact Or.inl same.symm
    have step := oneRooted_match_iff leads oneRooted originals.1
    have unrooted : (∀ entry ∈ entries, entry.key = found.aliasId →
        found.aliasId = matchRoot idToRoot found) ↔
          (found.aliasId ∈ roots → found.aliasId = matchRoot idToRoot found) := by
      rw [keys found.aliasId]
      constructor
      · intro every given
        obtain ⟨entry, listed, same⟩ := given
        exact every entry listed same
      · intro once entry listed same
        exact once ⟨entry, listed, same⟩
    rw [unrooted] at step
    rw [shifted, aliasesFree]
    constructor
    · intro whole
      have prefix_ := whole.before
      obtain ⟨free, apart⟩ := step.mp prefix_
      exact ⟨free, apart, (ih (leads.record originals.1 free) prefix_ originals.2 longer).mp whole⟩
    · intro given
      obtain ⟨free, apart, later⟩ := given
      have prefix_ := step.mpr ⟨free, apart⟩
      exact (ih (leads.record originals.1 free) prefix_ originals.2 longer).mpr later

end

section Prior

variable {groups done : List FindingGroup} {group : FindingGroup}

theorem oneRooted_of_wellGrouped (grouped : WellGrouped groups known) :
    OneRooted (groups.map priorDeposit) where
  single one first two second id named alsoNamed := by
    obtain ⟨group, listed, rfl⟩ := mem_map.mp first
    obtain ⟨other, among, rfl⟩ := mem_map.mp second
    exact grouped.single group listed other among id named alsoNamed
  rooted one first two second named := by
    obtain ⟨group, listed, rfl⟩ := mem_map.mp first
    obtain ⟨other, among, rfl⟩ := mem_map.mp second
    exact grouped.rooted group listed other among named

variable {map : JsString → Option JsString}

theorem foldl_members {ids : List JsString} (id : JsString) :
    ids.foldl (fun map id => update map id (some root)) map id =
      if id ∈ ids then some root else map id := by
  induction ids generalizing map with
  | nil => rfl
  | cons first rest ih =>
    rw [foldl_cons, ih]
    by_cases later : id ∈ rest
    · rw [if_pos later, if_pos (mem_cons_of_mem _ later)]
    · rw [if_neg later]
      by_cases same : id = first
      · subst same
        rw [update_self, if_pos mem_cons_self]
      · rw [update_of_ne same, if_neg]
        rw [mem_cons, not_or]
        exact ⟨same, later⟩

theorem foldl_aliases {ids : List JsString} (id : JsString) :
    ids.foldl (fun map other => if (map other).isSome then map
        else update map other (some root)) map id =
      (map id).or (if id ∈ ids then some root else none) := by
  induction ids generalizing map with
  | nil => rw [foldl_nil, if_neg not_mem_nil, or_none]
  | cons first rest ih =>
    rw [foldl_cons, ih]
    by_cases same : id = first
    · subst same
      rw [if_pos mem_cons_self]
      cases mapped : map id with
      | none =>
        rw [if_neg (by rw [isSome_none]; exact Bool.false_ne_true), update_self]
        rfl
      | some before =>
        rw [if_pos isSome_some, mapped]
        rfl
    · have inRest : (id ∈ first :: rest) ↔ id ∈ rest := by
        rw [mem_cons, or_iff_right same]
      rw [if_congr inRest rfl rfl]
      split
      · rfl
      · rw [update_of_ne same]

theorem recordGroup_apply (map : JsString → Option JsString) (group : FindingGroup) (id : JsString) :
    recordGroup map group id =
      if id ∈ group.findingIds then some group.rootCauseId
      else (map id).or (if id ∈ group.aliases then some group.rootCauseId else none) := by
  unfold recordGroup
  rw [foldl_aliases, foldl_members]
  split
  · rfl
  · rfl

theorem Leads.recordGroup (leads : Leads map (done.map priorDeposit))
    (oneRooted : OneRooted ((done ++ [group]).map priorDeposit)) :
    Leads (recordGroup map group) ((done ++ [group]).map priorDeposit) := by
  intro id root
  rw [map_append] at oneRooted ⊢
  have last : priorDeposit group ∈ done.map priorDeposit ++ [group].map priorDeposit :=
    mem_append_right _ mem_cons_self
  have agrees : ∀ before, map id = some before → id ∈ (priorDeposit group).named →
      before = group.rootCauseId := by
    intro before mapped named
    obtain ⟨entry, listed, earlier, same⟩ := (leads id before).mp mapped
    rw [← same]
    exact oneRooted.single entry (mem_append_left _ listed) _ last id earlier named
  have split_ : (∃ entry ∈ done.map priorDeposit ++ [group].map priorDeposit,
      id ∈ entry.named ∧ entry.key = root) ↔
        map id = some root ∨ (id ∈ (priorDeposit group).named ∧ group.rootCauseId = root) := by
    rw [leads id root]
    constructor
    · intro given
      obtain ⟨entry, listed, named, same⟩ := given
      cases mem_append.mp listed with
      | inl before => exact Or.inl ⟨entry, before, named, same⟩
      | inr new =>
        rw [mem_singleton.mp new] at named same
        exact Or.inr ⟨named, same⟩
    · intro given
      cases given with
      | inl before =>
        obtain ⟨entry, listed, named, same⟩ := before
        exact ⟨entry, mem_append_left _ listed, named, same⟩
      | inr new => exact ⟨_, last, new⟩
  rw [split_, recordGroup_apply]
  have namedIff : id ∈ (priorDeposit group).named ↔ id ∈ group.findingIds ∨ id ∈ group.aliases :=
    mem_named
  rw [namedIff] at agrees ⊢
  split
  · rename_i member
    rw [some_inj]
    constructor
    · intro same
      exact Or.inr ⟨Or.inl member, same⟩
    · intro given
      cases given with
      | inl before => exact (agrees root before (Or.inl member)).symm
      | inr new => exact new.2
  · rename_i outside
    cases mapped : map id with
    | none =>
      rw [none_or]
      split
      · rename_i listed
        rw [some_inj]
        constructor
        · intro same
          exact Or.inr ⟨Or.inr listed, same⟩
        · intro given
          cases given with
          | inl before => cases before
          | inr new => exact new.2
      · rename_i unlisted
        constructor
        · intro same
          cases same
        · intro given
          cases given with
          | inl before => cases before
          | inr new =>
            cases new.1 with
            | inl member => exact absurd member outside
            | inr listed => exact absurd listed unlisted
    | some before =>
      rw [some_or]
      constructor
      · exact Or.inl
      · intro given
        cases given with
        | inl same => exact same
        | inr new =>
          rw [← new.2]
          exact congrArg some (agrees before mapped new.1)

theorem leads_groups {map : JsString → Option JsString}
    (leads : Leads map (done.map priorDeposit))
    (oneRooted : OneRooted ((done ++ groups).map priorDeposit)) :
    Leads (groups.foldl recordGroup map) ((done ++ groups).map priorDeposit) := by
  induction groups generalizing done map with
  | nil =>
    rw [append_nil]
    exact leads
  | cons group rest ih =>
    have shifted : done ++ group :: rest = (done ++ [group]) ++ rest := by simp
    rw [shifted] at oneRooted ⊢
    have prefix_ : OneRooted ((done ++ [group]).map priorDeposit) := by
      rw [map_append] at oneRooted
      exact oneRooted.before
    exact ih (leads.recordGroup prefix_) oneRooted

theorem leads_prior {file : Option FindingGroupsFile}
    (oneRooted : OneRooted (((file.map (·.groups)).getD []).map priorDeposit)) :
    Leads (rootCauseByFindingId file)
      (((file.map (·.groups)).getD []).map priorDeposit) := by
  have start : Leads (fun _ => none) (([] : List FindingGroup).map priorDeposit) := by
    intro id root
    constructor
    · intro same
      cases same
    · intro given
      obtain ⟨entry, listed, -⟩ := given
      cases listed
  cases file with
  | none => exact start
  | some file => exact @leads_groups file.groups [] _ start oneRooted

end Prior

end CouncilKit.Repair
