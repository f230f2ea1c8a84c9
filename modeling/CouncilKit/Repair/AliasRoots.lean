import Mathlib
import CouncilKit.Repair.Adjudication

namespace CouncilKit.Repair

open Data Review AdjudicationInput List

/-- One step along `aliasOf` within a projection. -/
def Follows (items : List AdjudicatedItem) (item next : AdjudicatedItem) : Prop :=
  next ∈ items ∧ item.aliasOf = some next.sourceId

/-- Finitely many steps along `aliasOf` end at an item that is not aliased. -/
def Represented (items : List AdjudicatedItem) (item : AdjudicatedItem) : Prop :=
  ∃ last, Relation.ReflTransGen (Follows items) item last ∧ last.disposition ≠ .aliased

def Redirects (group : FindingGroup) (id : JsString) : Prop :=
  id ∈ group.aliases ∨ id ∈ group.findingIds ∧ id ≠ group.rootCauseId

theorem Redirects.named {group : FindingGroup} {id : JsString} (redirects : Redirects group id) :
    id ∈ group.named := by
  rcases redirects with listed | ⟨member, -⟩
  · exact mem_append_right _ listed
  · exact mem_append_left _ member

theorem mem_groupAliases {group : FindingGroup} {entry : AliasInput} :
    entry ∈ groupAliases group ↔
      Redirects group entry.fromId ∧ entry = ⟨entry.fromId, group.rootCauseId, group.basis⟩ := by
  simp only [groupAliases, mem_append, mem_map, mem_filter, decide_eq_true_eq]
  constructor
  · intro entry
    rcases entry with ⟨id, listed, rfl⟩ | ⟨id, member, rfl⟩
    · exact ⟨.inl listed, rfl⟩
    · exact ⟨.inr member, rfl⟩
  · rintro ⟨listed | member, same⟩
    · exact .inl ⟨entry.fromId, listed, same.symm⟩
    · exact .inr ⟨entry.fromId, member, same.symm⟩

namespace AdjudicationInput

variable {input : AdjudicationInput} {file : FindingGroupsFile} {row : LedgerFinding}
  {id : JsString} {isKnown : JsString → Bool}

theorem itemOf_aliased {found : AliasInput} (named : input.aliasFor row.id = some found) :
    (input.itemOf row).disposition = .aliased ∧ (input.itemOf row).aliasOf = some found.toId := by
  simp only [itemOf, itemFromFinding, named, and_self]

theorem aliasFor_of_aliased (aliased : (input.itemOf row).disposition = .aliased) :
    ∃ found, input.aliasFor row.id = some found := by
  cases named : input.aliasFor row.id with
  | some found => exact ⟨found, rfl⟩
  | none =>
    simp only [itemOf, itemFromFinding, named] at aliased
    split at aliased
    · contradiction
    · split at aliased
      · split at aliased <;> contradiction
      · simp only [rowDisposition] at aliased
        repeat' split at aliased
        all_goals contradiction

section

variable (grouped : input.findingGroups = some file) (alone : input.aliases = [])
include grouped alone

theorem aliasFor_isSome : (∃ found, input.aliasFor id = some found) ↔
    ∃ group ∈ file.groups, Redirects group id := by
  constructor
  · rintro ⟨found, named⟩
    obtain ⟨listed, same⟩ := lookupLast_some named
    simp only [adjudicationInputsFromGroups, grouped, alone, append_nil,
      mem_flatMap] at listed
    obtain ⟨group, member, entry⟩ := listed
    exact ⟨group, member, same ▸ (mem_groupAliases.mp entry).1⟩
  · rintro ⟨group, member, redirects⟩
    cases named : input.aliasFor id with
    | some found => exact ⟨found, rfl⟩
    | none =>
      refine absurd rfl (lookupLast_none.mp named ⟨id, group.rootCauseId, group.basis⟩ ?_)
      simp only [adjudicationInputsFromGroups, grouped, alone, append_nil, mem_flatMap]
      exact ⟨group, member, mem_groupAliases.mpr ⟨redirects, rfl⟩⟩

theorem aliasFor_root (wellGrouped : WellGrouped file.groups isKnown) {group : FindingGroup}
    {found : AliasInput} (member : group ∈ file.groups) (redirects : Redirects group id)
    (named : input.aliasFor id = some found) : found.toId = group.rootCauseId := by
  obtain ⟨listed, same⟩ := lookupLast_some named
  simp only [adjudicationInputsFromGroups, grouped, alone, append_nil,
    mem_flatMap] at listed
  obtain ⟨source, sourceMember, entry⟩ := listed
  obtain ⟨sourceRedirects, fields⟩ := mem_groupAliases.mp entry
  rw [fields]
  exact wellGrouped.single source sourceMember group member id
    (same ▸ sourceRedirects.named) redirects.named

omit grouped alone in
theorem root_redirected (wellGrouped : WellGrouped file.groups isKnown) {group other : FindingGroup}
    (member : group ∈ file.groups) (otherMember : other ∈ file.groups)
    (redirects : Redirects other group.rootCauseId) :
    other.rootCauseId = group.rootCauseId ∧ group.rootCauseId ∈ other.aliases := by
  have root := wellGrouped.rooted group member other otherMember redirects.named
  rcases redirects with listed | ⟨-, different⟩
  · exact ⟨root, listed⟩
  · exact absurd root.symm different

end

end AdjudicationInput

variable {input : AdjudicationInput} {file : FindingGroupsFile}

theorem self_alias_trapped {root : JsString} {item last : AdjudicatedItem} {found : AliasInput}
    (named : input.aliasFor root = some found) (self : found.toId = root)
    (member : item ∈ (projectAdjudication input).items) (source : item.sourceId = root)
    (path : Relation.ReflTransGen (Follows (projectAdjudication input).items) item last) :
    last.disposition = .aliased := by
  rw [projectAdjudication_items] at member path
  have trapped : last ∈ input.findings.map input.itemOf ∧ last.sourceId = root := by
    induction path with
    | refl => exact ⟨member, source⟩
    | tail _ step ih =>
      obtain ⟨row, -, rfl⟩ := mem_map.mp ih.1
      have id : row.id = root := (itemFromFinding_sourceId ..).symm.trans ih.2
      have target := (itemOf_aliased (id ▸ named)).2
      rw [step.2, self] at target
      exact ⟨step.1, Option.some.inj target⟩
  obtain ⟨row, -, rfl⟩ := mem_map.mp trapped.1
  have id : row.id = root := (itemFromFinding_sourceId ..).symm.trans trapped.2
  exact (itemOf_aliased (id ▸ named)).1

/-- For a sidecar the validation accepts, every aliased item is represented
exactly when each root that ledger rows are sent to is itself a ledger row and
is no alias of its own groups. -/
theorem aliased_represented_iff (grouped : input.findingGroups = some file) (alone : input.aliases = [])
    (accepted : validateFindingGroups file
      (some fun id => (input.findings.map (·.id)).contains id) = .ok ()) :
    (∀ item ∈ (projectAdjudication input).items, item.disposition = .aliased →
        Represented (projectAdjudication input).items item) ↔
      ∀ group ∈ file.groups, (∃ row ∈ input.findings, Redirects group row.id) →
        (∃ row ∈ input.findings, row.id = group.rootCauseId) ∧
        ∀ other ∈ file.groups, other.rootCauseId = group.rootCauseId →
          group.rootCauseId ∉ other.aliases := by
  have wellGrouped := validateFindingGroups_wellGrouped accepted
  constructor
  · rintro represented group member ⟨row, rowMember, redirects⟩
    obtain ⟨found, named⟩ :=
      (aliasFor_isSome grouped alone).mpr ⟨group, member, redirects⟩
    obtain ⟨aliased, target⟩ := itemOf_aliased named
    rw [aliasFor_root grouped alone wellGrouped member redirects named] at target
    have inItems : input.itemOf row ∈ (projectAdjudication input).items := by
      rw [projectAdjudication_items]
      exact mem_map_of_mem rowMember
    obtain ⟨last, path, ended⟩ := represented _ inItems aliased
    rcases path.cases_head with rfl | ⟨next, step, rest⟩
    · exact absurd aliased ended
    · have source : next.sourceId = group.rootCauseId :=
        Option.some.inj (step.2.symm.trans target)
      refine ⟨?_, ?_⟩
      · have nextMember := step.1
        rw [projectAdjudication_items] at nextMember
        obtain ⟨rootRow, rootMember, rfl⟩ := mem_map.mp nextMember
        exact ⟨rootRow, rootMember, (itemFromFinding_sourceId ..).symm.trans source⟩
      · intro other otherMember sameRoot listed
        have redirected : Redirects other group.rootCauseId := .inl listed
        obtain ⟨self, selfNamed⟩ :=
          (aliasFor_isSome grouped alone).mpr ⟨other, otherMember, redirected⟩
        have loop := aliasFor_root grouped alone wellGrouped otherMember
          redirected selfNamed
        exact ended (self_alias_trapped selfNamed (loop.trans sameRoot) step.1 source rest)
  · intro condition item inItems aliased
    have itemMember := inItems
    rw [projectAdjudication_items] at itemMember
    obtain ⟨row, rowMember, rfl⟩ := mem_map.mp itemMember
    obtain ⟨found, named⟩ := aliasFor_of_aliased aliased
    obtain ⟨group, member, redirects⟩ :=
      (aliasFor_isSome grouped alone).mp ⟨found, named⟩
    obtain ⟨⟨rootRow, rootMember, rootId⟩, unlisted⟩ := condition group member ⟨row, rowMember, redirects⟩
    have target := (itemOf_aliased named).2
    rw [aliasFor_root grouped alone wellGrouped member redirects named] at target
    refine ⟨input.itemOf rootRow, .single ⟨?_, ?_⟩, ?_⟩
    · rw [projectAdjudication_items]
      exact mem_map_of_mem rootMember
    · rw [target, itemOf, itemFromFinding_sourceId, rootId]
    · intro rootAliased
      obtain ⟨other, otherMember, rootRedirected⟩ :=
        (aliasFor_isSome grouped alone).mp
          (aliasFor_of_aliased rootAliased)
      rw [rootId] at rootRedirected
      obtain ⟨sameRoot, listed⟩ := root_redirected wellGrouped
        member otherMember rootRedirected
      exact unlisted other otherMember sameRoot listed

def openFinding (id : JsString) : LedgerFinding where
  id
  severity := .major
  status := .open
  title := js "lost write"
  text := js "lost write"
  source := .consensus
  reviewer := none
  files := []

/-- One finding, with a group for each pair of a member list and an alias list. -/
def singleRootInput (members aliases : List JsString) : AdjudicationInput where
  sourceRunId := js "ck-review-1"
  candidateSha := List.replicate 40 0x61
  findings := [openFinding (js "F-1"), openFinding (js "F-2")]
  findingGroups := some ⟨[⟨js "F-1", members, aliases, js "same line", none⟩]⟩

theorem aliased_represented_two :
    (∀ item ∈ (projectAdjudication (singleRootInput [js "F-1", js "F-2"] [])).items,
      item.disposition = .aliased →
      Represented (projectAdjudication (singleRootInput [js "F-1", js "F-2"] [])).items item) ↔
    ∀ group ∈ [(⟨js "F-1", [js "F-1", js "F-2"], [], js "same line", none⟩ : FindingGroup)],
      (∃ row ∈ (singleRootInput [js "F-1", js "F-2"] []).findings, Redirects group row.id) →
      (∃ row ∈ (singleRootInput [js "F-1", js "F-2"] []).findings, row.id = group.rootCauseId) ∧
      ∀ other ∈ [(⟨js "F-1", [js "F-1", js "F-2"], [], js "same line", none⟩ : FindingGroup)],
        other.rootCauseId = group.rootCauseId → group.rootCauseId ∉ other.aliases :=
  aliased_represented_iff rfl rfl (by decide)

/-- A root listed among its own aliases passes the validation and is aliased to itself. -/
theorem aliased_self_unrepresented :
    let input := singleRootInput [js "F-1"] [js "F-1"]
    validateFindingGroups ⟨[⟨js "F-1", [js "F-1"], [js "F-1"], js "same line", none⟩]⟩
        (some fun id => (input.findings.map (·.id)).contains id) = .ok () ∧
      ∃ item ∈ (projectAdjudication input).items, item.disposition = .aliased ∧
        ¬ Represented (projectAdjudication input).items item := by
  intro input
  refine ⟨by decide, input.itemOf (openFinding (js "F-1")), ?_, rfl, ?_⟩
  · rw [projectAdjudication_items]
    exact mem_cons_self
  · rintro ⟨last, path, ended⟩
    have member : input.itemOf (openFinding (js "F-1")) ∈ (projectAdjudication input).items := by
      rw [projectAdjudication_items]
      exact mem_cons_self
    have named : input.aliasFor (js "F-1") = some ⟨js "F-1", js "F-1", js "same line"⟩ := by decide
    exact ended (self_alias_trapped named rfl member rfl path)

end CouncilKit.Repair
