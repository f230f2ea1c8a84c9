import CouncilKit.Repair.RepairRoles

namespace CouncilKit.Repair

open Data JsString List Unicode Json Except

def Named (roles : RoleOverrides) : Prop :=
  ∀ row ∈ roles.rows, isNamed row.2.runtime = true ∨ isNamed row.2.model = true

theorem seatNamed_name (seat : RepairSeat) : seatNamed seat.name = some seat := by
  cases seat <;> rfl

theorem name_injective {first second : RepairSeat} (same : first.name = second.name) : first = second := by
  have named := seatNamed_name first
  rw [same, seatNamed_name] at named
  exact (Option.some.inj named).symm

theorem parseEntry_written (roles : RoleOverrides) (seat : RepairSeat) (entry : RepairRoleOverride) :
    parseEntry roles (seat.name, overrideJson entry) =
      if !isNamed entry.runtime && !isNamed entry.model then
        .error (js "席位 " ++ seat.name ++ js " 缺少 runtime 或 model。")
      else .ok (roles.put (seat, entry)) := by
  have names : ([(js "runtime", entry.runtime.map string),
      (js "model", entry.model.map .string)].map (·.1)).Nodup := of_decide_eq_true rfl
  have runtime := memberOf_objectOf names mem_cons_self
  have model := memberOf_objectOf names (mem_cons_of_mem _ mem_cons_self)
  have text (value : Option JsString) : stringOrNull (value.map .string) = value := by
    cases value <;> rfl
  rw [parseEntry, seatNamed_name]
  change (if (!isNamed (stringOrNull (memberOf (objectOf _) (js "runtime"))) &&
    !isNamed (stringOrNull (memberOf (objectOf _) (js "model")))) = true then _ else
      ok (roles.put (seat, RepairRoleOverride.mk (stringOrNull (memberOf (objectOf _) (js "runtime")))
        (stringOrNull (memberOf (objectOf _) (js "model")))))) = _
  rw [runtime, model, text, text]

variable {roles : RoleOverrides}

theorem parseEntry_override {seat : RepairSeat} {entry : RepairRoleOverride}
    (named : isNamed entry.runtime = true ∨ isNamed entry.model = true) :
    parseEntry roles (seat.name, overrideJson entry) = .ok (roles.put (seat, entry)) := by
  rw [parseEntry_written, if_neg]
  rw [Bool.and_eq_true, Bool.not_eq_true', Bool.not_eq_true']
  intro neither
  obtain some_ | some_ := named
  · rw [neither.1] at some_
    cases some_
  · rw [neither.2] at some_
    cases some_

theorem foldlM_parseEntry {rest : List (RepairSeat × RepairRoleOverride)} {done : RoleOverrides}
    (distinct : ((done.rows ++ rest).map (·.1)).Nodup)
    (named : ∀ row ∈ rest, isNamed row.2.runtime = true ∨ isNamed row.2.model = true) :
    (rest.map fun entry => (entry.1.name, overrideJson entry.2)).foldlM parseEntry done =
      .ok ⟨done.rows ++ rest, distinct⟩ := by
  induction rest generalizing done with
  | nil =>
    refine congrArg ok (Table.ext_rows ?_)
    exact (append_nil _).symm
  | cons row rest ih =>
    obtain ⟨here, later⟩ := forall_mem_cons.mp named
    have absent : done.get row.1 = none := by
      refine Table.get_eq_none.mpr fun other member same => ?_
      rw [map_append, nodup_append] at distinct
      exact distinct.2.2 other.1 (mem_map_of_mem member) row.1
        (mem_map_of_mem mem_cons_self) same
    have rows := @Table.rows_put _ _ _ _ done row absent
    have next : ((done.put row).rows ++ rest).map (·.1) = (done.rows ++ row :: rest).map (·.1) := by
      rw [rows, append_assoc]
      rfl
    rw [map_cons, foldlM_cons, parseEntry_override here]
    refine (ih (next ▸ distinct) later).trans (congrArg ok (Table.ext_rows ?_))
    change (done.put row).rows ++ rest = done.rows ++ row :: rest
    rw [rows, append_assoc]
    rfl

theorem parse_rolesValue (named : Named roles) : parseRoleOverrides (some (rolesValue roles)) = .ok roles :=
  @foldlM_parseEntry roles.rows .empty roles.unique named

theorem eq_of_parse {parsed : RoleOverrides}
    (accepted : parseRoleOverrides (some (rolesValue roles)) = .ok parsed) : parsed = roles := by
  have turns := foldlM_invariant (fun done _ => ∀ (seat : RepairSeat) entry, (seat.name, overrideJson entry) ∈ done →
      isNamed entry.runtime = true ∨ isNamed entry.model = true)
    (fun named turned seat entry member => ?_) (fun _ _ member => by cases member) accepted
  · have named : Named roles := fun row member =>
      turns row.1 row.2 (mem_map.mpr ⟨row, member, rfl⟩)
    rw [parse_rolesValue named] at accepted
    exact (ok.inj accepted).symm
  · obtain before | now := mem_append.mp member
    · exact named seat entry before
    · rw [← mem_singleton.mp now, parseEntry_written] at turned
      split at turned
      · cases turned
      · rename_i some_
        simpa [Bool.and_eq_true, or_iff_not_imp_left] using some_

theorem memberOf_putMember (members : List (JsString × Json)) (entry : JsString × Json) :
    memberOf (.object (putMember members entry)) entry.1 = some entry.2 := by
  change ((putMember members entry).find? (·.1 = entry.1)).map (·.2) = some entry.2
  unfold putMember
  split
  · rename_i present
    obtain ⟨member, among, same⟩ := any_eq_true.mp present
    have found : (members.map fun member => if member.1 = entry.1 then entry else member).find?
        (·.1 = entry.1) = some entry := by
      induction members with
      | nil => cases among
      | cons first rest ih =>
        by_cases here : first.1 = entry.1
        · rw [map_cons, if_pos here]
          exact List.find?_cons_of_pos (by exact decide_eq_true rfl)
        · rw [map_cons, if_neg here, List.find?_cons_of_neg (by simpa using here)]
          obtain now | later := mem_cons.mp among
          · rw [now] at same
            exact absurd (of_decide_eq_true same) here
          · exact ih (any_eq_true.mpr ⟨member, later, same⟩) later
    rw [found]
    rfl
  · rename_i absent
    have none_ : members.find? (·.1 = entry.1) = none := by
      rw [List.find?_eq_none]
      intro member among same
      exact absent (any_eq_true.mpr ⟨member, among, same⟩)
    rw [List.find?_append, none_, Option.none_or]
    have found : [entry].find? (·.1 = entry.1) = some entry :=
      List.find?_cons_of_pos (by exact decide_eq_true rfl)
    rw [found]
    rfl

theorem writable_putMember {members : List (JsString × Json)} {entry : JsString × Json}
    (writable : (object members).Writable) (value : entry.2.Writable) :
    (object (putMember members entry)).Writable := by
  obtain ⟨names, values⟩ := writable
  rw [writableMembers_iff] at values
  unfold putMember
  split
  · refine ⟨?_, writableMembers_iff.mpr fun member among => ?_⟩
    · have kept : (members.map fun member => if member.1 = entry.1 then entry else member).map (·.1) =
          members.map (·.1) := by
        rw [map_map]
        refine map_congr_left fun member _ => ?_
        simp only [Function.comp_apply]
        split
        · rename_i same
          exact same.symm
        · rfl
      rwa [kept]
    · obtain ⟨old, listed, same⟩ := mem_map.mp among
      split at same
      · exact same ▸ value
      · exact same ▸ values old listed
  · rename_i absent
    refine ⟨?_, writableMembers_iff.mpr fun member among => ?_⟩
    · rw [map_append, nodup_append]
      refine ⟨names, nodup_singleton _, fun name old other new same => ?_⟩
      obtain ⟨member, listed, named⟩ := mem_map.mp old
      rw [map_singleton, mem_singleton] at new
      exact absent (any_eq_true.mpr ⟨member, listed, decide_eq_true (by rw [named, same, new])⟩)
    · obtain old | new := mem_append.mp among
      · exact values member old
      · exact mem_singleton.mp new ▸ value

theorem writable_rolesValue (roles : RoleOverrides) : (rolesValue roles).Writable := by
  refine ⟨?_, writableMembers_iff.mpr fun member among => ?_⟩
  · rw [map_map]
    have names := roles.unique.map fun _ _ => name_injective
    rwa [map_map] at names
  · obtain ⟨row, _, same⟩ := mem_map.mp among
    rw [← same]
    refine writable_objectOf (of_decide_eq_true rfl) fun field listed value some_ => ?_
    have text {content : Option JsString} (found : content.map string = some value) : value.Writable := by
      obtain ⟨_, _, same⟩ := Option.map_eq_some_iff.mp found
      cases same
      trivial
    obtain same | same := mem_pair.mp listed
    · rw [same] at some_
      exact text some_
    · rw [same] at some_
      exact text some_

theorem parse_squadBridgeText {file : List (JsString × Json)} (writable : (object file).Writable) :
    parse (squadBridgeText file) = some (.object file) := by
  apply parse_indented
  · exact List.all_eq_true.mp (by decide)
  · exact List.all_eq_true.mp (by decide)
  · exact writable

section Resolve

variable [Unicode]

structure Resolves (input : RolesInput) (overrides : RoleOverrides) (cursorDefault : JsString)
    (overridden roles : RepairRoles) : Prop where
  parsed : parseRoleOverrides input.roles = .ok overrides
  looped : ∃ initial, overrideSeats overrides cursorDefault initial = .ok overridden
  followed : roles = followOrchestrator overrides .coder (followOrchestrator overrides .plannerA overridden)
  accepted : ∃ orchestratorRuntime, rolesRefusal orchestratorRuntime roles = none

theorem resolves_of_ok {input : RolesInput} {resolved : ResolvedRepairRoles}
    (ok : resolveRepairRoles input = .ok resolved) :
    ∃ overrides cursorDefault overridden,
      Resolves input overrides cursorDefault overridden resolved.roles := by
  simp only [resolveRepairRoles, except_bind_ok] at ok
  obtain ⟨orchestratorRuntime, _, cursorDefault, _, overrides, parsed, overridden, looped, ended⟩ := ok
  split at ended
  · cases ended
  · rename_i accepted
    cases ended
    exact ⟨overrides, cursorDefault, overridden, parsed, ⟨_, looped⟩, rfl, orchestratorRuntime, accepted⟩

/-- The seats that share the main session, and those that have a session of their own. -/
structure Separated (roles : RepairRoles) : Prop where
  builders : ∀ seat ∈ BUILDER_SEATS, (roles seat).runtime = (roles .orchestrator).runtime ∧
    (roles seat).model = (roles .orchestrator).model ∧ (roles seat).mode = some .mainSession
  independent : ∀ seat ∈ INDEPENDENT_SEATS, (roles seat).mode = none

omit [Unicode] in
theorem separated_of_accepted {orchestratorRuntime : SquadOrchestratorRuntime} {roles : RepairRoles}
    (accepted : rolesRefusal orchestratorRuntime roles = none) : Separated roles := by
  unfold rolesRefusal at accepted
  dsimp only at accepted
  split at accepted
  · cases accepted
  rename_i builders
  split at accepted
  · cases accepted
  rename_i main
  split at accepted
  · cases accepted
  split at accepted
  · cases accepted
  rename_i refused
  have mode (mode_ : Option SeatMode) (other : mode_ ≠ some .mainSession) : mode_ = none := by
    cases mode_ with
    | none => rfl
    | some mode_ => cases mode_; exact absurd rfl other
  constructor
  · simp only [any_cons, any_nil, Bool.or_false, Bool.or_eq_true, decide_eq_true_eq, not_or,
      not_not] at builders main
    intro seat member
    simp only [BUILDER_SEATS, mem_cons, not_mem_nil, or_false] at member
    obtain rfl | rfl | rfl := member
    · exact ⟨rfl, rfl, main⟩
    · exact ⟨builders.1.1.1, builders.1.1.2, builders.1.2⟩
    · exact ⟨builders.2.1.1, builders.2.1.2, builders.2.2⟩
  · intro seat member
    apply mode
    intro main
    have none_ := List.findSome?_eq_none_iff.mp refused seat member
    rw [if_pos main] at none_
    cases none_

variable {overrides : RoleOverrides} {cursorDefault : JsString} {seat : RepairSeat}
  {entry : RepairRoleOverride}

theorem overrideSeats_of {initial final : RepairRoles}
    (looped : overrideSeats overrides cursorDefault initial = .ok final)
    (found : overrides.of seat = some entry) :
    parseSeatOverride seat entry cursorDefault = .ok (final seat) := by
  have all : seat ∈ REPAIR_SEATS := by cases seat <;> decide
  refine foldlM_invariant (fun done roles => ∀ seat ∈ done, ∀ entry, overrides.of seat = some entry →
      parseSeatOverride seat entry cursorDefault = .ok (roles seat))
    (fun passed turned other member entry found => ?_) (forall_mem_nil _) looped seat all entry found
  rename_i done roles turn next
  split at turned
  · rename_i none_
    cases turned
    obtain before | now := mem_append.mp member
    · exact passed other before entry found
    · rw [mem_singleton.mp now, none_] at found
      cases found
  · rename_i chosen some_
    cases parsed : parseSeatOverride turn chosen cursorDefault with
    | error reason =>
      rw [parsed] at turned
      cases turned
    | ok role =>
      rw [parsed] at turned
      cases turned
      by_cases same : other = turn
      · subst same
        rw [some_] at found
        cases found
        rw [Function.update_self, parsed]
      · rw [Function.update_of_ne same]
        obtain before | now := mem_append.mp member
        · exact passed other before entry found
        · exact absurd (mem_singleton.mp now) same

theorem parseSeatOverride_model
    {role : RepairRoleBinding} (parsed : parseSeatOverride seat entry cursorDefault = .ok role)
    (blank : (entry.runtime.getD []).trim = []) (model : (entry.model.getD []).trim ≠ []) :
    ∃ pinned, canonicalizeRepairModel (some (entry.model.getD []).trim) = .ok pinned ∧
      role = decorateSeat seat .cursor pinned := by
  have lower : toLowerCase ([] : JsString) = [] := toLowerCase_ascii [] rfl
  unfold parseSeatOverride at parsed
  dsimp only at parsed
  rw [blank, lower, if_pos rfl, except_bind_ok] at parsed
  obtain ⟨_, same, parsed⟩ := parsed
  cases same
  rw [if_neg (fun grok => by cases grok.2), if_neg (fun codex => by cases codex.2), if_neg model] at parsed
  split at parsed
  · cases parsed
  · rw [if_pos rfl] at parsed
    cases pinned : canonicalizeRepairModel (some (entry.model.getD []).trim) with
    | error reason =>
      rw [pinned] at parsed
      cases parsed
    | ok pinned_ =>
      rw [pinned] at parsed
      cases parsed
      exact ⟨pinned_, rfl, rfl⟩

omit [Unicode] in
theorem follow_of (found : overrides.of seat = some entry) (roles : RepairRoles) :
    followOrchestrator overrides seat roles = roles := by
  rw [followOrchestrator, if_neg]
  rw [found]
  nofun

theorem Resolves.builders {input : RolesInput}
    {overridden roles : RepairRoles} (resolves : Resolves input overrides cursorDefault overridden roles)
    (found : ∀ seat ∈ BUILDER_SEATS, overrides.of seat = some entry)
    (blank : (entry.runtime.getD []).trim = []) (model : (entry.model.getD []).trim ≠ []) :
    ∃ pinned, canonicalizeRepairModel (some (entry.model.getD []).trim) = .ok pinned ∧
      ∀ seat ∈ BUILDER_SEATS, roles seat = decorateSeat seat .cursor pinned := by
  obtain ⟨initial, looped⟩ := resolves.looped
  have followed := resolves.followed
  rw [follow_of (found .coder (by decide)), follow_of (found .plannerA (by decide))] at followed
  have seated (seat : RepairSeat) (member : seat ∈ BUILDER_SEATS) :=
    parseSeatOverride_model (overrideSeats_of looped (found seat member)) blank model
  obtain ⟨pinned, canonical, _⟩ := seated .orchestrator (by decide)
  refine ⟨pinned, canonical, fun seat member => ?_⟩
  obtain ⟨again, same, role⟩ := seated seat member
  rw [canonical] at same
  cases same
  rw [followed, role]

variable {current : SquadBridgeRow} {updates : RepairSeat → Option RepairRoleOverride}
  {orchestratorRuntime : Option JsString} {applied : AppliedRepairRoles}

structure Applies (current : SquadBridgeRow) (updates : RepairSeat → Option RepairRoleOverride)
    (orchestratorRuntime : Option JsString) (applied : AppliedRepairRoles) (roles : RoleOverrides) :
    Prop where
  updated : updatedRoles ((squadBridgeFileFromRow current).roles.getD .empty) updates = .ok roles
  file : applied.file = putMember current.val (js "roles", rolesValue roles)
  resolved : resolveRepairRoles {
    orchestratorRuntime := orchestratorRuntime <|>
      stringOrNull (memberOf (.object applied.file) (js "orchestratorRuntime"))
    cursorModel := stringOrNull (memberOf (.object applied.file) (js "model"))
    roles := some (rolesValue roles) } = .ok applied.resolved

theorem applies_of_ok (ok : applyRepairRoleUpdates current updates orchestratorRuntime = .ok applied) :
    ∃ roles, Applies current updates orchestratorRuntime applied roles := by
  simp only [applyRepairRoleUpdates, except_bind_ok] at ok
  obtain ⟨roles, updated, resolved, reported, ended⟩ := ok
  cases ended
  exact ⟨roles, updated, rfl, reported⟩

theorem Applies.reread {roles : RoleOverrides}
    (applies : Applies current updates orchestratorRuntime applied roles) :
    ∃ file, parseSquadBridgeText (squadBridgeText applied.file) = (file, none) ∧
      resolveRepairRoles {
        orchestratorRuntime := orchestratorRuntime <|> file.orchestratorRuntime
        cursorModel := file.model
        roles := file.roles.map rolesValue } = .ok applied.resolved := by
  have writable : (object applied.file).Writable := by
    rw [applies.file]
    exact writable_putMember current.property (writable_rolesValue roles)
  have held : memberOf (.object applied.file) (js "roles") = some (rolesValue roles) := by
    rw [applies.file]
    exact memberOf_putMember current.val (js "roles", rolesValue roles)
  obtain ⟨parsed, _, _, resolves⟩ := resolves_of_ok applies.resolved
  have accepted : parseRoleOverrides (some (rolesValue roles)) = .ok parsed := resolves.parsed
  have same := eq_of_parse accepted
  subst same
  refine ⟨bridgeFields (.object applied.file) (some parsed), ?_, applies.resolved⟩
  rw [parseSquadBridgeText, parse_squadBridgeText writable]
  dsimp only
  rw [held, accepted]

section

omit [Unicode]

theorem of_put (roles : RoleOverrides) (seat other : RepairSeat) (entry : RepairRoleOverride) :
    RoleOverrides.of (roles.put (seat, entry)) other = if other = seat then some entry else roles.of other := by
  rw [RoleOverrides.of, Table.get_put]
  split
  · rfl
  · rfl

theorem updatedRoles_builders {roles updated : RoleOverrides}
    (ok : updatedRoles roles updates = .ok updated) (chosen : builderUpdateOf updates = some entry) :
    ∀ seat ∈ BUILDER_SEATS, updated.of seat = some entry := by
  simp only [updatedRoles, chosen] at ok
  split at ok
  · cases ok
  · cases ok
    intro seat member
    simp only [BUILDER_SEATS, mem_cons, not_mem_nil, or_false] at member
    -- No independent seat is a builder seat, so the last loop passes the builders by.
    have passes (roles : RoleOverrides) {other : RepairSeat} (apart : seat ≠ other) :
        (putChosen updates roles other).of seat = roles.of seat := by
      unfold putChosen
      split
      · rw [of_put, if_neg apart]
      · rfl
    simp only [INDEPENDENT_SEATS, BUILDER_SEATS, foldl_cons, foldl_nil]
    obtain rfl | rfl | rfl := member
    · rw [passes _ (by decide), passes _ (by decide), passes _ (by decide), of_put, of_put, of_put]
      rfl
    · rw [passes _ (by decide), passes _ (by decide), passes _ (by decide), of_put, of_put]
      rfl
    · rw [passes _ (by decide), passes _ (by decide), passes _ (by decide), of_put]
      rfl

theorem builderUpdateOf_only (member : seat ∈ BUILDER_SEATS) (found : updates seat = some entry)
    (only : ∀ other ∈ BUILDER_SEATS, ∀ another, updates other = some another → another = entry) :
    builderUpdateOf updates = some entry := by
  rw [builderUpdateOf]
  cases orchestrator : updates .orchestrator with
  | some another => rw [only .orchestrator (by decide) another orchestrator]; rfl
  | none =>
    cases planner : updates .plannerA with
    | some another => rw [only .plannerA (by decide) another planner]; rfl
    | none =>
      simp only [BUILDER_SEATS, mem_cons, not_mem_nil, or_false] at member
      obtain rfl | rfl | rfl := member
      · rw [orchestrator] at found
        cases found
      · rw [planner] at found
        cases found
      · exact found

end

end Resolve

/-- Updates of the seats, as far as they are accepted. -/
theorem repair_roles [Unicode] (current : SquadBridgeRow)
    (updates : RepairSeat → Option RepairRoleOverride) (orchestratorRuntime : Option JsString)
    {applied : AppliedRepairRoles}
    (ok : applyRepairRoleUpdates current updates orchestratorRuntime = .ok applied) :
    (∀ seat ∈ BUILDER_SEATS,
      (applied.resolved.roles seat).runtime = (applied.resolved.roles .orchestrator).runtime ∧
      (applied.resolved.roles seat).model = (applied.resolved.roles .orchestrator).model ∧
      (applied.resolved.roles seat).mode = some .mainSession) ∧
    (∀ seat ∈ INDEPENDENT_SEATS, (applied.resolved.roles seat).mode = none) ∧
    (∃ file, parseSquadBridgeText (squadBridgeText applied.file) = (file, none) ∧
      resolveRepairRoles {
        orchestratorRuntime := orchestratorRuntime <|> file.orchestratorRuntime
        cursorModel := file.model
        roles := file.roles.map rolesValue } = .ok applied.resolved) ∧
    ∀ seat ∈ BUILDER_SEATS, ∀ update, updates seat = some update →
      (∀ other ∈ BUILDER_SEATS, ∀ another, updates other = some another → another = update) →
      (update.runtime.getD []).trim = [] → (update.model.getD []).trim ≠ [] →
      ∃ model, canonicalizeRepairModel (some (update.model.getD []).trim) = .ok model ∧
        ∀ builder ∈ BUILDER_SEATS, applied.resolved.roles builder = decorateSeat builder .cursor model := by
  obtain ⟨roles, applies⟩ := applies_of_ok ok
  obtain ⟨parsed, _, _, resolves⟩ := resolves_of_ok applies.resolved
  obtain ⟨_, accepted⟩ := resolves.accepted
  have separated := separated_of_accepted accepted
  refine ⟨separated.builders, separated.independent, applies.reread, ?_⟩
  intro seat member update found only blank model
  have same : parsed = roles := eq_of_parse resolves.parsed
  have built := updatedRoles_builders applies.updated (builderUpdateOf_only member found only)
  exact resolves.builders (same ▸ built) blank model

def noFile : SquadBridgeRow := ⟨[], nodup_nil, trivial⟩

/-- `repair roles set --orchestrator " :composer-2.5"` -/
def orchestratorModel : RepairSeat → Option RepairRoleOverride
  | .orchestrator => some { runtime := some [], model := some (js "composer-2.5") }
  | _ => none

/-- `repair roles set --planner-b cursor:composer-2.5` -/
def secondPlanner : RepairSeat → Option RepairRoleOverride
  | .plannerB => some { runtime := some (js "cursor"), model := some (js "composer-2.5") }
  | _ => none

theorem repair_roles_model : ∃ applied,
    @applyRepairRoleUpdates ascii noFile orchestratorModel none = .ok applied ∧
    (applied.resolved.roles .coder).model = js "composer-2.5" ∧
    (applied.resolved.roles .reviewer).mode = none := by
  cases run : @applyRepairRoleUpdates ascii noFile orchestratorModel none with
  | error reason =>
    have ok : (@applyRepairRoleUpdates ascii noFile orchestratorModel none).toBool = true := by
      decide +kernel
    rw [run] at ok
    cases ok
  | ok applied =>
    obtain ⟨builders, independent, _, named⟩ := @repair_roles ascii noFile orchestratorModel none _ run
    have only : ∀ other ∈ BUILDER_SEATS, ∀ another, orchestratorModel other = some another →
        another = { runtime := some [], model := some (js "composer-2.5") } := by
      intro other member another found
      simp only [BUILDER_SEATS, mem_cons, not_mem_nil, or_false] at member
      obtain rfl | rfl | rfl := member
      · exact (Option.some.inj found).symm
      · cases found
      · cases found
    obtain ⟨model, canonical, bound⟩ := named .orchestrator (by decide) _ rfl only (by decide) (by decide)
    have pinned : (@canonicalizeRepairModel ascii (some (js "composer-2.5").trim)).toOption =
        some (js "composer-2.5") := by decide +kernel
    have same : model = js "composer-2.5" := by
      have canonical : @canonicalizeRepairModel ascii (some (js "composer-2.5").trim) = .ok model :=
        canonical
      rw [canonical] at pinned
      exact Option.some.inj pinned
    exact ⟨applied, rfl, by rw [bound .coder (by decide), same]; rfl, independent .reviewer (by decide)⟩

/-- The reviewer of the default roles has the runtime and the model of the main session. -/
theorem reviewer_shares_model : ∃ applied,
    @applyRepairRoleUpdates ascii noFile secondPlanner none = .ok applied ∧
    (applied.resolved.roles .reviewer).runtime = (applied.resolved.roles .orchestrator).runtime ∧
    (applied.resolved.roles .reviewer).model = (applied.resolved.roles .orchestrator).model := by
  cases run : @applyRepairRoleUpdates ascii noFile secondPlanner none with
  | error reason =>
    have ok : (@applyRepairRoleUpdates ascii noFile secondPlanner none).toBool = true := by
      decide +kernel
    rw [run] at ok
    cases ok
  | ok applied =>
    have shared : (@applyRepairRoleUpdates ascii noFile secondPlanner none).toOption.map
        (fun applied => ((applied.resolved.roles .reviewer).runtime, (applied.resolved.roles .reviewer).model,
          (applied.resolved.roles .orchestrator).runtime,
          (applied.resolved.roles .orchestrator).model)) =
        some (.cursor, CURSOR_REPAIR_MODEL, .cursor, CURSOR_REPAIR_MODEL) := by decide +kernel
    rw [run] at shared
    simp only [Except.toOption, Option.map_some, Option.some.injEq, Prod.mk.injEq] at shared
    obtain ⟨runtime, model, mainRuntime, mainModel⟩ := shared
    exact ⟨applied, rfl, runtime.trans mainRuntime.symm, model.trans mainModel.symm⟩

end CouncilKit.Repair
