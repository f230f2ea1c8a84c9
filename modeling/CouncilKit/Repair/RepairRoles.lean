import CouncilKit.Data.Fallible
import CouncilKit.Data.JsonIndent
import CouncilKit.Data.JsonRows
import CouncilKit.Data.Table

namespace CouncilKit.Repair

open Data JsString Regex

inductive RepairSeat where
  | orchestrator | plannerA | plannerB | coder | reviewer | verifier
deriving DecidableEq

inductive RepairRoleRuntime where
  | cursor | codex | grokb | grok
deriving DecidableEq

inductive SquadOrchestratorRuntime where
  | cursor | grokb | grok
deriving DecidableEq

inductive SeatMode where
  | mainSession
deriving DecidableEq

inductive Sandbox where
  | readOnly | workspaceWrite

inductive PermissionMode where
  | unrestrictedLocal

structure RepairRoleBinding where
  runtime : RepairRoleRuntime
  model : JsString
  mode : Option SeatMode := none
  sandbox : Option Sandbox := none
  permissionMode : Option PermissionMode := none

structure RepairRoleOverride where
  runtime : Option JsString
  model : Option JsString

def REPAIR_SEATS : List RepairSeat := [.orchestrator, .plannerA, .plannerB, .coder, .reviewer, .verifier]

def BUILDER_SEATS : List RepairSeat := [.orchestrator, .plannerA, .coder]

def INDEPENDENT_SEATS : List RepairSeat := [.plannerB, .reviewer, .verifier]

def RepairSeat.name : RepairSeat → JsString
  | .orchestrator => js "orchestrator"
  | .plannerA => js "planner_a"
  | .plannerB => js "planner_b"
  | .coder => js "coder"
  | .reviewer => js "reviewer"
  | .verifier => js "verifier"

def RepairRoleRuntime.name : RepairRoleRuntime → JsString
  | .cursor => js "cursor"
  | .codex => js "codex"
  | .grokb => js "grokb"
  | .grok => js "grok"

def seatNamed (name : JsString) : Option RepairSeat := REPAIR_SEATS.find? (·.name = name)

def runtimeNamed (name : JsString) : Option RepairRoleRuntime :=
  [RepairRoleRuntime.cursor, .codex, .grokb, .grok].find? (·.name = name)

def SquadOrchestratorRuntime.role : SquadOrchestratorRuntime → RepairRoleRuntime
  | .cursor => .cursor
  | .grokb => .grokb
  | .grok => .grok

def CURSOR_REPAIR_MODEL : JsString := js "grok-4.7[context=500k,reasoning_effort=xhigh,fast=false]"

def GROK_REPAIR_MODEL : JsString := js "grok-4.6"

def UNPINNED_MODELS : List JsString := [js "auto", js "default", js "configured", js "current"]

def DISPLAY_KEY : JsString := js "grok 4.7 500k extra high"

def BUILDER_MISMATCH : JsString :=
  js "连续 Builder（planner_a 与 coder）必须和 Orchestrator 使用同一 runtime/model，并续接同一 native session。独立 Builder 必须是显式 fresh session；当前控制器不实现该模式，已拒绝，避免把另一次会话伪装成连续 Builder。请同时保持这三席一致，或只改 orchestrator（planner_a 与 coder 会跟着走）。"

section Models

variable [Unicode]

/-- `text.toLowerCase().replace(/\s+/g, " ")` -/
def collapsed (text : JsString) : JsString :=
  replaceAll (plus space) (fun _ => js " ") (toLowerCase text)

/-- `/grok-4\.7/i` -/
def GROK_47 : Regex := caseless (js "grok-4.7")

/-- `/500\s*k/i` -/
def SIZE_500K : Regex :=
  all [lit (js "500"), star space, caseless (js "k")]

def canonicalizeRepairModel (configured : Option JsString) : Except JsString JsString :=
  let trimmed := (configured.getD []).trim
  if trimmed = [] then .ok CURSOR_REPAIR_MODEL
  else if toLowerCase trimmed ∈ UNPINNED_MODELS then
    .error (js "拒绝未钉死的模型「" ++ trimmed ++ js "」。不会自动改用其他模型，也不会把它当成 " ++ CURSOR_REPAIR_MODEL ++ js "。")
  else if trimmed = CURSOR_REPAIR_MODEL ∨ collapsed trimmed = DISPLAY_KEY then .ok CURSOR_REPAIR_MODEL
  else if test GROK_47 trimmed && test SIZE_500K trimmed then
    .error (js "500K Extra High 必须精确为 " ++ CURSOR_REPAIR_MODEL ++ js "，已拒绝「" ++ trimmed ++ js "」。")
  else if trimmed = js "grok-4.7-xhigh" ∨ collapsed trimmed = js "grok 4.7 extra high" then
    .ok (js "grok-4.7-xhigh")
  else .ok trimmed

end Models

/-- `Partial<Record<RepairSeat, RepairRoleOverride>>` -/
abbrev RoleOverrides := Table fun entry : RepairSeat × RepairRoleOverride => entry.1

def RoleOverrides.of (roles : RoleOverrides) (seat : RepairSeat) : Option RepairRoleOverride :=
  (roles.get seat).map (·.2)

def overrideJson (entry : RepairRoleOverride) : Json :=
  objectOf [(js "runtime", entry.runtime.map .string), (js "model", entry.model.map .string)]

def rolesValue (roles : RoleOverrides) : Json :=
  .object (roles.rows.map fun entry => (entry.1.name, overrideJson entry.2))

def isNamed (text : Option JsString) : Bool := text.any (· ≠ [])

def parseEntry (roles : RoleOverrides) (entry : JsString × Json) : Except JsString RoleOverrides :=
  match seatNamed entry.1 with
  | none => .error (js "未知修复席位「" ++ entry.1 ++ js "」。")
  | some seat =>
    match entry.2 with
    | .object _ =>
      let runtime := stringOrNull (memberOf entry.2 (js "runtime"))
      let model := stringOrNull (memberOf entry.2 (js "model"))
      if !isNamed runtime && !isNamed model then
        .error (js "席位 " ++ entry.1 ++ js " 缺少 runtime 或 model。")
      else .ok (roles.put (seat, { runtime, model }))
    | _ => .error (js "席位 " ++ entry.1 ++ js " 必须是 \x7b runtime, model \x7d。")

def parseRoleOverrides : Option Json → Except JsString RoleOverrides
  | none | some .null => .ok .empty
  | some (.object members) => members.foldlM parseEntry .empty
  | some _ => .error (js "squad-bridge.json roles 必须是对象。")

abbrev RepairRoles := RepairSeat → RepairRoleBinding

def decorateSeat (seat : RepairSeat) (runtime : RepairRoleRuntime) (model : JsString) : RepairRoleBinding :=
  match seat with
  | .orchestrator => { runtime, model, mode := some .mainSession }
  | .plannerA => { runtime, model, mode := some .mainSession, sandbox := some .readOnly }
  | .coder => { runtime, model, mode := some .mainSession, permissionMode := some .unrestrictedLocal }
  | .verifier => { runtime, model, sandbox := some .workspaceWrite }
  | .plannerB | .reviewer => { runtime, model, sandbox := some .readOnly }

def cursorRepairRoles (model : JsString) : RepairRoles
  | .orchestrator => { runtime := .cursor, model, mode := some .mainSession }
  | .plannerA => { runtime := .cursor, model, mode := some .mainSession, sandbox := some .readOnly }
  | .plannerB => { runtime := .cursor, model, sandbox := some .readOnly }
  | .coder => {
      runtime := .cursor, model, mode := some .mainSession
      permissionMode := some .unrestrictedLocal }
  | .reviewer => { runtime := .cursor, model, sandbox := some .readOnly }
  | .verifier => { runtime := .cursor, model, sandbox := some .workspaceWrite }

structure RolesInput where
  orchestratorRuntime : Option JsString
  cursorModel : Option JsString
  roles : Option Json

structure ResolvedRepairRoles where
  roles : RepairRoles
  emitContract : Bool
  orchestratorRuntime : SquadOrchestratorRuntime
  orchestratorModel : JsString
  hasRoleOverrides : Bool

section Resolve

variable [Unicode]

def parseSeatOverride (seat : RepairSeat) (entry : RepairRoleOverride) (cursorDefault : JsString) :
    Except JsString RepairRoleBinding := do
  let runtimeRaw := toLowerCase (entry.runtime.getD []).trim
  let builder := seat ∈ BUILDER_SEATS
  let runtime ← if runtimeRaw = [] then .ok RepairRoleRuntime.cursor
    else match runtimeNamed runtimeRaw with
      | some runtime => .ok runtime
      | none => .error (seat.name ++ js " 不支持 runtime「" ++ runtimeRaw ++ js "」。不会自动换成其他 runtime。")
  if ¬ builder ∧ runtime = .grok then
    .error (seat.name ++ js " 只支持 cursor、codex 或 grokb。已拒绝 " ++ runtime.name ++ js "，不会自动换成其他模型。")
  else if builder ∧ runtime = .codex then .error BUILDER_MISMATCH
  else
    let modelRaw := (entry.model.getD []).trim
    if modelRaw = [] then
      if runtime = .codex then
        .error (seat.name ++ js " 使用 codex 时必须写明 model。不会替它挑选模型。")
      else .ok (decorateSeat seat runtime (if runtime = .cursor then cursorDefault else GROK_REPAIR_MODEL))
    else if toLowerCase modelRaw ∈ UNPINNED_MODELS then
      .error (seat.name ++ js " 拒绝未钉死的模型「" ++ modelRaw ++ js "」。")
    else if runtime = .cursor then
      (canonicalizeRepairModel (some modelRaw)).map (decorateSeat seat runtime)
    else .ok (decorateSeat seat runtime modelRaw)

def requestedRuntime (raw : Option JsString) : Except JsString SquadOrchestratorRuntime :=
  let runtimeRaw := toLowerCase (raw.getD []).trim
  if runtimeRaw = js "cursor" then .ok .cursor
  else if runtimeRaw = js "grokb" then .ok .grokb
  else if runtimeRaw = js "grok" then .ok .grok
  else if runtimeRaw ≠ [] then
    .error (js "orchestratorRuntime 只能是 cursor、grokb 或 grok。不会自动改用其他 runtime。")
  else .ok .cursor

def overrideSeats (overrides : RoleOverrides) (cursorDefault : JsString) (roles : RepairRoles) :
    Except JsString RepairRoles :=
  REPAIR_SEATS.foldlM (fun roles seat => match overrides.of seat with
    | none => .ok roles
    | some entry => (parseSeatOverride seat entry cursorDefault).map (Function.update roles seat)) roles

def followOrchestrator (overrides : RoleOverrides) (seat : RepairSeat) (roles : RepairRoles) : RepairRoles :=
  if overrides.of seat = none then
    Function.update roles seat (decorateSeat seat (roles .orchestrator).runtime (roles .orchestrator).model)
  else roles

/-- What is refused of the roles once they are put together; `none` is no objection. -/
def rolesRefusal (orchestratorRuntime : SquadOrchestratorRuntime) (roles : RepairRoles) : Option JsString :=
  let orchestrator := roles .orchestrator
  if [RepairSeat.plannerA, .coder].any fun seat =>
      (roles seat).runtime ≠ orchestrator.runtime || (roles seat).model ≠ orchestrator.model ||
        (roles seat).mode ≠ some .mainSession then some BUILDER_MISMATCH
  else if orchestrator.mode ≠ some .mainSession then some (js "Orchestrator 必须使用 main-session。")
  else if orchestrator.runtime = .codex then
    some (js "Orchestrator 只支持 cursor、grokb 或 grok。独立 Codex 席不能冒充 Orchestrator。")
  else
    let refused := INDEPENDENT_SEATS.findSome? fun seat =>
      if (roles seat).mode = some .mainSession then
        some (seat.name ++ js " 不能使用 main-session，否则会伪装成连续 Builder。")
      else if (roles seat).runtime = .grok then
        some (seat.name ++ js " 只支持 cursor、codex 或 grokb。已拒绝 " ++ (roles seat).runtime.name ++
          js "，不会自动换成其他模型。")
      else none
    match refused with
    | some reason => some reason
    | none =>
      if orchestrator.runtime ≠ orchestratorRuntime.role ∧
          ¬ (orchestratorRuntime ≠ .cursor ∧ orchestrator.runtime ≠ .cursor) then
        some (js "orchestrator 席位 runtime 与 orchestratorRuntime 不一致，已拒绝自动替换。")
      else none

def resolveRepairRoles (input : RolesInput) : Except JsString ResolvedRepairRoles := do
  let orchestratorRuntime ← requestedRuntime input.orchestratorRuntime
  let cursorModelExplicit := decide ((input.cursorModel.getD []).trim ≠ [])
  let cursorDefault ← canonicalizeRepairModel
    (if cursorModelExplicit then input.cursorModel.map trim else none)
  let overrides ← parseRoleOverrides input.roles
  let hasRoleOverrides := !overrides.rows.isEmpty
  let initial := if orchestratorRuntime = .cursor then cursorRepairRoles cursorDefault
    else fun seat =>
      if seat ∈ BUILDER_SEATS then decorateSeat seat orchestratorRuntime.role GROK_REPAIR_MODEL
      else cursorRepairRoles cursorDefault seat
  let overridden ← overrideSeats overrides cursorDefault initial
  let roles := followOrchestrator overrides .coder (followOrchestrator overrides .plannerA overridden)
  match rolesRefusal orchestratorRuntime roles with
  | some reason => .error reason
  | none => .ok {
      roles
      emitContract := orchestratorRuntime = .cursor || hasRoleOverrides || cursorModelExplicit
      orchestratorRuntime := match (roles .orchestrator).runtime with
        | .grok => .grok
        | .grokb => .grokb
        | _ => .cursor
      orchestratorModel := (roles .orchestrator).model
      hasRoleOverrides }

end Resolve

abbrev SquadBridgeRow := {members : List (JsString × Json) // (Json.object members).Writable}

structure SquadBridgeFile where
  executable : Option JsString := none
  skillDir : Option JsString := none
  grokb : Option JsString := none
  cursor : Option JsString := none
  orchestratorRuntime : Option JsString := none
  model : Option JsString := none
  roles : Option RoleOverrides := none

def bridgeFields (row : Json) (roles : Option RoleOverrides) : SquadBridgeFile where
  executable := stringOrNull (memberOf row (js "executable"))
  skillDir := stringOrNull (memberOf row (js "skillDir"))
  grokb := stringOrNull (memberOf row (js "grokb"))
  cursor := stringOrNull (memberOf row (js "cursor"))
  orchestratorRuntime := stringOrNull (memberOf row (js "orchestratorRuntime"))
  model := stringOrNull (memberOf row (js "model"))
  roles

def squadBridgeFileFromRow (row : SquadBridgeRow) : SquadBridgeFile :=
  bridgeFields (.object row.val) (parseRoleOverrides (memberOf (.object row.val) (js "roles"))).toOption

def parseSquadBridgeText (raw : JsString) : SquadBridgeFile × Option JsString :=
  match Json.parse raw with
  | none => ({}, some (js "squad-bridge.json 不是合法 JSON，已拒绝，不会改用默认模型。"))
  | some (.object members) =>
    match parseRoleOverrides (memberOf (.object members) (js "roles")) with
    | .error reason => ({}, some reason)
    | .ok roles => (bridgeFields (.object members) (some roles), none)
  | some _ => ({}, some (js "squad-bridge.json 必须是对象，已拒绝，不会改用默认模型。"))

/-- The text that `writeSquadBridgeFile` writes. -/
def squadBridgeText (file : List (JsString × Json)) : JsString :=
  Json.indented (js "  ") (.object file) [] ++ js "\n"

structure AppliedRepairRoles where
  file : List (JsString × Json)
  resolved : ResolvedRepairRoles

section Apply

variable [Unicode]

/-- A builder update that both names a runtime and asks for another binding. -/
def isMismatch (builderUpdate chosen : RepairRoleOverride) : Bool :=
  isNamed builderUpdate.runtime && isNamed chosen.runtime &&
    (chosen.runtime ≠ builderUpdate.runtime || chosen.model ≠ builderUpdate.model)

def builderUpdateOf (updates : RepairSeat → Option RepairRoleOverride) : Option RepairRoleOverride :=
  updates .orchestrator <|> updates .plannerA <|> updates .coder

def putChosen (updates : RepairSeat → Option RepairRoleOverride) (roles : RoleOverrides) (seat : RepairSeat) :
    RoleOverrides :=
  match updates seat with
  | some chosen => roles.put (seat, chosen)
  | none => roles

def updatedRoles (roles : RoleOverrides) (updates : RepairSeat → Option RepairRoleOverride) :
    Except JsString RoleOverrides := do
  let built ← match builderUpdateOf updates with
    | none => .ok roles
    | some builderUpdate =>
      if BUILDER_SEATS.any fun seat => (updates seat).any (isMismatch builderUpdate) then
        .error BUILDER_MISMATCH
      else .ok (BUILDER_SEATS.foldl (fun roles seat => roles.put (seat, builderUpdate)) roles)
  pure (INDEPENDENT_SEATS.foldl (putChosen updates) built)

def applyRepairRoleUpdates (current : SquadBridgeRow)
    (updates : RepairSeat → Option RepairRoleOverride) (orchestratorRuntime : Option JsString) :
    Except JsString AppliedRepairRoles := do
  let roles ← updatedRoles ((squadBridgeFileFromRow current).roles.getD .empty) updates
  let file := Json.putMember current.val (js "roles", rolesValue roles)
  let resolved ← resolveRepairRoles {
    orchestratorRuntime :=
      orchestratorRuntime <|> stringOrNull (memberOf (.object file) (js "orchestratorRuntime"))
    cursorModel := stringOrNull (memberOf (.object file) (js "model"))
    roles := some (rolesValue roles) }
  pure { file, resolved }

end Apply

end CouncilKit.Repair
