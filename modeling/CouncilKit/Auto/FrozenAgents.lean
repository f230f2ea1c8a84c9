import CouncilKit.Data.Fallible
import CouncilKit.Data.Json

namespace CouncilKit.Auto.FrozenAgents

open Data Data.JsString List Option

inductive ClaudeRoute where
  | antGlm | moonshot | deepseek | cfuse

def ClaudeRoute.text : ClaudeRoute → JsString
  | .antGlm => js "ant-glm5.2"
  | .moonshot => js "moonshot"
  | .deepseek => js "deepseek"
  | .cfuse => js "cfuse"

def claudeRoutes : List ClaudeRoute := [.antGlm, .moonshot, .deepseek, .cfuse]

/-- `z.string().min(1).max(64)` -/
abbrev ReasoningEffort := { text : JsString // 1 ≤ text.length ∧ text.length ≤ 64 }

inductive DriverSelection where
  | claude (route : ClaudeRoute)
  | codex (reasoningEffort : Option ReasoningEffort)
  | kimi
  | grok
  | cursor

namespace DriverSelection

def driverId : DriverSelection → JsString
  | .claude _ => js "claude-stream-json"
  | .codex _ => js "codex-app-server"
  | .kimi => js "kimi-stream-json"
  | .grok => js "grok-stream-json"
  | .cursor => js "cursor-stream-json"

def options : DriverSelection → List (JsString × Json)
  | .claude route => [(js "route", .string route.text)]
  | .codex none => []
  | .codex (some effort) => [(js "reasoningEffort", .string effort.val)]
  | .kimi => []
  | .grok => []
  | .cursor => []

end DriverSelection

def parseClaudeOptions : List (JsString × Json) → Option DriverSelection
  | [(key, .string route)] =>
    if key = js "route" then (claudeRoutes.find? (·.text = route)).map .claude else none
  | _ => none

def parseCodexOptions : List (JsString × Json) → Option DriverSelection
  | [] => some (.codex none)
  | [(key, .string effort)] =>
    if key = js "reasoningEffort" then
      if bound : 1 ≤ effort.length ∧ effort.length ≤ 64 then some (.codex (some ⟨effort, bound⟩))
      else none
    else none
  | _ => none

def parseNoOptions (selection : DriverSelection) : List (JsString × Json) → Option DriverSelection
  | [] => some selection
  | _ => none

/-- `driverSelectionSchema.parse({ driverId, options })`; `none` is a ZodError. -/
def parseSelection (driverId : JsString) (options : List (JsString × Json)) : Option DriverSelection :=
  if driverId = js "claude-stream-json" then parseClaudeOptions options
  else if driverId = js "codex-app-server" then parseCodexOptions options
  else if driverId = js "kimi-stream-json" then parseNoOptions .kimi options
  else if driverId = js "grok-stream-json" then parseNoOptions .grok options
  else if driverId = js "cursor-stream-json" then parseNoOptions .cursor options
  else none

variable {options : List (JsString × Json)} {selection : DriverSelection}

theorem parseClaudeOptions_some
    (parsed : parseClaudeOptions options = some selection) :
    selection.driverId = js "claude-stream-json" ∧ selection.options = options := by
  unfold parseClaudeOptions at parsed
  split at parsed
  · split at parsed
    · rename_i key route named
      obtain ⟨found, member, made⟩ := map_eq_some_iff.mp parsed
      have text : found.text = route := by simpa using List.find?_some member
      subst made
      exact ⟨rfl, by rw [DriverSelection.options, text, named]⟩
    · cases parsed
  · cases parsed

theorem parseCodexOptions_some
    (parsed : parseCodexOptions options = some selection) :
    selection.driverId = js "codex-app-server" ∧ selection.options = options := by
  unfold parseCodexOptions at parsed
  split at parsed
  · cases parsed
    exact ⟨rfl, rfl⟩
  · split at parsed
    · rename_i named
      split at parsed
      · cases parsed
        exact ⟨rfl, by rw [DriverSelection.options, named]⟩
      · cases parsed
    · cases parsed
  · cases parsed

theorem parseNoOptions_some {expected selection : DriverSelection}
    (parsed : parseNoOptions expected options = some selection) :
    selection = expected ∧ options = [] := by
  unfold parseNoOptions at parsed
  split at parsed
  · exact ⟨(Option.some.inj parsed).symm, rfl⟩
  · cases parsed

theorem parseSelection_some {driverId : JsString}
    (parsed : parseSelection driverId options = some selection) :
    selection.driverId = driverId ∧ selection.options = options := by
  unfold parseSelection at parsed
  split at parsed
  · rename_i claude
    exact claude ▸ parseClaudeOptions_some parsed
  · split at parsed
    · rename_i codex
      exact codex ▸ parseCodexOptions_some parsed
    · split at parsed
      · rename_i kimi
        obtain ⟨rfl, rfl⟩ := parseNoOptions_some parsed
        exact ⟨kimi.symm, rfl⟩
      · split at parsed
        · rename_i grok
          obtain ⟨rfl, rfl⟩ := parseNoOptions_some parsed
          exact ⟨grok.symm, rfl⟩
        · split at parsed
          · rename_i cursor
            obtain ⟨rfl, rfl⟩ := parseNoOptions_some parsed
            exact ⟨cursor.symm, rfl⟩
          · cases parsed

structure AgentRecord where
  id : JsString
  name : JsString
  personaPrompt : JsString
  modelId : JsString
  color : JsString
  enabled : Bool
  driverSelection : DriverSelection

/-- What `getAgent` throws; the texts of all but the first quote the redacted reference. -/
inductive GetAgentError where
  | unreadable
  | multipleIds (ref : JsString)
  | noMatch (ref : JsString)
  | ambiguousName (ref : JsString) (agents : Nat)

/-- Looks up by id, then by name.  A store whose file cannot be read has no list. -/
def getAgent (stored : Option (List AgentRecord)) (ref : JsString) : Except GetAgentError AgentRecord :=
  match stored with
  | none => .error .unreadable
  | some agents =>
    match agents.filter (·.id = ref) with
    | [agent] => .ok agent
    | _ :: _ :: _ => .error (.multipleIds ref)
    | [] =>
      match agents.filter (·.name = ref) with
      | [] => .error (.noMatch ref)
      | [agent] => .ok agent
      | found => .error (.ambiguousName ref found.length)

structure FrozenAgent where
  id : JsString
  name : JsString
  driverId : JsString
  modelId : JsString
  options : List (JsString × Json)
  personaPrompt : Option JsString

structure FrozenAggregator where
  id : JsString
  driverId : JsString
  modelId : JsString

structure InvocationManifest where
  runId : JsString
  agents : List FrozenAgent
  aggregator : FrozenAggregator

/-- `z.string().min(1).max(bound)` -/
def textWithin (bound : Nat) (text : JsString) : Bool := 1 ≤ text.length && text.length ≤ bound

/-- What `invocationManifestSchema` asks of the fields above. -/
def InvocationManifest.accepted (manifest : InvocationManifest) : Bool :=
  textWithin 160 manifest.runId &&
    manifest.agents.all (fun agent =>
      textWithin 160 agent.id && textWithin 160 agent.name && textWithin 80 agent.driverId &&
        textWithin 200 agent.modelId &&
        agent.personaPrompt.all (textWithin (64 * 1024))) &&
    decide (manifest.agents.length ≤ 8) &&
    textWithin 160 manifest.aggregator.id && textWithin 80 manifest.aggregator.driverId &&
    textWithin 200 manifest.aggregator.modelId

structure StartedSeat where
  agentId : JsString
  driverId : JsString
  modelId : JsString

structure Started where
  runId : JsString
  attempts : List StartedSeat
  aggregator : StartedSeat

def seatMatches (id driverId modelId : JsString) (seat : StartedSeat) : Bool :=
  id = seat.agentId && driverId = seat.driverId && modelId = seat.modelId

def assertManifestMatchesStarted (manifest : InvocationManifest) (started : Started) :
    Except JsString Unit :=
  if manifest.runId ≠ started.runId then
    .error (js "invocation manifest does not belong to this run")
  else if manifest.agents.length ≠ started.attempts.length then
    .error (js "invocation manifest agents do not match the frozen run")
  else if started.attempts.zipIdx.any (fun (attempt, index) =>
      match manifest.agents[index]? with
      | none => true
      | some frozen => !seatMatches frozen.id frozen.driverId frozen.modelId attempt) then
    .error (js "invocation manifest does not match the frozen reviewer identity")
  else if !seatMatches manifest.aggregator.id manifest.aggregator.driverId manifest.aggregator.modelId
      started.aggregator then
    .error (js "invocation manifest does not match the frozen aggregator")
  else .ok ()

/-- `none` is a ZodError. -/
def overlayFrozenAgent (agent : AgentRecord) (frozen : FrozenAgent) : Option AgentRecord := do
  let selection ← parseSelection frozen.driverId frozen.options
  return { agent with
    name := frozen.name
    modelId := frozen.modelId
    driverSelection := selection
    personaPrompt := frozen.personaPrompt.getD agent.personaPrompt }

def stubAgentFromFrozen (frozen : FrozenAgent) : Option AgentRecord := do
  let driverSelection ← parseSelection frozen.driverId frozen.options
  overlayFrozenAgent
    { id := frozen.id
      name := frozen.name
      personaPrompt := frozen.personaPrompt.getD (js "Frozen reviewer from invocation manifest.")
      modelId := frozen.modelId
      color := js "#808080"
      enabled := true
      driverSelection := driverSelection } frozen

def resumedAgent (lookup : JsString → Except GetAgentError AgentRecord) (frozen : FrozenAgent) :
    Option AgentRecord :=
  match lookup frozen.id with
  | .error _ => stubAgentFromFrozen frozen
  | .ok agent =>
    match overlayFrozenAgent agent frozen with
    | some overlaid => some overlaid
    | none => stubAgentFromFrozen frozen

structure ResumedAgents where
  attemptAgents : List AgentRecord
  /-- `none` is the `undefined` of an empty list's first item. -/
  aggregatorAgent : Option AgentRecord

def agentsFromFrozenManifest (manifest : InvocationManifest)
    (lookup : JsString → Except GetAgentError AgentRecord) : Option ResumedAgents := do
  let attemptAgents ← manifest.agents.mapM (resumedAgent lookup)
  let aggFrozen := manifest.agents.find? (·.id = manifest.aggregator.id)
  match attemptAgents.find? (·.id = manifest.aggregator.id) with
  | some agent => return ⟨attemptAgents, some agent⟩
  | none =>
    match aggFrozen with
    | some frozen =>
      let agent ← stubAgentFromFrozen frozen
      return ⟨attemptAgents, some agent⟩
    | none => return ⟨attemptAgents, attemptAgents.head?⟩

def NameOnly (stored : Option (List AgentRecord)) (ref : JsString) : Prop :=
  ∃ agents agent, stored = some agents ∧ (∀ other ∈ agents, other.id ≠ ref) ∧
    agents.filter (·.name = ref) = [agent]

structure SameReviewer (frozen : FrozenAgent) (agent : AgentRecord) : Prop where
  id : agent.id = frozen.id
  name : agent.name = frozen.name
  driverId : agent.driverSelection.driverId = frozen.driverId
  modelId : agent.modelId = frozen.modelId
  options : agent.driverSelection.options = frozen.options
  persona : ∀ persona, frozen.personaPrompt = some persona → agent.personaPrompt = persona

structure Restored (manifest : InvocationManifest) (resumed : ResumedAgents) : Prop where
  reviewers : List.Forall₂ SameReviewer manifest.agents resumed.attemptAgents
  aggregator : ∃ agent, resumed.aggregatorAgent = some agent ∧ agent.id = manifest.aggregator.id ∧
    agent.driverSelection.driverId = manifest.aggregator.driverId ∧
    agent.modelId = manifest.aggregator.modelId

variable {stored : Option (List AgentRecord)} {ref : JsString} {manifest : InvocationManifest}
  {frozen : FrozenAgent} {agent : AgentRecord} {selection : DriverSelection}

theorem getAgent_id (found : getAgent stored ref = .ok agent) : agent.id = ref ↔ ¬ NameOnly stored ref := by
  unfold getAgent at found
  split at found
  · cases found
  · rename_i agents
    split at found
    · rename_i byId only
      cases found
      have member : agent ∈ agents.filter (·.id = ref) := only ▸ mem_singleton_self _
      have same : agent.id = ref := by simpa using (mem_filter.mp member).2
      constructor
      · rintro _ ⟨_, _, stands, absent, _⟩
        cases stands
        exact absent agent (mem_filter.mp member).1 same
      · intro _
        exact same
    · cases found
    · rename_i noId
      split at found
      · cases found
      · rename_i byName only
        cases found
        have absent : ∀ other ∈ agents, other.id ≠ ref := by
          intro other member same
          have kept : other ∈ agents.filter (·.id = ref) :=
            mem_filter.mpr ⟨member, decide_eq_true same⟩
          rw [noId] at kept
          cases kept
        have member : agent ∈ agents.filter (·.name = ref) := only ▸ mem_singleton_self _
        constructor
        · intro same _
          exact absent agent (mem_filter.mp member).1 same
        · intro listed
          exact absurd ⟨agents, agent, rfl, absent, only⟩ listed
      · cases found

theorem not_nameOnly_of_error {error : GetAgentError} (failed : getAgent stored ref = .error error) :
    ¬ NameOnly stored ref := by
  rintro ⟨agents, agent, rfl, absent, only⟩
  have noId : agents.filter (·.id = ref) = [] := by
    rw [filter_eq_nil_iff]
    intro other member
    simpa using absent other member
  simp [getAgent, noId, only] at failed

theorem resumedAgent_none {lookup : JsString → Except GetAgentError AgentRecord}
    (refused : parseSelection frozen.driverId frozen.options = none) : resumedAgent lookup frozen = none := by
  unfold resumedAgent
  split
  · simp [stubAgentFromFrozen, refused]
  · simp [overlayFrozenAgent, stubAgentFromFrozen, refused]

/-- What is laid on a found record, or on the stub, is frozen; the id is the found one's. -/
theorem resumedAgent_some (parsed : parseSelection frozen.driverId frozen.options = some selection) :
    ∃ agent, resumedAgent (getAgent stored) frozen = some agent ∧
      (agent.id = frozen.id ↔ ¬ NameOnly stored frozen.id) ∧
      (agent.id = frozen.id → SameReviewer frozen agent) := by
  obtain ⟨driverId, options⟩ := parseSelection_some parsed
  have persona : ∀ other persona, frozen.personaPrompt = some persona →
      frozen.personaPrompt.getD other = persona := by
    intro other persona stands
    rw [stands, getD_some]
  cases found : getAgent stored frozen.id with
  | error error =>
    refine ⟨_, by simp only [resumedAgent, found, stubAgentFromFrozen, overlayFrozenAgent, parsed]; rfl, ?_, ?_⟩
    · simp [not_nameOnly_of_error found]
    · intro same
      exact ⟨same, rfl, driverId, rfl, options, persona _⟩
  | ok agent =>
    have listed := getAgent_id found
    refine ⟨_, by simp only [resumedAgent, found, overlayFrozenAgent, parsed]; rfl, ?_, ?_⟩
    · exact listed
    · intro same
      exact ⟨same, rfl, driverId, rfl, options, persona _⟩

/-- What the frozen identities need: selections that parse, ids that are nobody else's name, and
an aggregator that is the first reviewer with its id. -/
structure Restorable (manifest : InvocationManifest) (stored : Option (List AgentRecord)) : Prop where
  parses : ∀ frozen ∈ manifest.agents, (parseSelection frozen.driverId frozen.options).isSome
  unnamed : ∀ frozen ∈ manifest.agents, ¬ NameOnly stored frozen.id
  aggregator : ∃ frozen, manifest.agents.find? (·.id = manifest.aggregator.id) = some frozen ∧
    frozen.driverId = manifest.aggregator.driverId ∧ frozen.modelId = manifest.aggregator.modelId

theorem aggregator_restored {attemptAgents : List AgentRecord}
    (mapped : manifest.agents.mapM (resumedAgent (getAgent stored)) = some attemptAgents)
    (same : List.Forall₂ SameReviewer manifest.agents attemptAgents) :
    (∃ frozen agent, manifest.agents.find? (·.id = manifest.aggregator.id) = some frozen ∧
      SameReviewer frozen agent ∧
      agentsFromFrozenManifest manifest (getAgent stored) = some ⟨attemptAgents, some agent⟩) ∨
    manifest.agents.find? (·.id = manifest.aggregator.id) = none ∧
      (∀ agent ∈ attemptAgents, agent.id ≠ manifest.aggregator.id) ∧
      agentsFromFrozenManifest manifest (getAgent stored) = some ⟨attemptAgents, attemptAgents.head?⟩ := by
  have agree : ∀ frozen agent, SameReviewer frozen agent →
      decide (frozen.id = manifest.aggregator.id) = decide (agent.id = manifest.aggregator.id) := by
    intro frozen agent reviewer
    rw [reviewer.id]
  rcases find?_forall₂ same agree with ⟨noFrozen, noAgent⟩ | ⟨frozen, agent, first, found, reviewer⟩
  · refine .inr ⟨noFrozen, ?_, ?_⟩
    · intro agent member
      simpa using List.find?_eq_none.mp noAgent agent member
    · simp only [agentsFromFrozenManifest, mapped, bind_eq_bind, bind_some, noAgent, noFrozen]
      rfl
  · refine .inl ⟨frozen, agent, first, reviewer, ?_⟩
    simp only [agentsFromFrozenManifest, mapped, bind_eq_bind, bind_some, found]
    rfl

theorem restored_of_restorable (restorable : Restorable manifest stored) :
    ∃ resumed, agentsFromFrozenManifest manifest (getAgent stored) = some resumed ∧
      Restored manifest resumed := by
  have each : ∀ frozen ∈ manifest.agents,
      ∃ agent, resumedAgent (getAgent stored) frozen = some agent ∧ SameReviewer frozen agent := by
    intro frozen member
    obtain ⟨selection, parsed⟩ := isSome_iff_exists.mp (restorable.parses frozen member)
    obtain ⟨agent, made, same, reviewer⟩ := (@resumedAgent_some stored _ _ parsed)
    exact ⟨agent, made, reviewer (same.mpr (restorable.unnamed frozen member))⟩
  obtain ⟨attemptAgents, made⟩ : ∃ attemptAgents, List.Forall₂
      (fun frozen agent => resumedAgent (getAgent stored) frozen = some agent ∧ SameReviewer frozen agent)
      manifest.agents attemptAgents := by
    generalize manifest.agents = agents at each
    induction agents with
    | nil => exact ⟨[], .nil⟩
    | cons frozen rest ih =>
      obtain ⟨agent, here⟩ := each frozen mem_cons_self
      obtain ⟨later, others⟩ := ih fun other member => each other (mem_cons_of_mem _ member)
      exact ⟨agent :: later, .cons here others⟩
  have mapped := mapM_some_iff.mpr (made.imp fun _ _ both => both.1)
  have same := made.imp fun _ _ both => both.2
  obtain ⟨expected, first, driverId, modelId⟩ := restorable.aggregator
  rcases aggregator_restored mapped same with ⟨frozen, agent, found, reviewer, resumed⟩ | ⟨absent, -, -⟩
  · cases first.symm.trans found
    have aggregates : expected.id = manifest.aggregator.id := by simpa using List.find?_some first
    exact ⟨_, resumed, same, agent, rfl, reviewer.id.trans aggregates, reviewer.driverId.trans driverId,
      reviewer.modelId.trans modelId⟩
  · rw [absent] at first
    cases first

theorem restorable_of_restored {resumed : ResumedAgents}
    (made : agentsFromFrozenManifest manifest (getAgent stored) = some resumed)
    (restored : Restored manifest resumed) : Restorable manifest stored := by
  obtain ⟨attemptAgents, mapped, rest⟩ := bind_eq_some_iff.mp made
  have reviewers : resumed.attemptAgents = attemptAgents := by
    dsimp only at rest
    split at rest
    · cases rest
      rfl
    · split at rest
      · obtain ⟨agent, _, rest⟩ := bind_eq_some_iff.mp rest
        cases rest
        rfl
      · cases rest
        rfl
  have same := restored.reviewers
  rw [reviewers] at same
  have each : ∀ frozen ∈ manifest.agents, ∃ agent,
      resumedAgent (getAgent stored) frozen = some agent ∧ SameReviewer frozen agent := by
    have both := mapM_some_iff.mp mapped
    clear mapped rest reviewers
    generalize manifest.agents = agents at same both
    induction both with
    | nil => simp
    | @cons frozen agent rest later here _ ih =>
      obtain ⟨reviewer, others⟩ := forall₂_cons.mp same
      intro other member
      cases mem_cons.mp member with
      | inl first => exact first ▸ ⟨agent, here, reviewer⟩
      | inr behind => exact ih others other behind
  refine ⟨?_, ?_, ?_⟩
  · intro frozen member
    obtain ⟨agent, here, _⟩ := each frozen member
    cases parsed : parseSelection frozen.driverId frozen.options with
    | none =>
      rw [resumedAgent_none parsed] at here
      cases here
    | some selection => rfl
  · intro frozen member
    obtain ⟨agent, here, reviewer⟩ := each frozen member
    cases parsed : parseSelection frozen.driverId frozen.options with
    | none =>
      rw [resumedAgent_none parsed] at here
      cases here
    | some selection =>
      obtain ⟨other, again, listed, _⟩ := (@resumedAgent_some stored _ _ parsed)
      cases here.symm.trans again
      exact listed.mp reviewer.id
  · obtain ⟨chosen, chosenIs, id, driverId, modelId⟩ := restored.aggregator
    rcases aggregator_restored mapped same with
      ⟨frozen, agent, found, reviewer, again⟩ | ⟨absent, apart, again⟩
    · cases made.symm.trans again
      cases chosenIs
      exact ⟨frozen, found, reviewer.driverId.symm.trans driverId, reviewer.modelId.symm.trans modelId⟩
    · cases made.symm.trans again
      exact absurd id (apart chosen (mem_of_mem_head? chosenIs))

/-- Exactly when the manifest is restorable from the store, a resumed run has the frozen
reviewers in order and the frozen aggregator. -/
theorem frozen_restored (manifest : InvocationManifest) (stored : Option (List AgentRecord)) :
    (∃ resumed, agentsFromFrozenManifest manifest (getAgent stored) = some resumed ∧
      Restored manifest resumed) ↔ Restorable manifest stored := by
  constructor
  · rintro ⟨resumed, made, restored⟩
    exact restorable_of_restored made restored
  · exact restored_of_restorable

def seat : FrozenAgent where
  id := js "review-model-1"
  name := js "k3 · 1"
  driverId := js "kimi-stream-json"
  modelId := js "k3"
  options := []
  personaPrompt := none

def manifestWith (aggregator : FrozenAggregator) : InvocationManifest where
  runId := js "ck-review-0f8fad5b"
  agents := [seat]
  aggregator := aggregator

def startedWith (aggregator : StartedSeat) : Started where
  runId := js "ck-review-0f8fad5b"
  attempts := [⟨js "review-model-1", js "kimi-stream-json", js "k3"⟩]
  aggregator := aggregator

def namesake : AgentRecord where
  id := js "0f8fad5b-d9cb-469f-a165-70867728950e"
  name := js "review-model-1"
  personaPrompt := js "Reviewer."
  modelId := js "k3"
  color := js "#808080"
  enabled := true
  driverSelection := .kimi

def ownManifest : InvocationManifest := manifestWith ⟨js "review-model-1", js "kimi-stream-json", js "k3"⟩

def otherManifest : InvocationManifest := manifestWith ⟨js "auditor", js "codex-app-server", js "gpt-5"⟩

/-- An agent named like a frozen id takes the reviewer's place; an aggregator that is no
reviewer is replaced by the first reviewer. -/
theorem identities_lost :
    (ownManifest.accepted = true ∧
      assertManifestMatchesStarted ownManifest
        (startedWith ⟨js "review-model-1", js "kimi-stream-json", js "k3"⟩) = .ok () ∧
      ∃ resumed, agentsFromFrozenManifest ownManifest (getAgent (some [namesake])) = some resumed ∧
        resumed.attemptAgents.map (·.id) = [js "0f8fad5b-d9cb-469f-a165-70867728950e"] ∧
        ¬ Restored ownManifest resumed) ∧
    (otherManifest.accepted = true ∧
      assertManifestMatchesStarted otherManifest
        (startedWith ⟨js "auditor", js "codex-app-server", js "gpt-5"⟩) = .ok () ∧
      ∃ resumed, agentsFromFrozenManifest otherManifest (getAgent (some [])) = some resumed ∧
        resumed.aggregatorAgent.map (·.id) = some (js "review-model-1") ∧
        ¬ Restored otherManifest resumed) := by
  refine ⟨⟨by decide +kernel, by decide +kernel, _, rfl, rfl, ?_⟩,
    by decide +kernel, by decide +kernel, _, rfl, rfl, ?_⟩
  · intro restored
    obtain ⟨first, -⟩ := forall₂_cons.mp restored.reviewers
    have same := first.id
    revert same
    decide +kernel
  · intro restored
    obtain ⟨agent, found, id, -⟩ := restored.aggregator
    cases found
    revert id
    decide +kernel

end CouncilKit.Auto.FrozenAgents
