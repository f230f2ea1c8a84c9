import CouncilKit.Runs.LiveState

namespace CouncilKit.Runs

open Data JsString List

abbrev Written := {value : Json // value.Writable}

/-- `z.string().min(1)` for an id -/
abbrev AttemptId := {text : JsString // text ≠ []}

abbrev Stamp := {text : JsString // text.trim ≠ []}

def field (name : String) (value : Json) : JsString × Option Json := (js name, some value)

def optional (name : String) (value : Option Json) : JsString × Option Json := (js name, value)

def textField (name : String) (text : JsString) : JsString × Option Json := field name (.string text)

def countField (name : String) (count : Nat) : JsString × Option Json := field name (.number count)

def RunEnd.text : RunEnd → JsString
  | .completed => js "completed"
  | .failed => js "failed"
  | .interrupted => js "interrupted"

def FinishedStatus.text : FinishedStatus → JsString
  | .success => js "success"
  | .failure => js "failure"

def IdeateStage.text : IdeateStage → JsString
  | .proposing => js "proposing"
  | .debating => js "debating"
  | .aggregating => js "aggregating"

/-- `AttemptMeta` -/
structure AttemptMeta where
  attemptId : AttemptId
  agentId : JsString
  agentName : JsString
  driverId : JsString
  modelId : JsString

namespace AttemptMeta

def seat (meta_ : AttemptMeta) : SeatMeta where
  attemptId := meta_.attemptId
  agentName := meta_.agentName
  driverId := meta_.driverId
  modelId := meta_.modelId

def fields (meta_ : AttemptMeta) : List (JsString × Option Json) :=
  [textField "attemptId" meta_.attemptId, textField "agentId" meta_.agentId,
    textField "agentName" meta_.agentName, textField "driverId" meta_.driverId,
    textField "modelId" meta_.modelId]

end AttemptMeta

inductive AttemptStage where
  | proposal | debate | aggregate

def AttemptStage.text : AttemptStage → JsString
  | .proposal => js "proposal"
  | .debate => js "debate"
  | .aggregate => js "aggregate"

structure IdeateAttemptMeta extends AttemptMeta where
  stage : AttemptStage
  round : Nat
  proposalRef : JsString

def IdeateAttemptMeta.fields (meta_ : IdeateAttemptMeta) : List (JsString × Option Json) :=
  meta_.toAttemptMeta.fields ++
    [textField "stage" meta_.stage.text, countField "round" meta_.round,
      textField "proposalRef" meta_.proposalRef]

structure ReviewTaskRecord where
  pr : Option JsString
  task : Option JsString
  focus : Option JsString
  specSource : Option JsString
  councilTopic : Option JsString
  against : Option JsString
  repairPackageHash : Option JsString

def ReviewTaskRecord.fields (task : ReviewTaskRecord) : List (JsString × Option Json) :=
  [optional "pr" (task.pr.map .string), optional "task" (task.task.map .string),
    optional "focus" (task.focus.map .string), optional "specSource" (task.specSource.map .string),
    optional "councilTopic" (task.councilTopic.map .string),
    optional "against" (task.against.map .string),
    optional "repairPackageHash" (task.repairPackageHash.map .string)]

structure ReviewStartedRecord where
  reviewModels : Option Written
  runId : JsString
  startedAt : Stamp
  task : ReviewTaskRecord
  attempts : List AttemptMeta
  aggregator : AttemptMeta
  probe : Option Written

def ReviewStartedRecord.fields (record : ReviewStartedRecord) : List (JsString × Option Json) :=
  [textField "kind" (js "review.started"), optional "reviewModels" (record.reviewModels.map (·.val)),
    countField "version" 1, textField "runId" record.runId, textField "startedAt" record.startedAt,
    field "task" (objectOf record.task.fields),
    field "attempts" (.array (record.attempts.map fun meta_ => objectOf meta_.fields)),
    field "aggregator" (objectOf record.aggregator.fields),
    optional "probe" (record.probe.map (·.val))]

structure IdeateStartedRecord where
  runId : JsString
  startedAt : Stamp
  idea : JsString
  background : JsString
  debateRounds : Nat
  proposals : List IdeateAttemptMeta
  debates : List IdeateAttemptMeta
  aggregator : IdeateAttemptMeta
  probe : Option Written
  configuredModels : Written

def IdeateStartedRecord.fields (record : IdeateStartedRecord) : List (JsString × Option Json) :=
  [textField "kind" (js "ideate.started"), countField "version" 1, textField "runId" record.runId,
    textField "startedAt" record.startedAt, textField "idea" record.idea,
    textField "background" record.background, countField "debateRounds" record.debateRounds,
    field "proposals" (.array (record.proposals.map fun meta_ => objectOf meta_.fields)),
    field "debates" (.array (record.debates.map fun meta_ => objectOf meta_.fields)),
    field "aggregator" (objectOf record.aggregator.fields),
    optional "probe" (record.probe.map (·.val)),
    field "configuredModels" record.configuredModels.val]

structure AttemptFinishedRecord where
  attemptId : AttemptId
  agentName : JsString
  driverId : JsString
  status : FinishedStatus
  output : Option JsString
  exitCode : Written
  durationMs : Nat
  failure : Option Written
  activity : Option Written
  attemptNumber : Option Nat
  retryOf : Option Nat
  willRetry : Option Bool
  resumedAfterFailure : Option Bool

/-- `z.string().nullable()` -/
def nullable : Option JsString → Json
  | some text => .string text
  | none => .null

def AttemptFinishedRecord.fields (record : AttemptFinishedRecord) : List (JsString × Option Json) :=
  [textField "kind" (js "attempt.finished"), countField "version" 1,
    textField "attemptId" record.attemptId, textField "agentName" record.agentName,
    textField "driverId" record.driverId, textField "status" record.status.text,
    field "output" (nullable record.output), field "exitCode" record.exitCode.val,
    countField "durationMs" record.durationMs, optional "failure" (record.failure.map (·.val)),
    optional "activity" (record.activity.map (·.val)),
    optional "attemptNumber" (record.attemptNumber.map fun (number : Nat) => .number number),
    optional "retryOf" (record.retryOf.map fun (number : Nat) => .number number),
    optional "willRetry" (record.willRetry.map .bool),
    optional "resumedAfterFailure" (record.resumedAfterFailure.map .bool)]

structure AggregationFinishedRecord where
  attemptId : AttemptId
  agentName : JsString
  driverId : JsString
  status : FinishedStatus
  output : Option JsString
  exitCode : Written
  durationMs : Nat
  failure : Option Written
  activity : Option Written

def AggregationFinishedRecord.fields (record : AggregationFinishedRecord) : List (JsString × Option Json) :=
  [textField "kind" (js "aggregation.finished"), countField "version" 1,
    textField "attemptId" record.attemptId, textField "agentName" record.agentName,
    textField "driverId" record.driverId, textField "status" record.status.text,
    field "output" (nullable record.output), field "exitCode" record.exitCode.val,
    countField "durationMs" record.durationMs, optional "failure" (record.failure.map (·.val)),
    optional "activity" (record.activity.map (·.val))]

structure ReviewResumedRecord where
  runId : JsString
  resumedAt : Stamp
  reusedAttemptIds : List JsString
  rerunAttemptIds : List JsString
  probe : Written

def ReviewResumedRecord.fields (record : ReviewResumedRecord) : List (JsString × Option Json) :=
  [textField "kind" (js "review.resumed"), countField "version" 1, textField "runId" record.runId,
    textField "resumedAt" record.resumedAt,
    field "reusedAttemptIds" (.array (record.reusedAttemptIds.map .string)),
    field "rerunAttemptIds" (.array (record.rerunAttemptIds.map .string)),
    field "probe" record.probe.val]

structure ReviewFinishedRecord where
  status : RunEnd
  endedAt : Stamp
  incomplete : Option Bool
  reportPath : Option JsString
  failure : Option Written

def ReviewFinishedRecord.fields (record : ReviewFinishedRecord) : List (JsString × Option Json) :=
  [textField "kind" (js "review.finished"), countField "version" 1,
    textField "status" record.status.text, textField "endedAt" record.endedAt,
    optional "incomplete" (record.incomplete.map .bool),
    optional "reportPath" (record.reportPath.map .string),
    optional "failure" (record.failure.map (·.val))]

structure IdeateStageRecord where
  stage : IdeateStage
  at_ : Stamp

def IdeateStageRecord.fields (record : IdeateStageRecord) : List (JsString × Option Json) :=
  [textField "kind" (js "ideate.stage"), countField "version" 1, textField "stage" record.stage.text,
    textField "at" record.at_]

structure IdeateFinishedRecord where
  status : RunEnd
  endedAt : Stamp
  incomplete : Bool
  reportPath : Option JsString
  integrity : Written
  failure : Option Written

def IdeateFinishedRecord.fields (record : IdeateFinishedRecord) : List (JsString × Option Json) :=
  [textField "kind" (js "ideate.finished"), countField "version" 1,
    textField "status" record.status.text, textField "endedAt" record.endedAt,
    field "incomplete" (.bool record.incomplete), optional "reportPath" (record.reportPath.map .string),
    field "integrity" record.integrity.val, optional "failure" (record.failure.map (·.val))]

inductive ReviewRecord where
  | resumed (record : ReviewResumedRecord)
  | attempt (record : AttemptFinishedRecord)
  | aggregation (record : AggregationFinishedRecord)
  | finished (record : ReviewFinishedRecord)

def ReviewRecord.fields : ReviewRecord → List (JsString × Option Json)
  | .resumed record => record.fields
  | .attempt record => record.fields
  | .aggregation record => record.fields
  | .finished record => record.fields

inductive IdeateRecord where
  | stage (record : IdeateStageRecord)
  | attempt (record : AttemptFinishedRecord)
  | aggregation (record : AggregationFinishedRecord)
  | finished (record : IdeateFinishedRecord)

def IdeateRecord.fields : IdeateRecord → List (JsString × Option Json)
  | .stage record => record.fields
  | .attempt record => record.fields
  | .aggregation record => record.fields
  | .finished record => record.fields

inductive Transcript where
  | review (started : ReviewStartedRecord) (records : List ReviewRecord)
  | ideate (started : IdeateStartedRecord) (records : List IdeateRecord)

namespace Transcript

def rows : Transcript → List Json
  | review started records => objectOf started.fields :: records.map fun record => objectOf record.fields
  | ideate started records => objectOf started.fields :: records.map fun record => objectOf record.fields

/-- `writeReviewTranscript`, `writeIdeateTranscript` -/
def text (transcript : Transcript) : JsString := writeRows transcript.rows

end Transcript

/-- The names of an object differ, and its values can be written. -/
structure Sound (fields : List (JsString × Option Json)) : Prop where
  names : (fields.map (·.1)).Nodup
  values : fields.Forall fun field => ∀ value, field.2 = some value → value.Writable

theorem Sound.writable {fields : List (JsString × Option Json)} (sound : Sound fields) :
    (objectOf fields).Writable :=
  writable_objectOf sound.names (forall_iff_forall_mem.mp sound.values)

theorem written_field {name : String} {value : Json} (writable : value.Writable) :
    ∀ found, (field name value).2 = some found → found.Writable := by
  intro found same
  cases same
  exact writable

theorem written_option {α : Type*} {name : String} {value : Option α} {toJson : α → Json}
    (writable : ∀ content, (toJson content).Writable) :
    ∀ found, (optional name (value.map toJson)).2 = some found → found.Writable := by
  intro found some_
  obtain ⟨content, _, same⟩ := Option.map_eq_some_iff.mp some_
  exact same ▸ writable content

theorem written_nullable (text : Option JsString) : (nullable text).Writable := by
  cases text <;> trivial

theorem written_list {α : Type*} {items : List α} {toJson : α → Json}
    (writable : ∀ item, (toJson item).Writable) : (Json.array (items.map toJson)).Writable := by
  refine writableItems_iff.mpr fun item member => ?_
  obtain ⟨content, _, same⟩ := mem_map.mp member
  exact same ▸ writable content

theorem AttemptMeta.sound (meta_ : AttemptMeta) : Sound meta_.fields := by
  constructor
  · exact of_decide_eq_true rfl
  · exact ⟨written_field trivial, written_field trivial, written_field trivial, written_field trivial,
      written_field trivial⟩

theorem IdeateAttemptMeta.sound (meta_ : IdeateAttemptMeta) : Sound meta_.fields := by
  constructor
  · exact of_decide_eq_true rfl
  · exact ⟨written_field trivial, written_field trivial, written_field trivial, written_field trivial,
      written_field trivial, written_field trivial, written_field trivial, written_field trivial⟩

theorem ReviewTaskRecord.sound (task : ReviewTaskRecord) : Sound task.fields := by
  have text {name : String} {value : Option JsString} := @written_option _ name value .string fun _ => trivial
  constructor
  · exact of_decide_eq_true rfl
  · exact ⟨text, text, text, text, text, text, text⟩

theorem written_value {name : String} {value : Option Written} :
    ∀ found, (optional name (value.map (·.val))).2 = some found → found.Writable :=
  written_option (·.property)

theorem ReviewStartedRecord.sound (record : ReviewStartedRecord) : Sound record.fields := by
  constructor
  · exact of_decide_eq_true rfl
  · have attempts := @written_list _ record.attempts _ fun meta_ => meta_.sound.writable
    exact ⟨written_field trivial, written_value, written_field trivial, written_field trivial,
      written_field trivial, written_field record.task.sound.writable, written_field attempts,
      written_field record.aggregator.sound.writable, written_value⟩

theorem IdeateStartedRecord.sound (record : IdeateStartedRecord) : Sound record.fields := by
  constructor
  · exact of_decide_eq_true rfl
  · have seats (metas : List IdeateAttemptMeta) := @written_list _ metas _ fun meta_ => meta_.sound.writable
    exact ⟨written_field trivial, written_field trivial, written_field trivial, written_field trivial,
      written_field trivial, written_field trivial, written_field trivial,
      written_field (seats record.proposals), written_field (seats record.debates),
      written_field record.aggregator.sound.writable, written_value,
      written_field record.configuredModels.property⟩

theorem AttemptFinishedRecord.sound (record : AttemptFinishedRecord) : Sound record.fields := by
  constructor
  · exact of_decide_eq_true rfl
  · have number {name : String} {value : Option Nat} :=
      @written_option _ name value (fun (number : Nat) => .number number) fun _ => trivial
    have flag {name : String} {value : Option Bool} := @written_option _ name value .bool fun _ => trivial
    exact ⟨written_field trivial, written_field trivial, written_field trivial, written_field trivial,
      written_field trivial, written_field trivial, written_field (written_nullable record.output),
      written_field record.exitCode.property, written_field trivial, written_value, written_value,
      number, number, flag, flag⟩

theorem AggregationFinishedRecord.sound (record : AggregationFinishedRecord) : Sound record.fields := by
  constructor
  · exact of_decide_eq_true rfl
  · exact ⟨written_field trivial, written_field trivial, written_field trivial, written_field trivial,
      written_field trivial, written_field trivial, written_field (written_nullable record.output),
      written_field record.exitCode.property, written_field trivial, written_value, written_value⟩

theorem ReviewResumedRecord.sound (record : ReviewResumedRecord) : Sound record.fields := by
  constructor
  · exact of_decide_eq_true rfl
  · exact ⟨written_field trivial, written_field trivial, written_field trivial, written_field trivial,
      written_field (writable_strings _), written_field (writable_strings _),
      written_field record.probe.property⟩

theorem ReviewFinishedRecord.sound (record : ReviewFinishedRecord) : Sound record.fields := by
  constructor
  · exact of_decide_eq_true rfl
  · exact ⟨written_field trivial, written_field trivial, written_field trivial, written_field trivial,
      written_option fun _ => trivial, written_option fun _ => trivial, written_value⟩

theorem IdeateStageRecord.sound (record : IdeateStageRecord) : Sound record.fields := by
  constructor
  · exact of_decide_eq_true rfl
  · exact ⟨written_field trivial, written_field trivial, written_field trivial, written_field trivial⟩

theorem IdeateFinishedRecord.sound (record : IdeateFinishedRecord) : Sound record.fields := by
  constructor
  · exact of_decide_eq_true rfl
  · exact ⟨written_field trivial, written_field trivial, written_field trivial, written_field trivial,
      written_field trivial, written_option fun _ => trivial, written_field record.integrity.property,
      written_value⟩

theorem ReviewRecord.sound (record : ReviewRecord) : Sound record.fields := by
  cases record with
  | resumed record => exact record.sound
  | attempt record => exact record.sound
  | aggregation record => exact record.sound
  | finished record => exact record.sound

theorem IdeateRecord.sound (record : IdeateRecord) : Sound record.fields := by
  cases record with
  | stage record => exact record.sound
  | attempt record => exact record.sound
  | aggregation record => exact record.sound
  | finished record => exact record.sound

theorem Transcript.parseRows_text (transcript : Transcript) :
    parseRows transcript.text = transcript.rows := by
  apply parseRows_writeRows
  · intro row member
    cases transcript with
    | review started records =>
      obtain same | later := mem_cons.mp member
      · exact ⟨_, same⟩
      · obtain ⟨record, _, same⟩ := mem_map.mp later
        exact ⟨_, same.symm⟩
    | ideate started records =>
      obtain same | later := mem_cons.mp member
      · exact ⟨_, same⟩
      · obtain ⟨record, _, same⟩ := mem_map.mp later
        exact ⟨_, same.symm⟩
  · intro row member
    cases transcript with
    | review started records =>
      obtain same | later := mem_cons.mp member
      · exact same ▸ started.sound.writable
      · obtain ⟨record, _, same⟩ := mem_map.mp later
        exact same ▸ record.sound.writable
    | ideate started records =>
      obtain same | later := mem_cons.mp member
      · exact same ▸ started.sound.writable
      · obtain ⟨record, _, same⟩ := mem_map.mp later
        exact same ▸ record.sound.writable

end CouncilKit.Runs
