import Mathlib
import CouncilKit.Runs.Transcript

namespace CouncilKit.Runs

open Data JsString List

variable {fields : List (JsString × Option Json)}

theorem Sound.read {name : JsString} {value : Option Json}
    (sound : Sound fields) (index : Nat) (found : fields[index]? = some (name, value)) :
    memberOf (objectOf fields) name = value :=
  memberOf_objectOf sound.names (mem_of_getElem? found)

theorem Sound.kind {kind : JsString} (sound : Sound fields)
    (found : fields[0]? = some (textField "kind" kind)) : kindOf (objectOf fields) = kind := by
  rw [kindOf, sound.read 0 found]
  rfl

theorem finishedStatus_text (status : FinishedStatus) :
    finishedStatus (some (.string status.text)) = some status := by
  cases status <;> rfl

theorem runEnd_text (ending : RunEnd) : runEnd (some (.string ending.text)) = some ending := by
  cases ending <;> rfl

theorem stageOf_text (stage : IdeateStage) : stageOf (some (.string stage.text)) = some stage := by
  cases stage <;> rfl

theorem stringOrNull_nullable (text : Option JsString) : stringOrNull (some (nullable text)) = text := by
  cases text <;> rfl

section Live

variable {Result : Type*} (summarizeSeatOutput : Option JsString → Result)

def AttemptFinishedRecord.ending (record : AttemptFinishedRecord) : FinishedSeat Result where
  status := record.status
  durationMs := .number record.durationMs
  result := summarizeSeatOutput record.output
  willRetry := record.willRetry = some true

def AggregationFinishedRecord.ending (record : AggregationFinishedRecord) : SeatEnd Result where
  status := record.status
  durationMs := .number record.durationMs
  result := summarizeSeatOutput record.output

theorem AttemptFinishedRecord.readLiveRow (record : AttemptFinishedRecord) :
    readLiveRow summarizeSeatOutput (objectOf record.fields) =
      .attempt record.attemptId (record.ending summarizeSeatOutput).toSeatEnd
        (record.ending summarizeSeatOutput).willRetry := by
  have kind := record.sound.kind rfl
  have attemptId := record.sound.read 2 rfl
  have status := record.sound.read 5 rfl
  have output := record.sound.read 6 rfl
  have durationMs := record.sound.read 8 rfl
  have willRetry := record.sound.read 13 rfl
  have named : (stringOrNull (some (.string record.attemptId))).getD [] = record.attemptId.val := rfl
  have flag : strictEquals (record.willRetry.map .bool) (some (.bool true)) =
      decide (record.willRetry = some true) := by
    rcases record.willRetry with _ | _ | _ <;> rfl
  unfold Runs.readLiveRow
  simp only [kind]
  rw [if_neg (by decide), if_neg (by decide), if_neg (by decide), if_neg (by decide), if_pos trivial]
  rw [seatEnd, attemptId, status, output, durationMs, willRetry, finishedStatus_text, named,
    stringOrNull_nullable, flag, Option.map_some]
  exact if_neg record.attemptId.property

theorem AggregationFinishedRecord.readLiveRow (record : AggregationFinishedRecord) :
    readLiveRow summarizeSeatOutput (objectOf record.fields) =
      .aggregation (record.ending summarizeSeatOutput) := by
  have kind := record.sound.kind rfl
  have status := record.sound.read 5 rfl
  have output := record.sound.read 6 rfl
  have durationMs := record.sound.read 8 rfl
  unfold Runs.readLiveRow
  simp only [kind]
  rw [if_neg (by decide), if_neg (by decide), if_neg (by decide), if_neg (by decide),
    if_neg (by decide), if_neg (by decide), if_pos trivial]
  rw [seatEnd, status, output, durationMs, finishedStatus_text, stringOrNull_nullable]
  rfl

theorem ReviewResumedRecord.readLiveRow (record : ReviewResumedRecord) :
    readLiveRow summarizeSeatOutput (objectOf record.fields) = .resumed record.rerunAttemptIds := by
  have kind := record.sound.kind rfl
  have rerun := record.sound.read 5 rfl
  have strings (texts : List JsString) : stringsOf (some (.array (texts.map .string))) = texts := by
    induction texts with
    | nil => rfl
    | cons text rest ih => exact congrArg (text :: ·) ih
  unfold Runs.readLiveRow
  simp only [kind]
  rw [if_neg (by decide), if_neg (by decide), if_neg (by decide), if_neg (by decide),
    if_neg (by decide), if_pos trivial, rerun, strings]

theorem ReviewFinishedRecord.readLiveRow (record : ReviewFinishedRecord) :
    readLiveRow summarizeSeatOutput (objectOf record.fields) = .finished (some record.status) := by
  have kind := record.sound.kind rfl
  have status := record.sound.read 2 rfl
  unfold Runs.readLiveRow
  simp only [kind]
  rw [if_neg (by decide), if_neg (by decide), if_neg (by decide), if_neg (by decide),
    if_neg (by decide), if_neg (by decide), if_neg (by decide), if_pos trivial, status, runEnd_text]

theorem IdeateFinishedRecord.readLiveRow (record : IdeateFinishedRecord) :
    readLiveRow summarizeSeatOutput (objectOf record.fields) = .finished (some record.status) := by
  have kind := record.sound.kind rfl
  have status := record.sound.read 2 rfl
  unfold Runs.readLiveRow
  simp only [kind]
  rw [if_neg (by decide), if_neg (by decide), if_pos trivial, status, runEnd_text]

theorem IdeateStageRecord.readLiveRow (record : IdeateStageRecord) :
    readLiveRow summarizeSeatOutput (objectOf record.fields) = .stage record.stage := by
  have kind := record.sound.kind rfl
  have stage := record.sound.read 2 rfl
  unfold Runs.readLiveRow
  simp only [kind]
  rw [if_neg (by decide), if_pos trivial, stage, stageOf_text]

theorem AttemptMeta.asMeta (meta_ : AttemptMeta) :
    asMeta (some (objectOf meta_.fields)) = some meta_.seat := by
  have attemptId := meta_.sound.read 0 rfl
  have agentName := meta_.sound.read 2 rfl
  have driverId := meta_.sound.read 3 rfl
  have modelId := meta_.sound.read 4 rfl
  simp only [Runs.asMeta, memberAt, Option.bind_some, attemptId, agentName, driverId, modelId]
  rfl

theorem IdeateAttemptMeta.asMeta (meta_ : IdeateAttemptMeta) :
    asMeta (some (objectOf meta_.fields)) = some meta_.seat := by
  have attemptId := meta_.sound.read 0 rfl
  have agentName := meta_.sound.read 2 rfl
  have driverId := meta_.sound.read 3 rfl
  have modelId := meta_.sound.read 4 rfl
  simp only [Runs.asMeta, memberAt, Option.bind_some, attemptId, agentName, driverId, modelId]
  rfl

theorem metasOf_map {α : Type*} {metas : List α} {toJson : α → Json} {seat : α → SeatMeta}
    (reads : ∀ meta_, asMeta (some (toJson meta_)) = some (seat meta_)) :
    metasOf (metas.map toJson) = metas.map seat := by
  induction metas with
  | nil => rfl
  | cons meta_ rest ih =>
    rw [map_cons, metasOf, filterMap_cons, reads]
    exact congrArg (seat meta_ :: ·) ih

def ReviewStartedRecord.run (record : ReviewStartedRecord) : StartedRun where
  attempts := record.attempts.map (·.seat)
  aggregator := record.aggregator.seat
  ideate := false
  debateAttemptIds := []

def IdeateStartedRecord.run (record : IdeateStartedRecord) : StartedRun where
  attempts := (record.proposals ++ record.debates).map (·.seat)
  aggregator := record.aggregator.seat
  ideate := true
  debateAttemptIds := record.debates.map (·.attemptId.val)

theorem ReviewStartedRecord.readLiveRow (record : ReviewStartedRecord) :
    readLiveRow summarizeSeatOutput (objectOf record.fields) = .started record.run := by
  have kind := record.sound.kind rfl
  have attempts := record.sound.read 6 rfl
  have aggregator := record.sound.read 7 rfl
  unfold Runs.readLiveRow
  simp only [kind]
  rw [if_neg (by decide), if_neg (by decide), if_neg (by decide), if_pos trivial, reviewRun, aggregator,
    attempts, AttemptMeta.asMeta, listOr, metasOf_map AttemptMeta.asMeta]
  rfl

theorem IdeateStartedRecord.readLiveRow (record : IdeateStartedRecord) :
    readLiveRow summarizeSeatOutput (objectOf record.fields) = .started record.run := by
  have kind := record.sound.kind rfl
  have proposals := record.sound.read 7 rfl
  have debates := record.sound.read 8 rfl
  have aggregator := record.sound.read 9 rfl
  unfold Runs.readLiveRow
  simp only [kind]
  rw [if_pos trivial, ideateRun, aggregator, proposals, debates, IdeateAttemptMeta.asMeta, listOr, listOr,
    ← map_append, metasOf_map IdeateAttemptMeta.asMeta, metasOf_map IdeateAttemptMeta.asMeta,
    map_map]
  rfl

end Live

section Told

variable {Integrity : Type*} {schema : IntegritySchema Integrity}

inductive Tells (schema : IntegritySchema Integrity) (row : Json) : Option RunEnd → Prop where
  | nothing : (∀ told : TranscriptMeta Integrity, TranscriptMeta.note schema told row = told) →
      Tells schema row none
  | ended (ending : RunEnd) : (∀ told : TranscriptMeta Integrity,
      (TranscriptMeta.note schema told row).status = ending.status ∧
      (TranscriptMeta.note schema told row).startedAt = told.startedAt ∧
      (TranscriptMeta.note schema told row).endedAt ≠ none) → Tells schema row (some ending)

theorem note_kind {kind : JsString} {row : Json} (named : kindOf row = kind)
    (other : [js "ideate.started", js "ideate.finished", js "review.started", js "squad.started",
      js "run.started", js "review.finished", js "run.finished", js "squad.finished"].all (· ≠ kind) = true) :
    Tells schema row none := by
  apply Tells.nothing
  intro told
  simp only [all_cons, all_nil, Bool.and_true, Bool.and_eq_true, decide_eq_true_eq] at other
  obtain ⟨ideate, ideateEnd, review, squad, run, reviewEnd, runEnd, squadEnd⟩ := other
  unfold TranscriptMeta.note
  simp only [named, ideate.symm, ideateEnd.symm, review.symm, squad.symm, run.symm, reviewEnd.symm,
    runEnd.symm, squadEnd.symm, if_false, or_self]

theorem stringOrNull_stamp (stamp : Stamp) :
    TranscriptMeta.stringOrNull (some (.string stamp)) = some stamp.val.trim := if_neg stamp.property

theorem ReviewFinishedRecord.tells (record : ReviewFinishedRecord) :
    Tells schema (objectOf record.fields) (some record.status) := by
  apply Tells.ended
  intro told
  have kind := record.sound.kind rfl
  have status := record.sound.read 2 rfl
  have endedAt := record.sound.read 3 rfl
  have known : TranscriptMeta.finishedStatus (some (.string record.status.text)) =
      some record.status.status := by
    cases record.status <;> rfl
  unfold TranscriptMeta.note
  simp only [kind]
  rw [if_neg (by decide), if_neg (by decide), if_neg (by decide), if_neg (by decide),
    if_neg (by decide), if_pos (.inl trivial), status, endedAt, known, stringOrNull_stamp]
  exact ⟨rfl, rfl, nofun⟩

theorem IdeateFinishedRecord.tells (record : IdeateFinishedRecord) :
    Tells schema (objectOf record.fields) (some record.status) := by
  apply Tells.ended
  intro told
  have kind := record.sound.kind rfl
  have status := record.sound.read 2 rfl
  have endedAt := record.sound.read 3 rfl
  have known : TranscriptMeta.ideateStatus (some (.string record.status.text)) =
      some record.status.status := by
    cases record.status <;> rfl
  unfold TranscriptMeta.note
  simp only [kind]
  rw [if_neg (by decide), if_pos trivial, status, endedAt, known, stringOrNull_stamp]
  exact ⟨rfl, rfl, nofun⟩

def ReviewRecord.ending : ReviewRecord → Option RunEnd
  | .finished record => some record.status
  | _ => none

def IdeateRecord.ending : IdeateRecord → Option RunEnd
  | .finished record => some record.status
  | _ => none

theorem ReviewRecord.tells (record : ReviewRecord) :
    Tells schema (objectOf record.fields) record.ending := by
  cases record with
  | resumed record => exact note_kind (record.sound.kind rfl) (by decide)
  | attempt record => exact note_kind (record.sound.kind rfl) (by decide)
  | aggregation record => exact note_kind (record.sound.kind rfl) (by decide)
  | finished record => exact record.tells

theorem IdeateRecord.tells (record : IdeateRecord) :
    Tells schema (objectOf record.fields) record.ending := by
  cases record with
  | stage record => exact note_kind (record.sound.kind rfl) (by decide)
  | attempt record => exact note_kind (record.sound.kind rfl) (by decide)
  | aggregation record => exact note_kind (record.sound.kind rfl) (by decide)
  | finished record => exact record.tells

/-- A started run of which the index was told `ending` last. -/
structure Heard (told : TranscriptMeta Integrity) (ending : Option RunEnd) : Prop where
  started : told.startedAt ≠ none
  status : told.status = (ending.map RunEnd.status).getD .unknown
  ended : told.endedAt = none ↔ ending = none

variable {told : TranscriptMeta Integrity}

theorem heard_rows {α : Type*} {toRow : α → Json} {ending : α → Option RunEnd}
    (tells : ∀ record, Tells schema (toRow record) (ending record)) {records : List α}
    (heard : Heard told none) :
    Heard ((records.map toRow).foldl (TranscriptMeta.note schema) told)
      (records.filterMap ending).getLast? := by
  induction records using List.reverseRecOn with
  | nil => exact heard
  | append_singleton front record ih =>
    rw [map_append, foldl_append, filterMap_append]
    have turn := tells record
    generalize last : ending record = told_ at turn
    cases turn with
    | nothing same =>
      have none_ : [record].filterMap ending = [] := by rw [filterMap_cons, last]; rfl
      rw [map_singleton, foldl_cons, foldl_nil, same, none_, append_nil]
      exact ih
    | ended ending_ changed =>
      have some_ : [record].filterMap ending = [ending_] := by rw [filterMap_cons, last]; rfl
      obtain ⟨status, startedAt, endedAt⟩ :=
        changed ((front.map toRow).foldl (TranscriptMeta.note schema) told)
      rw [map_singleton, foldl_cons, foldl_nil, some_, List.getLast?_append]
      exact ⟨startedAt ▸ ih.started, status, iff_of_false endedAt nofun⟩

theorem Heard.settled {ending : Option RunEnd}
    (heard : Heard told ending) : told.settled.status = (ending.map RunEnd.status).getD .running := by
  have status := heard.status
  cases ending with
  | none =>
    have open_ := heard.ended.mpr rfl
    rw [TranscriptMeta.settled, if_pos ⟨status, heard.started, open_⟩]
    rfl
  | some ending =>
    rw [TranscriptMeta.settled, if_neg]
    · exact status
    · intro unknown
      rw [status] at unknown
      revert unknown
      cases ending <;> nofun

theorem ReviewStartedRecord.heard (record : ReviewStartedRecord)
    (fresh : told.status = .unknown) (open_ : told.endedAt = none) :
    Heard (TranscriptMeta.note schema told (objectOf record.fields)) none := by
  have kind := record.sound.kind rfl
  have startedAt := record.sound.read 4 rfl
  unfold TranscriptMeta.note
  simp only [kind]
  rw [if_neg (by decide), if_neg (by decide), if_pos trivial, TranscriptMeta.begun, startedAt,
    stringOrNull_stamp]
  exact ⟨nofun, fresh, iff_of_true open_ rfl⟩

theorem IdeateStartedRecord.heard (record : IdeateStartedRecord)
    (fresh : told.status = .unknown) (open_ : told.endedAt = none) :
    Heard (TranscriptMeta.note schema told (objectOf record.fields)) none := by
  have kind := record.sound.kind rfl
  have startedAt := record.sound.read 3 rfl
  unfold TranscriptMeta.note
  simp only [kind]
  rw [if_pos trivial, TranscriptMeta.begun, startedAt, stringOrNull_stamp]
  exact ⟨nofun, fresh, iff_of_true open_ rfl⟩

def Transcript.lastEnd : Transcript → Option RunEnd
  | .review _ records => (records.filterMap ReviewRecord.ending).getLast?
  | .ideate _ records => (records.filterMap IdeateRecord.ending).getLast?

theorem status_index (transcript : Transcript) (runId : JsString) :
    (parseTranscriptMeta schema transcript.text runId).status =
      (transcript.lastEnd.map RunEnd.status).getD .running := by
  rw [parseTranscriptMeta, transcript.parseRows_text]
  apply Heard.settled
  cases transcript with
  | review started records =>
    rw [Transcript.rows, foldl_cons]
    exact heard_rows ReviewRecord.tells (started.heard rfl rfl)
  | ideate started records =>
    rw [Transcript.rows, foldl_cons]
    exact heard_rows IdeateRecord.tells (started.heard rfl rfl)

end Told

end CouncilKit.Runs
