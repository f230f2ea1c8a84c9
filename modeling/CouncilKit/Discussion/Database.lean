import CouncilKit.Data.Fallible
import CouncilKit.Discussion.ContextSnapshot

namespace CouncilKit.Discussion

open Data

/-! A transaction that throws changes nothing, so it is a function to `Except`. -/

inductive TransactionErrorCode where
  | INVALID | ROOM_NOT_FOUND | ROOM_PAUSED | ROOM_CONCLUDED | STALE_CONTROLLER | STALE_EXECUTION
  | ROUND_NOT_FOUND | ROUND_ACTIVE_EXISTS | ROUND_PHASE | ROUND_FINAL | ROUND_INVARIANT
  | REPORT_IN_PROGRESS | SKIP_NOT_APPLICABLE | FACILITATOR_NOT_SKIPPABLE | FACILITATOR_MISMATCH
  | PARTICIPANT_NOT_FOUND | PARTICIPANT_INACTIVE | FOCUS_REQUIRED | EXECUTION_ACTIVE
  | EXECUTION_NOT_FOUND | EXECUTION_STATE | EXECUTION_NOT_COMMITTABLE | IDEMPOTENCY_CONFLICT
  | BINDING_NOT_FOUND | BINDING_STALE | BINDING_ACTIVE_EXISTS | ROOM_LIVE
  /-- The database's own error for a key or a unique index that is taken. -/
  | ConstraintError
deriving DecidableEq

structure TransactionError where
  code : TransactionErrorCode
  message : JsString
deriving DecidableEq

structure Database where
  participants : Table Participant.id
  rooms : Table DiscussionRoom.id
  rounds : Table DiscussionRound.id
  messages : Table DiscussionMessage.id
  summaries : Table DiscussionSummary.id
  reports : Table DecisionReport.id
  modelExecutions : Table ModelExecution.executionId
  runtimeBindings : Table RuntimeBinding.id

structure ControllerToken where
  controllerId : JsString
  leaseEpoch : Nat
deriving DecidableEq

/-- What a transaction takes from outside: the clock and a random id. -/
structure Stamp where
  now : JsString
  uuid : JsString

abbrev Outcome (α : Type) := Except TransactionError α

def fault (code : TransactionErrorCode) (message : JsString) : TransactionError := ⟨code, message⟩

def constraint : TransactionError := fault .ConstraintError (js "ConstraintError")

def withConflictTranslation {α : Type} (work : Outcome α) : Outcome α :=
  match work with
  | .ok value => .ok value
  | .error failure =>
    .error (if failure.code = .ConstraintError then
      fault .IDEMPOTENCY_CONFLICT (js "a committed entity already exists for this executionId")
    else failure)

theorem withConflictTranslation_ok {α : Type} {work : Outcome α} {value : α} :
    withConflictTranslation work = .ok value ↔ work = .ok value := by
  cases work <;> simp [withConflictTranslation]

/-- `first()` of an indexed query: the row with the least primary key. -/
def firstRow {α : Type} (keyOf : α → JsString) : List α → Option α
  | [] => none
  | row :: rest =>
    match firstRow keyOf rest with
    | none => some row
    | some other => if (keyOf other).Before (keyOf row) then some other else some row

namespace Database

def empty : Database := ⟨.empty, .empty, .empty, .empty, .empty, .empty, .empty, .empty⟩

variable (db : Database)

def requireRoom (roomId : JsString) : Outcome DiscussionRoom :=
  fetch (db.rooms.get roomId) (fault .ROOM_NOT_FOUND (js "unknown room " ++ roomId))

def activeBinding (roomId : JsString) : Option RuntimeBinding :=
  firstRow RuntimeBinding.id
    (db.runtimeBindings.rows.filter fun binding => binding.roomId = roomId ∧ binding.state = .active)

def Controls (roomId : JsString) (token : ControllerToken) : Prop :=
  ∃ binding, db.activeBinding roomId = some binding ∧
    binding.controllerId = some token.controllerId ∧ binding.leaseEpoch = some token.leaseEpoch

instance (roomId : JsString) (token : ControllerToken) : Decidable (db.Controls roomId token) :=
  decidable_of_iff ((db.activeBinding roomId).any fun binding =>
      binding.controllerId = some token.controllerId ∧
        binding.leaseEpoch = some token.leaseEpoch) (by
    cases found : db.activeBinding roomId <;> simp [Controls, found])

def requireController (roomId : JsString) (token : ControllerToken) : Outcome Unit :=
  require (db.Controls roomId token) (fault .STALE_CONTROLLER
    (js "controllerId/leaseEpoch does not match the active runtime binding"))

def putRoom (room : DiscussionRoom) : Database := { db with rooms := db.rooms.put room }

def putRound (round : DiscussionRound) : Database := { db with rounds := db.rounds.put round }

def putExecution (execution : ModelExecution) : Database :=
  { db with modelExecutions := db.modelExecutions.put execution }

def putBinding (binding : RuntimeBinding) : Database :=
  { db with runtimeBindings := db.runtimeBindings.put binding }

def addRound (round : DiscussionRound) : Outcome Database :=
  (fetch (db.rounds.add round) constraint).map fun rounds => { db with rounds }

def addExecution (execution : ModelExecution) : Outcome Database :=
  (fetch (db.modelExecutions.add execution) constraint).map fun modelExecutions =>
    { db with modelExecutions }

/-- `&sourceExecutionId` is sparse: user messages do not appear in it. -/
def addMessage (message : DiscussionMessage) : Outcome Database := do
  require (message.sourceExecutionId = none ∨ ∀ other ∈ db.messages.rows,
    other.sourceExecutionId ≠ message.sourceExecutionId) constraint
  let messages ← fetch (db.messages.add message) constraint
  return { db with messages }

def addSummary (summary : DiscussionSummary) : Outcome Database := do
  require (∀ other ∈ db.summaries.rows, other.roundId ≠ summary.roundId ∧
    other.sourceExecutionId ≠ summary.sourceExecutionId) constraint
  let summaries ← fetch (db.summaries.add summary) constraint
  return { db with summaries }

def addReport (report : DecisionReport) : Outcome Database := do
  require (∀ other ∈ db.reports.rows, other.sourceExecutionId ≠ report.sourceExecutionId) constraint
  let reports ← fetch (db.reports.add report) constraint
  return { db with reports }

def addBinding (binding : RuntimeBinding) : Outcome Database := do
  require (∀ other ∈ db.runtimeBindings.rows, other.scopeRequestId ≠ binding.scopeRequestId) constraint
  let runtimeBindings ← fetch (db.runtimeBindings.add binding) constraint
  return { db with runtimeBindings }

def sharedContext (room : DiscussionRoom) : SharedProjection :=
  projectSharedContext room.topic room.background
    (db.messages.rows.filter fun message => message.roomId = room.id)
    (db.summaries.rows.filter fun summary => summary.roomId = room.id)

variable [Digest]

/-- The room row `bumpRoomContext` puts. -/
def bumped (room : DiscussionRoom) (now : JsString) : DiscussionRoom :=
  { room with
    contextRevision := room.contextRevision + 1
    contextDigest := computeContextDigest (db.sharedContext room)
    lastActiveAt := now }

def bumpRoomContext (room : DiscussionRoom) (now : JsString) : Database :=
  db.putRoom (db.bumped room now)

end Database

end CouncilKit.Discussion
