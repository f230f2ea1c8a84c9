import CouncilKit.Data.Transition
import CouncilKit.Host.EventReader

namespace CouncilKit.Host.EventReader

open Data

structure FollowCloseSnapshot where
  state : JsString
  /-- `none` is no finite number. -/
  lastSeq : Option Int

inductive StopReason where
  | lost | exhausted

inductive FollowAfterClose where
  | reconnect (catchUpSpent : Bool)
  | stop (reason : StopReason)

def decideFollowAfterClose (snapshot : Option FollowCloseSnapshot) (consumedSeq : Nat)
    (progressed catchUpSpent : Bool) : FollowAfterClose :=
  match snapshot with
  | none => .stop .lost
  | some snapshot =>
    if snapshot.state = js "running" then .reconnect false
    else if ¬ snapshot.lastSeq.any (fun lastSeq => (consumedSeq : Int) < lastSeq) then .stop .exhausted
    else if progressed then .reconnect false
    else if !catchUpSpent then .reconnect true
    else .stop .exhausted

structure ExecutionStatus where
  state : JsString
  lastSeq : Option Nat

structure Turn where
  response : Response
  /-- `deadlineSignal.aborted` behind the connection, in its last line or where its error is caught. -/
  aborted : Bool := false
  /-- What `refreshAuthForStream` throws. -/
  refreshError : Option StreamError := none
  abortedRefresh : Bool := false
  /-- What `rawClient` throws. -/
  clientError : Option StreamError := none
  /-- The connection made again with the refreshed authentication. -/
  again : Response := .aborted
  abortedAgain : Bool := false
  /-- What `getExecution` reports, unless it throws. -/
  execution : Option ExecutionStatus
  abortedAfter : Bool := false

inductive TerminalOutcome (ε : Type) where
  | terminal (event : ε)
  | closed (afterSeq : Nat)
  | aborted

structure DriveState where
  resumeAt : Nat := 0
  catchUpSpent : Bool := false
deriving DecidableEq

inductive Fault where
  | aborted
  | throws (error : StreamError)

inductive Driven (ε : Type) where
  | goesOn (state : DriveState)
  | stops (reason : Option StopReason) (outcome : TerminalOutcome ε)
  | throws (error : StreamError)

def isEventStreamAuthError : StreamError → Bool
  | .eventStream status _ => status = 401 || status = 403
  | _ => false

variable {ε : Type} [EventSchema ε]

/-- The `catch` around a connection, or around the refresh before it. -/
def caught (aborted : Bool) (error : StreamError) : Fault :=
  if aborted && error = .abort then .aborted else .throws error

/-- The part of a turn that follows the stream, once more when the authentication was refused. -/
def followTurn (state : DriveState) (turn : Turn) : Except Fault (FollowOutcome ε) :=
  match (followExecutionEvents state.resumeAt turn.response turn.aborted).2 with
  | .ok outcome => .ok outcome
  | .error error =>
    if isEventStreamAuthError error && !turn.aborted then
      match turn.refreshError with
      | some refreshError => .error (caught turn.abortedRefresh refreshError)
      | none =>
        if turn.abortedRefresh then .error .aborted
        else match turn.clientError with
          | some clientError => .error (.throws clientError)
          | none =>
            (followExecutionEvents state.resumeAt turn.again turn.abortedAgain).2.mapError
              (caught turn.abortedAgain)
    else .error (caught turn.aborted error)

def Turn.snapshot (turn : Turn) : Option FollowCloseSnapshot :=
  turn.execution.map fun status => ⟨status.state, some ((status.lastSeq.map Int.ofNat).getD (-1))⟩

def driveTurn (state : DriveState) (turn : Turn) : Driven ε :=
  match followTurn state turn with
  | .error .aborted => .stops none .aborted
  | .error (.throws error) => .throws error
  | .ok (.terminal event) => .stops none (.terminal event)
  | .ok (.aborted _) => .stops none .aborted
  | .ok (.closed lastSeq) =>
    if turn.abortedAfter then .stops none .aborted
    else match decideFollowAfterClose turn.snapshot lastSeq (state.resumeAt < lastSeq) state.catchUpSpent with
      | .stop reason => .stops (some reason) (.closed lastSeq)
      | .reconnect catchUpSpent => .goesOn ⟨lastSeq, catchUpSpent⟩

def driveStep (ε : Type) [EventSchema ε] (state : DriveState) (turn : Turn) : Option DriveState :=
  match @driveTurn ε _ state turn with
  | .goesOn next => some next
  | _ => none

def closedAt (ε : Type) [EventSchema ε] (state : DriveState) (turn : Turn) : Option Nat :=
  match @followTurn ε _ state turn with
  | .ok (.closed lastSeq) => some lastSeq
  | _ => none

section

variable {state next : DriveState} {turn : Turn} {lastSeq : Nat} {reason : StopReason}
  {outcome : TerminalOutcome ε}

theorem driveTurn_goesOn (goes : @driveTurn ε _ state turn = .goesOn next) :
    closedAt ε state turn = some next.resumeAt ∧
      decideFollowAfterClose turn.snapshot next.resumeAt (state.resumeAt < next.resumeAt)
        state.catchUpSpent = .reconnect next.catchUpSpent := by
  unfold driveTurn at goes
  split at goes
  · cases goes
  · cases goes
  · cases goes
  · cases goes
  · rename_i lastSeq followed
    split at goes
    · cases goes
    · split at goes
      · cases goes
      · rename_i decided
        cases goes
        exact ⟨by rw [closedAt, followed], decided⟩

theorem driveTurn_stops (stops : @driveTurn ε _ state turn = .stops (some reason) outcome) :
    ∃ lastSeq, closedAt ε state turn = some lastSeq ∧ outcome = .closed lastSeq ∧
      decideFollowAfterClose turn.snapshot lastSeq (state.resumeAt < lastSeq)
        state.catchUpSpent = .stop reason := by
  unfold driveTurn at stops
  split at stops
  · cases stops
  · cases stops
  · cases stops
  · cases stops
  · rename_i lastSeq followed
    split at stops
    · cases stops
    · split at stops
      · rename_i decided
        cases stops
        exact ⟨lastSeq, by rw [closedAt, followed], rfl, decided⟩
      · cases stops

theorem driveStep_some (stepped : driveStep ε state turn = some next) :
    closedAt ε state turn = some next.resumeAt ∧
      decideFollowAfterClose turn.snapshot next.resumeAt (state.resumeAt < next.resumeAt)
        state.catchUpSpent = .reconnect next.catchUpSpent := by
  unfold driveStep at stepped
  split at stepped
  · rename_i goes
    cases stepped
    exact driveTurn_goesOn goes
  · cases stepped

end

def ReportsEnd (last : Nat) (turn : Turn) : Prop :=
  ∃ status, turn.execution = some status ∧ status.state ≠ js "running" ∧ status.lastSeq = some last

/-- The last number seen on a connection lies between where it resumed and the Host's. -/
def Fair (ε : Type) [EventSchema ε] (last : Nat) (state : DriveState) (turn : Turn) : Prop :=
  ∀ lastSeq, closedAt ε state turn = some lastSeq → state.resumeAt ≤ lastSeq ∧ lastSeq ≤ last

/-- Two connections for each event that is unseen; one less once an empty one was allowed. -/
def DriveState.weight (state : DriveState) (last : Nat) : Nat :=
  2 * (last - state.resumeAt) - if state.catchUpSpent then 1 else 0

section

variable {state next final : DriveState} {turn : Turn} {last : Nat}

theorem decide_terminal {status : FollowCloseSnapshot} {consumedSeq : Nat} {progressed spent again : Bool}
    (ended : status.state ≠ js "running")
    (reconnects : decideFollowAfterClose (some status) consumedSeq progressed spent = .reconnect again) :
    (∃ lastSeq, status.lastSeq = some lastSeq ∧ (consumedSeq : Int) < lastSeq) ∧
      (progressed = true ∧ again = false ∨ progressed = false ∧ spent = false ∧ again = true) := by
  rw [decideFollowAfterClose, if_neg ended] at reconnects
  split at reconnects
  · cases reconnects
  · rename_i ahead
    refine ⟨(Option.any_eq_true _ _).mp (by simpa using ahead) |>.imp fun lastSeq both => ⟨both.1, by simpa using both.2⟩, ?_⟩
    split at reconnects
    · rename_i moved
      cases reconnects
      exact .inl ⟨moved, rfl⟩
    · rename_i still
      split at reconnects
      · rename_i unspent
        cases reconnects
        exact .inr ⟨by simpa using still, by simpa using unspent, rfl⟩
      · cases reconnects

theorem weight_step (reports : ReportsEnd last turn) (fair : Fair ε last state turn)
    (stepped : driveStep ε state turn = some next) :
    next.resumeAt < last ∧ (state.resumeAt < last → next.weight last < state.weight last) := by
  obtain ⟨closed, decided⟩ := driveStep_some stepped
  obtain ⟨status, reported, ended, number⟩ := reports
  obtain ⟨least, most⟩ := fair _ closed
  rw [Turn.snapshot, reported, Option.map_some, number] at decided
  obtain ⟨⟨lastSeq, same, ahead⟩, moves⟩ := decide_terminal ended decided
  cases same
  have unseen : next.resumeAt < last := by simpa using ahead
  refine ⟨unseen, ?_⟩
  intro before
  simp only [DriveState.weight]
  rcases moves with ⟨moved, again⟩ | ⟨still, unspent, again⟩
  · have more : state.resumeAt < next.resumeAt := by simpa using moved
    have spent : (if state.catchUpSpent then 1 else 0) ≤ 1 := by split <;> omega
    rw [again, if_neg Bool.false_ne_true]
    omega
  · have same : ¬ state.resumeAt < next.resumeAt := by simpa using still
    rw [again, unspent, if_pos rfl, if_neg Bool.false_ne_true]
    omega

theorem weight_run (rest : List Turn) (before : state.resumeAt < last)
    (run : Run (driveStep ε) (fun state turn => ReportsEnd last turn ∧ Fair ε last state turn) state rest final) :
    final.resumeAt < last ∧ rest.length + final.weight last ≤ state.weight last := by
  induction run with
  | done => exact ⟨before, by simp⟩
  | next met stepped _ ih =>
    obtain ⟨unseen, less⟩ := weight_step met.1 met.2 stepped
    obtain ⟨ahead, bound⟩ := ih unseen
    have lighter := less before
    refine ⟨ahead, ?_⟩
    rw [List.length_cons]
    omega

end

/-- Once the Host reports the end with a fixed last number, one connection is the last after so
many further ones as the bound allows for the events unseen at the report. -/
def StopsWithin (ε : Type) [EventSchema ε] (bound : Nat → Nat) : Prop :=
  ∀ (last : Nat) (state behind final : DriveState) (report : Turn) (further : List Turn),
    ReportsEnd last report → Fair ε last state report → driveStep ε state report = some behind →
    Run (driveStep ε) (fun state turn => ReportsEnd last turn ∧ Fair ε last state turn) behind further final →
    further.length + 1 ≤ bound (last - behind.resumeAt)

theorem stopsWithin_twice : StopsWithin ε (2 * ·) := by
  intro last state behind final report further reports fair stepped run
  obtain ⟨unseen, _⟩ := weight_step reports fair stepped
  obtain ⟨ahead, bound⟩ := weight_run further unseen run
  simp only [DriveState.weight] at bound
  have one : (if final.catchUpSpent then 1 else 0) ≤ 1 := by split <;> omega
  change further.length + 1 ≤ 2 * (last - behind.resumeAt)
  omega

/-- When the loop gives up, the Host has reported the end, and the last connection brought nothing
or left nothing. -/
theorem exhausted_justified {state : DriveState} {turn : Turn} {outcome : TerminalOutcome ε}
    (stops : driveTurn state turn = .stops (some .exhausted) outcome) :
    ∃ lastSeq status, closedAt ε state turn = some lastSeq ∧ turn.execution = some status ∧
      status.state ≠ js "running" ∧
      ¬ (state.resumeAt < lastSeq ∧ ∃ last, status.lastSeq = some last ∧ lastSeq < last) := by
  obtain ⟨lastSeq, closed, _, decided⟩ := driveTurn_stops stops
  cases reported : turn.execution with
  | none =>
    rw [Turn.snapshot, reported] at decided
    cases decided
  | some status =>
    rw [Turn.snapshot, reported, Option.map_some, decideFollowAfterClose] at decided
    split at decided
    · cases decided
    · rename_i ended
      refine ⟨lastSeq, status, closed, rfl, ended, ?_⟩
      rintro ⟨moved, last, number, ahead⟩
      simp [number, moved, ahead] at decided

/-- The loop ends within two connections for each event unseen when the end was reported, and
never gives up while the execution runs or behind a connection that brought some and left some. -/
theorem follow_ends : StopsWithin ε (2 * ·) ∧
    ∀ state turn outcome, @driveTurn ε _ state turn = .stops (some .exhausted) outcome →
      ∃ lastSeq status, closedAt ε state turn = some lastSeq ∧ turn.execution = some status ∧
        status.state ≠ js "running" ∧
        ¬ (state.resumeAt < lastSeq ∧ ∃ last, status.lastSeq = some last ∧ lastSeq < last) := by
  constructor
  · exact stopsWithin_twice
  · intro state turn outcome stops
    exact exhausted_justified stops

def deltaText (seq : Nat) : JsString :=
  js "\x7b\"executionId\":\"e\",\"seq\":" ++ .ofNat seq ++
    js ",\"at\":\"2026-01-01T00:00:00.000Z\",\"type\":\"output.delta\",\"text\":\"x\"\x7d"

/-- The deltas with the numbers 1 to 4, read as their numbers. -/
@[reducible] def deltaSchema : EventSchema Nat where
  parse data := [1, 2, 3, 4].find? fun seq => data = deltaText seq
  seq event := event
  isTerminalEvent _ := false

/-- A connection that brings these deltas, behind which the Host reports 4 events and the end. -/
def brings (seqs : List Nat) : Turn where
  response := .stream (seqs.map fun seq =>
    (js "event: runtime\ndata: " ++ deltaText seq ++ js "\n\n").map (·.toUInt8)) .done
  execution := some ⟨js "completed", some 4⟩

/-- Six more connections are made for the three events unseen at the report. -/
theorem catch_up_again : ¬ @StopsWithin Nat deltaSchema (· + 2) := by
  intro within
  let _ := deltaSchema
  have reports (seqs : List Nat) : ReportsEnd 4 (brings seqs) := ⟨_, rfl, by decide, rfl⟩
  have fair {state : DriveState} {seqs : List Nat} {reached : Nat}
      (closed : closedAt Nat state (brings seqs) = some reached)
      (between : state.resumeAt ≤ reached ∧ reached ≤ 4) : Fair Nat 4 state (brings seqs) := by
    intro lastSeq found
    cases closed.symm.trans found
    exact between
  have first : closedAt Nat ⟨0, false⟩ (brings [1]) = some 1 := by decide +kernel
  have firstStep : driveStep Nat ⟨0, false⟩ (brings [1]) = some ⟨1, false⟩ := by decide +kernel
  have second : closedAt Nat ⟨1, false⟩ (brings []) = some 1 := by decide +kernel
  have secondStep : driveStep Nat ⟨1, false⟩ (brings []) = some ⟨1, true⟩ := by decide +kernel
  have third : closedAt Nat ⟨1, true⟩ (brings [2]) = some 2 := by decide +kernel
  have thirdStep : driveStep Nat ⟨1, true⟩ (brings [2]) = some ⟨2, false⟩ := by decide +kernel
  have fourth : closedAt Nat ⟨2, false⟩ (brings []) = some 2 := by decide +kernel
  have fourthStep : driveStep Nat ⟨2, false⟩ (brings []) = some ⟨2, true⟩ := by decide +kernel
  have fifth : closedAt Nat ⟨2, true⟩ (brings [3]) = some 3 := by decide +kernel
  have fifthStep : driveStep Nat ⟨2, true⟩ (brings [3]) = some ⟨3, false⟩ := by decide +kernel
  have sixth : closedAt Nat ⟨3, false⟩ (brings []) = some 3 := by decide +kernel
  have sixthStep : driveStep Nat ⟨3, false⟩ (brings []) = some ⟨3, true⟩ := by decide +kernel
  have bound := within 4 _ _ _ _ _ (reports [1]) (fair first (by decide)) firstStep
    (.next ⟨reports _, fair second (by decide)⟩ secondStep
      (.next ⟨reports _, fair third (by decide)⟩ thirdStep
        (.next ⟨reports _, fair fourth (by decide)⟩ fourthStep
          (.next ⟨reports _, fair fifth (by decide)⟩ fifthStep
            (.next ⟨reports _, fair sixth (by decide)⟩ sixthStep (.done _))))))
  revert bound
  decide

end CouncilKit.Host.EventReader
