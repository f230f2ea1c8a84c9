import CouncilKit.Data.Json
import CouncilKit.Data.Transition

namespace CouncilKit.Council

open Data Data.JsString

/-! `executeTurn` as the calls it waits on.  A label is the answer to the call in
flight, or an abort, which can come at any time.
-/

abbrev ExecutionId := JsString

inductive AckDisposition where
  | committed | discarded
deriving DecidableEq

inductive DispatchState where
  | not_dispatched | accepted | unknown
deriving DecidableEq

inductive AbortSource where
  | deadline | external
deriving DecidableEq

inductive TurnVerdict where
  | completed | failed | interrupted | timeout | cancelled
deriving DecidableEq

structure TurnError where
  phase : JsString
  code : JsString
deriving DecidableEq

structure TerminalEvidence where
  output : JsString
  finalSeq : Nat
deriving DecidableEq

inductive AckResult where
  | acknowledged | conflict | skipped
deriving DecidableEq

structure TurnResult where
  verdict : TurnVerdict
  dispatchState : DispatchState
  terminal : Option TerminalEvidence
  ack : AckResult
  error : Option TurnError
deriving DecidableEq

inductive HostCall where
  | execute
  | cancel
  | ack (disposition : AckDisposition) (finalSeq : Nat)
deriving DecidableEq

inductive TerminalEvent where
  | completed (evidence : TerminalEvidence)
  | failed (dispatchState : DispatchState) (error : TurnError) (seq : Nat)
  | interrupted (dispatchState : DispatchState) (error : TurnError) (seq : Nat)
deriving DecidableEq

/-- How following the stream ended, a refresh of the session included. -/
inductive FollowAnswer where
  | terminal (event : TerminalEvent)
  | aborted
  | closed (lastSeq : Nat)
  | threw (error : TurnError) (abortError : Bool)
deriving DecidableEq

inductive DispatchProbe where
  | dispatched | notDispatched | unknown
deriving DecidableEq

/-- One look at the execution after a cancel; `lost`: the look failed or the
cleanup budget is spent. -/
inductive ObserveAnswer where
  | terminal (lastSeq : Nat)
  | running
  | lost
deriving DecidableEq

inductive AckAnswer where
  | acknowledged
  | refused
  | threw (abortError : Bool)
deriving DecidableEq

inductive TurnLabel where
  | connected (ok : Bool)
  | executed (error : Option TurnError)
  | probed (probe : DispatchProbe)
  | cancelled
  | observed (answer : ObserveAnswer)
  | followed (answer : FollowAnswer)
  | checked (snapshot : Option (Bool × Nat))
  | persisted (error : Option TurnError)
  | acked (answer : AckAnswer)
  | abort (source : AbortSource)
deriving DecidableEq

abbrev CleanupCause := Option TurnError

inductive TurnPhase where
  | connecting
  | executing
  | probing (error : TurnError)
  | cancelling (cause : CleanupCause)
  | observing (cause : CleanupCause) (attempt : Nat)
  | cleaning (cause : CleanupCause)
  | following (resumeAt : Nat) (catchUpSpent : Bool)
  | checking (resumeAt : Nat) (progressed catchUpSpent : Bool)
  | persisting (evidence : TerminalEvidence)
  | acking (verdict : TurnVerdict) (terminal : Option TerminalEvidence) (error : Option TurnError)
  | finished (result : TurnResult)
  | rejected
deriving DecidableEq

structure Turn where
  executionId : ExecutionId
  /-- The code of the generation rule. -/
  limitCode : JsString
  phase : TurnPhase := .connecting
  abortSource : Option AbortSource := none
  dispatchState : DispatchState := .not_dispatched
  ack : AckResult := .skipped
  ackDefinitiveConflict : Bool := false
  ackAborted : Bool := false
deriving DecidableEq

namespace Turn

variable (turn : Turn)

def goto (phase : TurnPhase) : Turn := { turn with phase }

def abortVerdict : TurnVerdict :=
  if turn.abortSource = some .deadline then .timeout else .cancelled

def abortError : TurnError :=
  if turn.abortSource = some .deadline then ⟨js "deadline", turn.limitCode⟩
  else ⟨js "cleanup", js "CANCELLED"⟩

def ACK_FAILED_ERROR : TurnError := ⟨js "ack", js "ACK_FAILED"⟩

def make (verdict : TurnVerdict) (error : Option TurnError)
    (terminal : Option TerminalEvidence := none) : TurnResult :=
  ⟨verdict, turn.dispatchState, terminal, turn.ack, error⟩

def finish (verdict : TurnVerdict) (error : Option TurnError)
    (terminal : Option TerminalEvidence := none) : Turn :=
  turn.goto (.finished (turn.make verdict error terminal))

def finishCleanup (cause : CleanupCause) : Turn :=
  match cause, turn.abortSource with
  | some error, none => turn.finish .failed (some error)
  | _, _ => turn.finish turn.abortVerdict (some turn.abortError)

/-- What `ackOnce` records; the answer is neither an ACK nor an abort when the
third component is false. -/
def settleAck : AckAnswer → Turn × Bool
  | .acknowledged => ({ turn with ack := .acknowledged }, true)
  | .refused => ({ turn with ack := .conflict, ackDefinitiveConflict := true }, false)
  | .threw abortError =>
    if turn.abortSource.isSome || abortError then ({ turn with ackAborted := true }, true)
    else ({ turn with ack := .conflict, ackDefinitiveConflict := true }, false)

/-- `remapIfAborted`: an abort up to the ACK downgrades the verdict. -/
def finishAcked (verdict : TurnVerdict) (terminal : Option TerminalEvidence)
    (error : Option TurnError) : Turn :=
  if turn.ackDefinitiveConflict = false ∧ (turn.abortSource.isSome || turn.ackAborted) = true then
    turn.finish turn.abortVerdict (some turn.abortError) terminal
  else turn.finish verdict error terminal

/-- `decideFollowAfterClose`: the new `catchUpSpent`, or none to stop. -/
def decideFollowAfterClose (snapshot : Option (Bool × Nat)) (consumedSeq : Nat)
    (progressed catchUpSpent : Bool) : Option Bool :=
  match snapshot with
  | none => none
  | some (running, lastSeq) =>
    if running then some false
    else if lastSeq ≤ consumedSeq then none
    else if progressed then some false
    else if catchUpSpent then none
    else some true

def sendAck (disposition : AckDisposition) (finalSeq : Nat) (verdict : TurnVerdict)
    (terminal : Option TerminalEvidence) (error : Option TurnError) : Turn × List HostCall :=
  (turn.goto (.acking verdict terminal error), [.ack disposition (max 1 finalSeq)])

def onTerminal : TerminalEvent → Turn × List HostCall
  | .completed evidence =>
    if trim evidence.output = [] then
      turn.sendAck .discarded evidence.finalSeq .failed (some evidence)
        (some ⟨js "terminal", js "EMPTY_OUTPUT"⟩)
    else (turn.goto (.persisting evidence), [])
  | .failed dispatchState error seq =>
    { turn with dispatchState }.sendAck .discarded seq .failed none (some error)
  | .interrupted dispatchState error seq =>
    { turn with dispatchState }.sendAck .discarded seq .interrupted none (some error)

def startCleanup (cause : CleanupCause) : Turn × List HostCall :=
  (turn.goto (.cancelling cause), [.cancel])

def step (label : TurnLabel) : Option (Turn × List HostCall) :=
  match turn.phase, label with
  | .finished _, _ | .rejected, _ => none
  | _, .abort source => some ({ turn with abortSource := turn.abortSource.or (some source) }, [])
  | .connecting, .connected true => some (turn.goto .executing, [.execute])
  | .connecting, .connected false => some (turn.goto .rejected, [])
  | .executing, .executed none =>
    some ({ turn with dispatchState := .accepted, phase := .following 0 false }, [])
  | .executing, .executed (some error) => some (turn.goto (.probing error), [])
  | .probing error, .probed .notDispatched => some (turn.finishCleanup (some error), [])
  | .probing error, .probed .dispatched =>
    some ({ turn with dispatchState := .accepted }.startCleanup (some error))
  | .probing error, .probed .unknown =>
    some ({ turn with dispatchState := .unknown }.startCleanup (some error))
  | .cancelling cause, .cancelled => some (turn.goto (.observing cause 0), [])
  | .observing cause _, .observed (.terminal seq) =>
    some (turn.goto (.cleaning cause), [.ack .discarded (max 1 seq)])
  | .observing cause attempt, .observed .running =>
    if attempt + 1 < 5 then some (turn.goto (.observing cause (attempt + 1)), [])
    else some (turn.finishCleanup cause, [])
  | .observing cause _, .observed .lost => some (turn.finishCleanup cause, [])
  | .cleaning cause, .acked answer =>
    let (settled, fine) := turn.settleAck answer
    some (if fine then settled.finishCleanup cause
      else settled.finish .failed (some ACK_FAILED_ERROR), [])
  | .following _ _, .followed (.terminal event) => some (turn.onTerminal event)
  | .following _ _, .followed .aborted =>
    if turn.abortSource.isSome then some (turn.startCleanup none) else none
  | .following resumeAt catchUpSpent, .followed (.closed lastSeq) =>
    some (turn.goto (.checking lastSeq (resumeAt < lastSeq) catchUpSpent), [])
  | .following _ _, .followed (.threw error abortError) =>
    some (if abortError && turn.abortSource.isSome then
        turn.finish turn.abortVerdict (some turn.abortError)
      else turn.finish .failed (some error), [])
  | .checking resumeAt progressed catchUpSpent, .checked snapshot =>
    if turn.abortSource.isSome then some (turn.startCleanup none)
    else match decideFollowAfterClose snapshot resumeAt progressed catchUpSpent with
      | some spent => some (turn.goto (.following resumeAt spent), [])
      | none => some (turn.finish .failed (some ⟨js "stream", js "STREAM_CLOSED"⟩), [])
  | .persisting evidence, .persisted none =>
    some (turn.sendAck .committed evidence.finalSeq .completed (some evidence) none)
  | .persisting evidence, .persisted (some error) =>
    some (turn.sendAck .discarded evidence.finalSeq .failed (some evidence) (some error))
  | .acking verdict terminal error, .acked answer =>
    let (settled, fine) := turn.settleAck answer
    some (if fine then settled.finishAcked verdict terminal error
      else settled.finishAcked .failed terminal (some ACK_FAILED_ERROR), [])
  | _, _ => none

end Turn

end CouncilKit.Council
