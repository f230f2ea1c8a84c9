import CouncilKit.Data.JsString
import CouncilKit.Data.Transition

namespace CouncilKit.Repair

open Data

/-! The repair process and the detached supervisor replace one record file, each
under a lock file made by a hard link.  Each link, read, rename and unlink is
one step, and so are the read and the write of the record.  A process stops for
good when it dies; any process may start at any time.
-/

inductive ExecutionKind where
  | source_fix | verify | format | diagnose | plan | publish | final_review
deriving DecidableEq

inductive ExecutionState where
  | intent | reserved | started | running | completed | failed | cancelled | deadline_enforced
  | unknown_writer
deriving DecidableEq

inductive ExecutionResult where
  | ok | failed | no_commit | cancelled
deriving DecidableEq

structure RepairExecution where
  executionId : JsString
  kind : ExecutionKind
  state : ExecutionState
  chainId : JsString
  parentRunId : JsString
  inputSha : Option JsString
  contractVersion : Nat
  deadlineAtMs : Nat
  pids : List Nat
  startedAtMs : Option Nat
  endedAtMs : Option Nat
  consumedSourceFix : Bool
  result : Option ExecutionResult
deriving DecidableEq

def isTerminalRepairExecution : ExecutionState → Bool
  | .completed | .failed | .cancelled | .deadline_enforced => true
  | _ => false

/-- The text of a lock file: the pid, a blank and sixteen random hex digits.  It
is whole before the file gets its name. -/
structure LockToken where
  pid : Nat
  nonce : JsString
deriving DecidableEq

inductive LockPhase where
  | idle
  /-- About to link the lock file. -/
  | linking (token : LockToken)
  /-- The name was taken: about to read whose it is. -/
  | probing (token : LockToken)
  /-- The holder it read is dead: about to move the lock file away. -/
  | reclaiming (token seen : LockToken)
  /-- Inside: about to read the record. -/
  | entered (token : LockToken)
  /-- Inside: about to write over the record, which read `existing`. -/
  | writing (token : LockToken) (existing : Option RepairExecution) (next : RepairExecution)
  /-- Done with the record: about to read the lock file. -/
  | leaving (token : LockToken)
  /-- The lock file is its own: about to unlink it. -/
  | unlinking (token : LockToken)
deriving DecidableEq

namespace LockPhase

def held : LockPhase → Option LockToken
  | .entered token | .writing token _ _ | .leaving token | .unlinking token => some token
  | _ => none

end LockPhase

structure RecordLock where
  lock : Option LockToken
  record : Option RepairExecution
  alive : Nat → Bool
  phase : Nat → LockPhase

/-- `failed` marks an operation that throws; each is caught where it stands. -/
inductive LockAction where
  /-- `decideExecutionRecord`, up to the first link. -/
  | acquire (pid : Nat) (nonce : JsString)
  | link (pid : Nat)
  | probe (pid : Nat) (failed : Bool)
  | reclaim (pid : Nat) (failed : Bool)
  /-- The wait is over, or an operation that is not caught throws. -/
  | giveUp (pid : Nat)
  /-- Reads the record and asks the callback what to write. -/
  | decide (pid : Nat) (callback : Option RepairExecution → Option RepairExecution)
  | write (pid : Nat)
  | readLock (pid : Nat) (failed : Bool)
  | unlink (pid : Nat) (failed : Bool)
  | die (pid : Nat)

namespace RecordLock

variable (system : RecordLock) (pid : Nat)

def goto (phase : LockPhase) : RecordLock :=
  { system with phase := Function.update system.phase pid phase }

def holderAlive (token : LockToken) : Bool := 0 < token.pid && system.alive token.pid

/-- `readLockText`: an unreadable file counts as none. -/
def readLockText (failed : Bool) : Option LockToken := if failed then none else system.lock

def decideRecord (token : LockToken)
    (callback : Option RepairExecution → Option RepairExecution) : LockPhase :=
  if system.record.any (isTerminalRepairExecution ·.state) then .leaving token
  else match callback system.record with
    | none => .leaving token
    | some next => .writing token system.record next

def actor : LockAction → Nat
  | .acquire pid _ | .link pid | .probe pid _ | .reclaim pid _ | .giveUp pid | .decide pid _
  | .write pid | .readLock pid _ | .unlink pid _ | .die pid => pid

def perform : LockAction → Option RecordLock
  | .acquire pid nonce =>
    if system.phase pid = .idle then some (system.goto pid (.linking ⟨pid, nonce⟩)) else none
  | .link pid =>
    match system.phase pid with
    | .linking token => some (match system.lock with
        | none => { system.goto pid (.entered token) with lock := some token }
        | some _ => system.goto pid (.probing token))
    | _ => none
  | .probe pid failed =>
    match system.phase pid with
    | .probing token => some (match system.readLockText failed with
        | none => system.goto pid (.linking token)
        | some seen =>
          if system.holderAlive seen then system.goto pid (.linking token)
          else system.goto pid (.reclaiming token seen))
    | _ => none
  | .reclaim pid failed =>
    match system.phase pid with
    | .reclaiming token _ =>
      some (if failed then system.goto pid (.linking token)
        else { system.goto pid (.linking token) with lock := none })
    | _ => none
  | .giveUp pid =>
    match system.phase pid with
    | .linking _ | .probing _ => some (system.goto pid .idle)
    | .entered token | .writing token _ _ => some (system.goto pid (.leaving token))
    | _ => none
  | .decide pid callback =>
    match system.phase pid with
    | .entered token => some (system.goto pid (system.decideRecord token callback))
    | _ => none
  | .write pid =>
    match system.phase pid with
    | .writing token _ next => some { system.goto pid (.leaving token) with record := some next }
    | _ => none
  | .readLock pid failed =>
    match system.phase pid with
    | .leaving token =>
      some (if system.readLockText failed = some token then system.goto pid (.unlinking token)
        else system.goto pid .idle)
    | _ => none
  | .unlink pid failed =>
    match system.phase pid with
    | .unlinking _ =>
      some (if failed then system.goto pid .idle
        else { system.goto pid .idle with lock := none })
    | _ => none
  | .die pid => some { system.goto pid .idle with alive := Function.update system.alive pid false }

def step (action : LockAction) : Option RecordLock :=
  if system.alive (actor action) then system.perform action else none

end RecordLock

end CouncilKit.Repair
