import CouncilKit.Data.JsString
import CouncilKit.Data.Transition

namespace CouncilKit.Repair

open Data Function

/-! One file names the run that may write.  Every process works for one run; each
file read, exclusive create, atomic replace and unlink is one step, and so is
each look at which processes are alive.  A process stops for good when it dies.
-/

inductive HolderKind where
  | repair | fix | apply
deriving DecidableEq

structure WriterLease where
  key : JsString
  holderKind : HolderKind
  holderRunId : JsString
  pid : Nat
  writerPids : Option (List Nat) := none
  epoch : Nat
  grantedAt : JsString
deriving DecidableEq

namespace WriterLease

/-- `writerLeaseSchema` -/
def accept (lease : WriterLease) : Bool :=
  1 ≤ lease.key.length && lease.key.length ≤ 400 &&
    1 ≤ lease.holderRunId.length && lease.holderRunId.length ≤ 80 && 0 < lease.pid &&
    lease.writerPids.all (fun pids => pids.length ≤ 16 && pids.all (0 < ·)) &&
    1 ≤ lease.grantedAt.length && lease.grantedAt.length ≤ 40

def extras (lease : WriterLease) : List Nat := lease.writerPids.getD []

end WriterLease

/-- What an acquire is called with, besides the branch and the caller's run and pid. -/
structure AcquireRequest where
  holderKind : HolderKind
  writerPids : List Nat := []
  journalChecked : Bool := false
  remoteChecked : Bool := false
  grantedAt : JsString
deriving DecidableEq

inductive ReplacePurpose where
  | acquire | update
deriving DecidableEq

inductive LeasePhase where
  | idle
  | reading (request : AcquireRequest)
  /-- The file was absent: about to create it exclusively. -/
  | creating (request : AcquireRequest)
  /-- The create failed: about to read what won. -/
  | rereading (request : AcquireRequest)
  | deciding (request : AcquireRequest) (seen : WriterLease)
  | updating (pids : List Nat)
  /-- About to write `next` over the file, which read `seen`. -/
  | replacing (purpose : ReplacePurpose) (seen next : WriterLease)
  | releasing
  | checking (seen : WriterLease)
  | unlinking (seen : WriterLease)
deriving DecidableEq

abbrev LeaseProcess := Nat

/-- `granted` marks the processes whose acquire returned the lease and whose run
has not released it since; the code does not store it. -/
structure LeaseSystem where
  file : Option WriterLease
  alive : LeaseProcess → Bool
  phase : LeaseProcess → LeasePhase
  granted : LeaseProcess → Bool

inductive LeaseAction where
  /-- `acquireWriterLease` -/
  | acquire (process : LeaseProcess) (request : AcquireRequest)
  /-- `updateWriterPids` -/
  | update (process : LeaseProcess) (writerPids : List Nat)
  /-- `releaseWriterLease` -/
  | release (process : LeaseProcess)
  | read (process : LeaseProcess)
  | create (process : LeaseProcess)
  /-- The checks between the read and the write; `settled` is `isHolderSettled`. -/
  | decide (process : LeaseProcess) (settled : Bool)
  | replace (process : LeaseProcess)
  | unlink (process : LeaseProcess)
  | die (process : LeaseProcess)

/-- The branch under contention and the run each process works for. -/
structure Branch where
  key : JsString
  runOf : LeaseProcess → JsString

namespace LeaseSystem

variable (branch : Branch) (system : LeaseSystem) (process : LeaseProcess)

def goto (phase : LeasePhase) : LeaseSystem :=
  { system with phase := update system.phase process phase }

def requested (request : AcquireRequest) : WriterLease where
  key := branch.key
  holderKind := request.holderKind
  holderRunId := branch.runOf process
  pid := process
  writerPids := if request.writerPids = [] then none else some request.writerPids
  epoch := 1
  grantedAt := request.grantedAt

/-- `takeExisting`: what to write over `existing`, if the caller may. -/
def takeExisting (existing : WriterLease) (request : AcquireRequest) (settled : Bool) :
    Option WriterLease :=
  let next := requested branch process request
  if existing.holderRunId = next.holderRunId then
    some { existing with
      pid := next.pid
      writerPids := next.writerPids.or existing.writerPids }
  else if system.alive existing.pid || existing.extras.any system.alive then none
  else if !settled && !(request.journalChecked && request.remoteChecked) then none
  else some { next with epoch := existing.epoch + 1 }

def readFile : LeasePhase → Option LeasePhase
  | .reading request => some (match system.file with
      | none => .creating request
      | some lease => if lease.accept then .deciding request lease else .idle)
  | .rereading request => some (match system.file with
      | none => .idle
      | some lease => if lease.accept then .deciding request lease else .idle)
  | .updating pids => some (match system.file with
      | none => .idle
      | some lease =>
        if lease.accept ∧ lease.holderRunId = branch.runOf process then
          .replacing .update lease
            { lease with writerPids := some (unique (lease.extras ++ pids)) }
        else .idle)
  | .releasing => some (match system.file with
      | none => .idle
      | some lease =>
        if lease.accept ∧ lease.holderRunId = branch.runOf process then .checking lease
        else .idle)
  | _ => none

def releaseRun : LeaseSystem :=
  { system with
    file := none
    granted := fun other => system.granted other && branch.runOf other ≠ branch.runOf process }

def actor : LeaseAction → LeaseProcess
  | .acquire process _ | .update process _ | .release process | .read process | .create process
  | .decide process _ | .replace process | .unlink process | .die process => process

def perform : LeaseAction → Option LeaseSystem
  | .acquire process request =>
    if system.phase process = .idle then some (system.goto process (.reading request)) else none
  | .update process writerPids =>
    let pids := writerPids.filter (0 < ·)
    if system.phase process = .idle then
      some (if pids = [] then system else system.goto process (.updating pids))
    else none
  | .release process =>
    if system.phase process = .idle then some (system.goto process .releasing) else none
  | .read process =>
    (system.readFile branch process (system.phase process)).map (system.goto process)
  | .create process =>
    match system.phase process with
    | .creating request => some (match system.file with
        | none => { system.goto process .idle with
            file := some (requested branch process request)
            granted := update system.granted process true }
        | some _ => system.goto process (.rereading request))
    | _ => none
  | .decide process settled =>
    match system.phase process with
    | .deciding request seen =>
      some (match system.takeExisting branch process seen request settled with
        | some next => system.goto process (.replacing .acquire seen next)
        | none => system.goto process .idle)
    | .checking seen =>
      some (if seen.extras.any system.alive then system.goto process .idle
        else system.goto process (.unlinking seen))
    | _ => none
  | .replace process =>
    match system.phase process with
    | .replacing purpose _ next => some { system.goto process .idle with
        file := some next
        granted := if purpose = .acquire then update system.granted process true
          else system.granted }
    | _ => none
  | .unlink process =>
    match system.phase process with
    | .unlinking _ => some (match system.file with
        | none => system.goto process .idle
        | some _ => (system.goto process .idle).releaseRun branch process)
    | _ => none
  | .die process => some { system.goto process .idle with
      alive := update system.alive process false }

def step (action : LeaseAction) : Option LeaseSystem :=
  if system.alive (actor action) then system.perform branch action else none

end LeaseSystem

end CouncilKit.Repair
