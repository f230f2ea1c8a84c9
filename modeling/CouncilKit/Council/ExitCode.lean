import CouncilKit.Council.Agreement

namespace CouncilKit.Council

open Data Option CouncilEvent List

inductive ExitCode where
  | ok | usage | hostUnavailable | runFailed | io | quota | interrupted
deriving DecidableEq

namespace ExitCode

def code : ExitCode → Nat
  | .ok => 0
  | .usage => 2
  | .hostUnavailable => 3
  | .runFailed => 4
  | .io => 5
  | .quota => 7
  | .interrupted => 130

end ExitCode

def isQuota (code : JsString) : Bool := code = js "RESOURCE_LIMIT" || code = js "RATE_LIMITED"

/-- `exitCodeForHostCode` of an in-run fault. -/
def exitCodeForHostCode (hostCode : JsString) : ExitCode :=
  if isQuota hostCode then .quota
  else if hostCode = js "PORT_IN_USE" ∨ hostCode = js "UNSUPPORTED_NODE" then .hostUnavailable
  else .runFailed

def isLocalFault (failure : TurnError) : Bool :=
  failure.phase = js "io" || failure.phase = js "report"

def exitCodeForRun (status : RunStatus) (failure : Option TurnError) (aborted : Bool)
    (artifactIoFailure : Option TurnError) : ExitCode :=
  if aborted ∧ status = .interrupted then .interrupted
  else if artifactIoFailure.isSome then .io
  else if status = .completed then .ok
  else match failure with
    | none => .runFailed
    | some failure =>
      if isLocalFault failure then .io
      else if failure.phase = js "cleanup" then .runFailed
      else if isQuota failure.code then .quota
      else if exitCodeForHostCode failure.code = .quota then .quota
      else .runFailed

namespace CouncilRun

def reconcileDue (run : CouncilRun) : Bool := run.status ≠ .completed && run.canonicalIsSuccess

def artifactFailure (run : CouncilRun) (label : CouncilLabel) : Option TurnError :=
  match run.stage, label with
  | .reporting, .reported false => some REPORT_IO
  | .copying _, .copied false => some ⟨js "report", js "REPORT_OUT_COPY"⟩
  | .finishing, .finished false => some ⟨js "io", js "TRANSCRIPT_FINAL"⟩
  | .reconciling, .reconciled false =>
    if run.reconcileDue then some ⟨js "report", js "REPORT_INCOMPLETE_RECONCILE"⟩ else none
  | _, _ => none

def persistFails (seat : TurnSeat) (transcriptOk : Bool) (reportError : Option TurnError) : Bool :=
  !transcriptOk || (seat.role = .report && reportError.any (·.phase = js "io"))

/-- A write of the transcript, of a report or of its copy fails at this step. -/
def writeFails (run : CouncilRun) (label : CouncilLabel) : Bool :=
  match run.stage, label with
  | .starting, .started ok => !ok
  | .turning seat _, .persist transcriptOk reportError => persistFails seat transcriptOk reportError
  | .turning _ turn, .settle _ ok =>
    match turn.phase with
    | .finished result => result.verdict = .completed && result.terminal.isSome && !ok
    | _ => false
  | _, _ => (run.artifactFailure label).isSome

end CouncilRun

/-- A run with its `artifactIoFailure`, and what the answers of its environment were. -/
structure AuditedRun where
  run : CouncilRun
  artifactIoFailure : Option TurnError := none
  abortedByClose : Bool := false
  writeFailed : Bool := false
  finalWritten : Bool := false
  reconciled : Bool := false

namespace AuditedRun

open CouncilRun

variable (audited : AuditedRun)

def exitCode : ExitCode :=
  exitCodeForRun audited.run.status audited.run.failure audited.run.aborted audited.artifactIoFailure

def observe (next : CouncilRun) (label : CouncilLabel) : AuditedRun where
  run := next
  artifactIoFailure := audited.artifactIoFailure.or (audited.run.artifactFailure label)
  abortedByClose := match label with
    | .closed _ => audited.run.aborted
    | _ => audited.abortedByClose
  writeFailed := audited.writeFailed || audited.run.writeFails label
  finalWritten := match label with
    | .finished ok => ok
    | _ => audited.finalWritten
  reconciled := match label with
    | .reconciled ok => ok || !audited.run.reconcileDue
    | _ => audited.reconciled

def step (label : CouncilLabel) : Option AuditedRun :=
  (audited.run.step label).map fun next => audited.observe next label

end AuditedRun

def CouncilEvent.reportWritten : CouncilEvent → Option Report
  | .report content => some content
  | _ => none

/-- `report.md` on disk: the last report written. -/
def reportOnDisk (log : List CouncilEvent) : Option Report :=
  (log.filterMap (·.reportWritten)).getLast?

def Report.complete : Report → Bool
  | .success _ => true
  | .partial_ _ => false

/-- `report.md` is there and is no INCOMPLETE report. -/
def completeOnDisk (log : List CouncilEvent) : Bool := (reportOnDisk log).any (·.complete)

/-- The transcript on disk ends with a `run.finished` record of the status. -/
def FinishedOnDisk (log : List CouncilEvent) (status : RunStatus) : Prop :=
  ∃ records failure, transcriptOnDisk log =
    some (records ++ [.finished status failure (status ≠ RunStatus.completed)])

/-- The end of a run as the callers of the command may rely on it. -/
structure Settled (audited : AuditedRun) : Prop where
  success : audited.exitCode = .ok ↔ audited.run.status = .completed
  aborted : audited.abortedByClose = true →
    audited.run.status = .interrupted ∧ audited.exitCode = .interrupted
  local_ : audited.writeFailed = true → audited.run.aborted = false → audited.exitCode = .io
  report : audited.reconciled = true →
    (completeOnDisk audited.run.log = true ↔ audited.run.status = .completed)
  finished : audited.finalWritten = true ∨ audited.run.status = .completed →
    FinishedOnDisk audited.run.log audited.run.status

namespace Turn

variable {turn next : Turn} {label : TurnLabel} {calls : List HostCall}

def Unacked (turn : Turn) : Prop := turn.ackAborted = false ∨ ∃ result, turn.phase = .finished result

theorem settleAck_finished {cause : CleanupCause} {settled : Turn} :
    (settled.finishCleanup cause).Unacked := by
  unfold finishCleanup
  split <;> exact .inr ⟨_, rfl⟩

theorem finishAcked_finished {verdict : TurnVerdict} {terminal : Option TerminalEvidence}
    {error : Option TurnError} {settled : Turn} :
    ∃ result, (settled.finishAcked verdict terminal error).phase = .finished result := by
  unfold finishAcked
  split <;> exact ⟨_, rfl⟩

theorem onTerminal_unacked (event : TerminalEvent) (unacked : turn.ackAborted = false) :
    (turn.onTerminal event).1.Unacked := by
  cases event with
  | completed evidence =>
    simp only [onTerminal]
    split <;> exact .inl unacked
  | failed => exact .inl unacked
  | interrupted => exact .inl unacked

theorem step_unacked (unacked : turn.Unacked) (stepped : turn.step label = some (next, calls)) :
    next.Unacked := by
  have fresh : turn.ackAborted = false := by
    rcases unacked with fresh | ended
    · exact fresh
    · obtain ⟨result, here⟩ := ended
      simp [step, here] at stepped
  unfold step at stepped
  split at stepped
  case h_1 | h_2 | h_24 => cases stepped
  case h_8 | h_14 =>
    cases stepped
    exact settleAck_finished
  case h_13 =>
    split at stepped
    · cases stepped
      exact .inl fresh
    · cases stepped
      exact settleAck_finished
  case h_15 answer _ =>
    generalize turn.settleAck answer = pair at stepped
    obtain ⟨settled, fine⟩ := pair
    cases stepped
    cases fine with
    | true => exact settleAck_finished
    | false => exact .inr ⟨_, rfl⟩
  case h_16 event _ =>
    have opened : turn.onTerminal event = (next, calls) := Option.some.inj stepped
    have kept := onTerminal_unacked event fresh
    rwa [opened] at kept
  case h_17 =>
    split at stepped
    · cases stepped
      exact .inl fresh
    · cases stepped
  case h_19 =>
    cases stepped
    split <;> exact .inr ⟨_, rfl⟩
  case h_20 =>
    split at stepped
    · cases stepped
      exact .inl fresh
    · split at stepped
      · cases stepped
        exact .inl fresh
      · cases stepped
        exact .inr ⟨_, rfl⟩
  case h_23 answer _ =>
    generalize turn.settleAck answer = pair at stepped
    obtain ⟨settled, fine⟩ := pair
    cases stepped
    cases fine <;> exact .inr finishAcked_finished
  all_goals
    cases stepped
    exact .inl fresh

def Faulty (turn : Turn) : Prop :=
  match turn.phase with
  | .acking verdict _ error => verdict = .failed ∧ error.any isLocalFault = true
  | .finished result => result.verdict = .failed ∧ result.error.any isLocalFault = true
  | _ => False

theorem persisted_faulty {evidence : TerminalEvidence} {error : TurnError}
    (here : turn.phase = .persisting evidence) (fault : isLocalFault error = true)
    (stepped : turn.step (.persisted (some error)) = some (next, calls)) : next.Faulty := by
  simp only [step, here, sendAck, Option.some.injEq, Prod.mk.injEq] at stepped
  rw [← stepped.1]
  exact ⟨rfl, fault⟩

theorem Faulty.step (faulty : turn.Faulty) (unacked : turn.Unacked)
    (calm : ∀ answer, label = .acked answer → answer = .acknowledged ∧ turn.abortSource = none)
    (stepped : turn.step label = some (next, calls)) : next.Faulty := by
  cases here : turn.phase with
  | acking verdict terminal error =>
    simp only [Faulty, here] at faulty
    obtain ⟨failed, fault⟩ := faulty
    cases label with
    | abort source =>
      simp only [Turn.step, here, Option.some.injEq, Prod.mk.injEq] at stepped
      rw [← stepped.1]
      exact ⟨failed, fault⟩
    | acked answer =>
      obtain ⟨acknowledged, quiet⟩ := calm answer rfl
      have fresh : turn.ackAborted = false := by
        rcases unacked with fresh | ended
        · exact fresh
        · simp [here] at ended
      simp only [Turn.step, here, acknowledged, settleAck, if_true, finishAcked, quiet, fresh,
        isSome_none, Bool.or_self, Bool.false_eq_true, and_false, if_false,
        Option.some.injEq, Prod.mk.injEq] at stepped
      rw [← stepped.1]
      exact ⟨failed, fault⟩
    | connected | executed | probed | cancelled | observed | followed | checked | persisted =>
      simp [Turn.step, here] at stepped
  | finished result => simp [Turn.step, here] at stepped
  | connecting | executing | probing | cancelling | observing | cleaning | following | checking
  | persisting | rejected => simp [Faulty, here] at faulty

end Turn

section

variable {log events : List CouncilEvent}

theorem reportOnDisk_append (unwritten : ∀ event ∈ events, event.reportWritten = none) :
    reportOnDisk (log ++ events) = reportOnDisk log := by
  have nothing : events.filterMap (·.reportWritten) = [] := by
    rw [filterMap_eq_nil_iff]
    exact unwritten
  rw [reportOnDisk, filterMap_append, nothing, append_nil, reportOnDisk]

theorem reportOnDisk_report (content : Report) :
    reportOnDisk (log ++ [.report content]) = some content := by
  rw [reportOnDisk, filterMap_append]
  exact getLast?_concat

theorem hostEvents_unwritten (id : ExecutionId) (calls : List HostCall) :
    ∀ event ∈ CouncilRun.hostEvents id calls, event.reportWritten = none := by
  intro event member
  obtain ⟨call, -, same⟩ := mem_map.mp member
  rw [← same]
  rfl

end

namespace Stage

def late : Stage → Bool
  | .reporting | .copying _ | .finishing | .reconciling | .done => true
  | .starting | .scoping | .between .. | .turning .. | .closing => false

def turn? : Stage → Option Turn
  | .turning _ turn => some turn
  | _ => none

end Stage

namespace CouncilRun

variable {run next : CouncilRun} {label : CouncilLabel}

/-- What `canonicalIsSuccess` and the reporter's report say about `report.md`. -/
def Disk (run : CouncilRun) : Prop :=
  match run.stage with
  | .reporting => run.canonicalIsSuccess = completeOnDisk run.log ∧
      run.canonicalIsSuccess = run.reporterSuccess.isSome
  | .copying _ | .finishing | .reconciling => run.canonicalIsSuccess = completeOnDisk run.log ∧
      (run.status = .completed → run.canonicalIsSuccess = true)
  | .done => True
  | .starting | .scoping | .between .. | .turning .. | .closing =>
    reportOnDisk run.log = run.reporterSuccess ∧ run.reporterSuccess.all (·.complete) = true

theorem disk_early (early : run.stage.late = false) : run.Disk ↔
    reportOnDisk run.log = run.reporterSuccess ∧ run.reporterSuccess.all (·.complete) = true := by
  cases here : run.stage <;> simp [Disk, here, Stage.late] at early ⊢

/-- A step leaves `report.md` and what is known of it alone. -/
structure Hushed (run next : CouncilRun) : Prop where
  log : ∃ events, next.log = run.log ++ events ∧ ∀ event ∈ events, event.reportWritten = none
  success : next.reporterSuccess = run.reporterSuccess

theorem Hushed.same (log : next.log = run.log)
    (success : next.reporterSuccess = run.reporterSuccess) : Hushed run next :=
  ⟨⟨[], by rw [log, append_nil], by simp⟩, success⟩

theorem Hushed.trans {middle : CouncilRun} (first : Hushed run middle)
    (second : Hushed middle next) : Hushed run next := by
  obtain ⟨events, log, unwritten⟩ := first.log
  obtain ⟨more, later, silent⟩ := second.log
  constructor
  · refine ⟨events ++ more, by rw [later, log, append_assoc], ?_⟩
    intro event member
    rcases mem_append.mp member with earlier | last
    · exact unwritten event earlier
    · exact silent event last
  · rw [second.success, first.success]

theorem Hushed.report (hushed : Hushed run next) : reportOnDisk next.log = reportOnDisk run.log := by
  obtain ⟨events, log, unwritten⟩ := hushed.log
  rw [log, reportOnDisk_append unwritten]

theorem Disk.quiet (disk : run.Disk) (early : run.stage.late = false)
    (nextEarly : next.stage.late = false) (hushed : Hushed run next) : next.Disk := by
  rw [disk_early nextEarly, hushed.report, hushed.success]
  exact (disk_early early).mp disk

theorem rewriteTranscript_hushed (ok : Bool) : Hushed run (run.rewriteTranscript ok) := by
  cases ok with
  | true =>
    exact ⟨⟨[.transcript run.transcript], rfl, by simp [reportWritten]⟩, rfl⟩
  | false => exact .same rfl rfl

variable {seat : TurnSeat}

theorem turnStep_hushed {turn : Turn} {turnLabel : TurnLabel}
    (stepped : run.turnStep seat turn turnLabel = some next) : Hushed run next := by
  obtain ⟨⟨later, calls⟩, -, result⟩ := map_eq_some_iff.mp stepped
  rw [← result]
  exact ⟨⟨hostEvents turn.executionId calls, rfl, hostEvents_unwritten _ _⟩, rfl⟩

theorem turnStep_turning {turn : Turn} {turnLabel : TurnLabel}
    (stepped : run.turnStep seat turn turnLabel = some next) :
    ∃ later calls, turn.step turnLabel = some (later, calls) ∧ next.stage = .turning seat later ∧
      next.aborted = run.aborted := by
  obtain ⟨⟨later, calls⟩, turned, result⟩ := map_eq_some_iff.mp stepped
  rw [← result]
  exact ⟨later, calls, turned, rfl, rfl⟩

theorem stop_hushed (status : RunStatus) (failure : TurnError) :
    Hushed run (run.stop status failure) := .same rfl rfl

theorem goto_hushed (stage : Stage) : Hushed run (run.goto stage) := .same rfl rfl

theorem interrupted_hushed : Hushed run run.interrupted := .same rfl rfl

theorem beginTurn_hushed (seat : TurnSeat) (id : ExecutionId) : Hushed run (run.beginTurn seat id) :=
  .same rfl rfl

theorem raised_hushed (error : TurnError) : Hushed run (run.raised error) := by
  unfold raised
  split <;> exact .same rfl rfl

theorem raised_closing (run : CouncilRun) (error : TurnError) : (run.raised error).stage = .closing ∧
    (run.raised error).aborted = run.aborted := by
  unfold raised
  split <;> exact ⟨rfl, rfl⟩

theorem stopAfter_hushed (seat : TurnSeat) (result : TurnResult) :
    Hushed run (run.stopAfter seat result) := by
  unfold stopAfter
  split <;> exact .same rfl rfl

theorem patchLastTurnDuration_hushed (run : CouncilRun) (id : ExecutionId) (durationMs : Nat) (ok : Bool) :
    Hushed run (run.patchLastTurnDuration id durationMs ok) := by
  unfold patchLastTurnDuration
  split
  · apply Hushed.trans _ (rewriteTranscript_hushed ok)
    exact .same rfl rfl
  · exact .same rfl rfl

theorem settleTurn_hushed {id : ExecutionId} {result : TurnResult}
    {durationMs : Nat} {ok : Bool} : Hushed run (run.settleTurn seat id result durationMs ok) := by
  have patched := patchLastTurnDuration_hushed run id durationMs ok
  unfold settleTurn
  split
  · split
    all_goals
      dsimp only
      split <;> exact .trans patched (.same rfl rfl)
  · exact stopAfter_hushed seat result

structure Closes (run next : CouncilRun) : Prop where
  stage : next.stage = .reporting
  log : next.log = run.log
  success : next.reporterSuccess = run.reporterSuccess
  canonical : next.canonicalIsSuccess = run.reporterSuccess.isSome
  aborted : next.aborted = run.aborted

theorem afterClose_closes (run : CouncilRun) (ok : Bool) : Closes run (run.afterClose ok) := by
  simp only [afterClose]
  split
  · exact ⟨rfl, rfl, rfl, rfl, rfl⟩
  · split
    · split <;> exact ⟨rfl, rfl, rfl, rfl, rfl⟩
    · exact ⟨rfl, rfl, rfl, rfl, rfl⟩

theorem afterClose_aborted (ok : Bool) (aborted : run.aborted = true) :
    (run.afterClose ok).status = .interrupted := by
  simp [afterClose, aborted]

theorem afterClose_failed (ok : Bool) (still : run.aborted = false)
    (incomplete : run.status ≠ .completed) (fault : run.failure.any isLocalFault = true) :
    (run.afterClose ok).status ≠ .completed ∧ (run.afterClose ok).failure.any isLocalFault = true := by
  cases failed : run.failure with
  | none => simp [failed] at fault
  | some failure =>
    rw [failed] at fault
    simp only [afterClose, still, incomplete, Bool.false_eq_true, if_false]
    split <;> simp [incomplete, failed, fault]

theorem failWith_status (error : TurnError) : (run.failWith error).status ≠ .completed := by
  simp only [failWith]
  split
  · simp
  · assumption

theorem failWith_kept (error : TurnError) (incomplete : run.status ≠ .completed) :
    (run.failWith error).status = run.status := if_neg incomplete

theorem completeOnDisk_report (content : Report) {log : List CouncilEvent} :
    completeOnDisk (log ++ [.report content]) = content.complete := by
  rw [completeOnDisk, reportOnDisk_report]
  rfl

theorem afterReport_disk (disk : run.Disk) (here : run.stage = .reporting) (ok : Bool) :
    (run.afterReport ok).Disk := by
  simp only [Disk, here] at disk
  obtain ⟨canonical, success⟩ := disk
  cases ok with
  | false =>
    have failed : ((run.failWith REPORT_IO).goto .finishing).status ≠ .completed :=
      failWith_status REPORT_IO
    exact ⟨canonical, fun completed => absurd completed failed⟩
  | true =>
    suffices known : decide (run.status = .completed) =
        completeOnDisk (run.afterReport true).log by
      have flag : (run.afterReport true).canonicalIsSuccess = decide (run.status = .completed) :=
        rfl
      have status : (run.afterReport true).status = run.status := by
        simp only [afterReport, if_true, goto]
        split <;> rfl
      have done : (run.afterReport true).canonicalIsSuccess = completeOnDisk (run.afterReport true).log ∧
          ((run.afterReport true).status = .completed →
            (run.afterReport true).canonicalIsSuccess = true) := by
        rw [flag, status]
        exact ⟨known, fun completed => decide_eq_true completed⟩
      cases out : run.input.outPath <;> simpa [Disk, afterReport, goto, out] using done
    by_cases completed : run.status = .completed
    · cases markdown : run.reporterSuccess with
      | none =>
        simp [afterReport, finalReport, completed, markdown, goto, append,
          completeOnDisk_report, Report.complete]
      | some content =>
        rw [markdown] at success
        cases output : run.reporterOutput with
        | none =>
          simp [afterReport, finalReport, completed, markdown, output, goto,
            ← canonical, success]
        | some pair =>
          simp [afterReport, finalReport, completed, markdown, output, goto, append,
            completeOnDisk_report, Report.complete]
    · simp [afterReport, finalReport, completed, goto, append, completeOnDisk_report, Report.complete]

theorem transcriptOnDisk_report {content : Report} {log : List CouncilEvent} :
    transcriptOnDisk (log ++ [.report content]) = transcriptOnDisk log := by
  simp [transcriptOnDisk, filterMap_append, written]

theorem artifactFailure_early (early : run.stage.late = false) : run.artifactFailure label = none := by
  unfold artifactFailure
  split
  case h_1 here | h_2 here | h_3 here | h_4 here => simp [here, Stage.late] at early
  case h_5 => rfl

end CouncilRun

namespace AuditedRun

open CouncilRun

variable {audited : AuditedRun} {next : CouncilRun} {label : CouncilLabel}

def Explained (audited : AuditedRun) : Prop :=
  match audited.run.stage with
  | .turning _ turn => turn.Faulty
  | .starting | .scoping | .between .. => False
  | .closing | .reporting | .copying _ | .finishing | .reconciling | .done =>
    audited.run.status ≠ .completed ∧ (audited.artifactIoFailure.isSome = true ∨
      audited.run.failure.any isLocalFault = true)

structure Audit (audited : AuditedRun) : Prop where
  unacked : ∀ seat turn, audited.run.stage = .turning seat turn → turn.Unacked
  artifact : audited.artifactIoFailure.isSome = true →
    audited.run.stage.late = true ∧ audited.run.status ≠ .completed
  interrupted : audited.abortedByClose = true → audited.run.stage.late = true ∧
    audited.run.aborted = true ∧ audited.run.status = .interrupted
  explained : audited.writeFailed = true → audited.run.aborted = false → audited.Explained
  disk : audited.run.Disk
  finished : audited.finalWritten = true →
    (audited.run.stage = .reconciling ∨ audited.run.stage = .done) ∧
      FinishedOnDisk audited.run.log audited.run.status
  landed : audited.run.stage = .reconciling ∨ audited.run.stage = .done →
    audited.run.status = .completed → audited.finalWritten = true
  settled : audited.run.stage = .done → audited.reconciled = true →
    (completeOnDisk audited.run.log = true ↔ audited.run.status = .completed)

section

variable (audit : audited.Audit)

include audit

theorem Audit.fresh (early : audited.run.stage.late = false) :
    audited.artifactIoFailure = none ∧ audited.abortedByClose = false ∧ audited.finalWritten = false := by
  constructor
  · cases failed : audited.artifactIoFailure with
    | none => rfl
    | some failure =>
      have late := (audit.artifact (by rw [failed]; rfl)).1
      rw [early] at late
      cases late
  constructor
  · cases closed : audited.abortedByClose with
    | false => rfl
    | true =>
      have late := (audit.interrupted closed).1
      rw [early] at late
      cases late
  · cases written : audited.finalWritten with
    | false => rfl
    | true =>
      rcases (audit.finished written).1 with here | here <;>
        simp [here, Stage.late] at early

theorem Audit.early (early : audited.run.stage.late = false) (nextEarly : next.stage.late = false)
    (unacked : ∀ seat turn, next.stage = .turning seat turn → turn.Unacked)
    (explained : (audited.writeFailed || audited.run.writeFails label) = true → next.aborted = false → (audited.observe next label).Explained)
    (disk : next.Disk)
    (closed : (audited.observe next label).abortedByClose = audited.abortedByClose)
    (written : (audited.observe next label).finalWritten = audited.finalWritten) :
    (audited.observe next label).Audit := by
  obtain ⟨noArtifact, noClose, noFinal⟩ := audit.fresh early
  have artifact : (audited.observe next label).artifactIoFailure = none := by
    simp [observe, noArtifact, artifactFailure_early early]
  constructor
  case unacked => exact unacked
  case artifact =>
    intro failed
    rw [artifact] at failed
    cases failed
  case interrupted =>
    intro aborted
    rw [closed, noClose] at aborted
    cases aborted
  case explained => exact explained
  case disk => exact disk
  case finished =>
    intro final
    rw [written, noFinal] at final
    cases final
  case landed =>
    intro done
    rcases done with here | here <;>
      simp [observe] at here <;> simp [here, Stage.late] at nextEarly
  case settled =>
    intro done
    simp only [observe] at done
    simp [done, Stage.late] at nextEarly

theorem Audit.troubled (failed : audited.writeFailed = true)
    (plain : audited.run.stage.late = false) (still : audited.run.aborted = false) :
    (∃ seat turn, audited.run.stage = .turning seat turn ∧ turn.Faulty) ∨
      (audited.run.stage = .closing ∧ audited.run.status ≠ .completed ∧
        audited.run.failure.any isLocalFault = true) := by
  have explained := audit.explained failed still
  unfold Explained at explained
  cases here : audited.run.stage with
  | turning seat turn =>
    simp only [here] at explained
    exact .inl ⟨seat, turn, rfl, explained⟩
  | closing =>
    simp only [here] at explained
    obtain ⟨incomplete, artifact | fault⟩ := explained
    · rw [(audit.fresh plain).1] at artifact
      cases artifact
    · exact .inr ⟨rfl, incomplete, fault⟩
  | starting | scoping | between => simp [here] at explained
  | reporting | copying | finishing | reconciling | done => simp [here, Stage.late] at plain

theorem Audit.closed (here : audited.run.stage = .closing) (ok : Bool) :
    (audited.observe (audited.run.afterClose ok) (.closed ok)).Audit := by
  have plain : audited.run.stage.late = false := by rw [here]; rfl
  obtain ⟨noArtifact, noClose, noFinal⟩ := audit.fresh plain
  have closes := afterClose_closes audited.run ok
  have artifact : (audited.observe (audited.run.afterClose ok) (.closed ok)).artifactIoFailure = none := by
    simp [observe, noArtifact, artifactFailure_early plain]
  have late : (audited.run.afterClose ok).stage.late = true := by rw [closes.stage]; rfl
  constructor
  case unacked =>
    intro seat turn turning
    simp [observe, closes.stage] at turning
  case artifact =>
    intro failed
    rw [artifact] at failed
    cases failed
  case interrupted =>
    intro aborted
    exact ⟨late, closes.aborted.trans aborted, afterClose_aborted ok aborted⟩
  case explained =>
    intro failed still
    have quiet : audited.run.writeFails (.closed ok) = false := by
      simp [writeFails, here, artifactFailure]
    have earlier : audited.writeFailed = true := by
      simpa [observe, quiet] using failed
    have calm : audited.run.aborted = false := closes.aborted ▸ still
    rcases audit.troubled earlier plain calm with ⟨seat, turn, turning, -⟩ | ⟨-, incomplete, fault⟩
    · simp [here] at turning
    · obtain ⟨after, kept⟩ := afterClose_failed ok calm incomplete fault
      simp only [Explained, observe, closes.stage]
      exact ⟨after, .inr kept⟩
  case disk =>
    obtain ⟨report, complete⟩ := (disk_early plain).mp audit.disk
    simp only [observe, Disk, closes.stage, closes.log, closes.success, closes.canonical,
      completeOnDisk, report, and_true]
    cases success : audited.run.reporterSuccess with
    | none => rfl
    | some content =>
      rw [success] at complete
      exact complete.symm
  case finished =>
    intro final
    have written : audited.finalWritten = true := final
    rw [noFinal] at written
    cases written
  case landed =>
    intro done
    simp [observe, closes.stage] at done
  case settled =>
    intro done
    simp [observe, closes.stage] at done

end

/-- What a step after the close of the scope does with the outcome. -/
structure Worsens (run next : CouncilRun) (label : CouncilLabel) : Prop where
  late : next.stage.late = true
  aborted : next.aborted = run.aborted
  incomplete : run.status ≠ .completed ∨ (run.artifactFailure label).isSome = true →
    next.status ≠ .completed
  interrupted : run.aborted = true → run.status = .interrupted → next.status = .interrupted
  failure : run.failure.any isLocalFault = true → next.failure.any isLocalFault = true

theorem writeFails_late (late : audited.run.stage.late = true) :
    audited.run.writeFails label = (audited.run.artifactFailure label).isSome := by
  cases here : audited.run.stage with
  | starting | scoping | between | turning | closing => simp [here, Stage.late] at late
  | reporting | copying | finishing | reconciling | done => simp [writeFails, here]

theorem Audit.later (audit : audited.Audit) (late : audited.run.stage.late = true)
    (worsens : Worsens audited.run next label) (opened : ∀ ok, label ≠ .closed ok)
    (disk : next.Disk)
    (finished : (audited.observe next label).finalWritten = true →
      (next.stage = .reconciling ∨ next.stage = .done) ∧ FinishedOnDisk next.log next.status)
    (landed : next.stage = .reconciling ∨ next.stage = .done → next.status = .completed →
      (audited.observe next label).finalWritten = true)
    (settled : next.stage = .done → (audited.observe next label).reconciled = true →
      (completeOnDisk next.log = true ↔ next.status = .completed)) :
    (audited.observe next label).Audit := by
  have closes : (audited.observe next label).abortedByClose = audited.abortedByClose := by
    cases label with
    | closed ok => exact absurd rfl (opened ok)
    | _ => rfl
  constructor
  case unacked =>
    intro seat turn turning
    have here : next.stage = .turning seat turn := turning
    have nextLate := worsens.late
    rw [here] at nextLate
    cases nextLate
  case artifact =>
    intro failed
    refine ⟨worsens.late, worsens.incomplete ?_⟩
    cases before : audited.artifactIoFailure with
    | some failure => exact .inl (audit.artifact (by rw [before]; rfl)).2
    | none =>
      right
      simpa [observe, before] using failed
  case interrupted =>
    intro aborted
    rw [closes] at aborted
    obtain ⟨-, before, status⟩ := audit.interrupted aborted
    exact ⟨worsens.late, worsens.aborted.trans before, worsens.interrupted before status⟩
  case explained =>
    intro failed still
    have calm : audited.run.aborted = false := worsens.aborted ▸ still
    suffices outcome : next.status ≠ .completed ∧
        ((audited.observe next label).artifactIoFailure.isSome = true ∨
          next.failure.any isLocalFault = true) by
      have nextLate := worsens.late
      cases here : next.stage with
      | starting | scoping | between | turning | closing => simp [here, Stage.late] at nextLate
      | reporting | copying | finishing | reconciling | done =>
        simpa [Explained, observe, here] using outcome
    cases now : audited.run.artifactFailure label with
    | some failure =>
      refine ⟨worsens.incomplete (.inr (by rw [now]; rfl)), .inl ?_⟩
      cases before : audited.artifactIoFailure <;> simp [observe, before, now]
    | none =>
      have earlier : audited.writeFailed = true := by
        simpa [observe, writeFails_late late, now] using failed
      have explained := audit.explained earlier calm
      have outcome : audited.run.status ≠ .completed ∧
          (audited.artifactIoFailure.isSome = true ∨ audited.run.failure.any isLocalFault = true) := by
        cases here : audited.run.stage with
        | starting | scoping | between | turning | closing => simp [here, Stage.late] at late
        | reporting | copying | finishing | reconciling | done =>
          simpa [Explained, here] using explained
      refine ⟨worsens.incomplete (.inl outcome.1), ?_⟩
      rcases outcome.2 with artifact | fault
      · left
        simpa [observe, now] using artifact
      · exact .inr (worsens.failure fault)
  case disk => exact disk
  case finished => exact finished
  case landed => exact landed
  case settled => exact settled

theorem Audit.unfinished (audit : audited.Audit)
    (here : audited.run.stage ≠ .reconciling ∧ audited.run.stage ≠ .done) :
    audited.finalWritten = false := by
  cases written : audited.finalWritten with
  | false => rfl
  | true =>
    rcases (audit.finished written).1 with there | there
    · exact absurd there here.1
    · exact absurd there here.2

theorem Audit.reported (audit : audited.Audit) (here : audited.run.stage = .reporting) (ok : Bool) :
    (audited.observe (audited.run.afterReport ok) (.reported ok)).Audit := by
  have late : audited.run.stage.late = true := by rw [here]; rfl
  have noFinal := audit.unfinished (by simp [here])
  have stage : (∃ content, (audited.run.afterReport ok).stage = .copying content) ∨
      (audited.run.afterReport ok).stage = .finishing := by
    cases ok with
    | false => exact .inr rfl
    | true =>
      cases out : audited.run.input.outPath with
      | false => exact .inr (by simp [afterReport, goto, out])
      | true => exact .inl ⟨audited.run.finalReport.1, by simp [afterReport, goto, out]⟩
  have kept : (audited.run.afterReport true).status = audited.run.status ∧
      (audited.run.afterReport true).failure = audited.run.failure := by
    simp only [afterReport, if_true, goto]
    split <;> exact ⟨rfl, rfl⟩
  apply audit.later late
  case worsens =>
    constructor
    case late => rcases stage with ⟨content, there⟩ | there <;> rw [there] <;> rfl
    case aborted =>
      cases ok with
      | false => rfl
      | true =>
        simp only [afterReport, if_true, goto]
        split <;> rfl
    case incomplete =>
      intro failed
      cases ok with
      | false => exact failWith_status REPORT_IO
      | true =>
        rw [kept.1]
        simpa [artifactFailure, here] using failed
    case interrupted =>
      intro aborted interrupted
      cases ok with
      | false =>
        have incomplete : audited.run.status ≠ .completed := by simp [interrupted]
        exact (failWith_kept REPORT_IO incomplete).trans interrupted
      | true => exact kept.1.trans interrupted
    case failure =>
      intro fault
      cases ok with
      | true => rwa [kept.2]
      | false =>
        cases failed : audited.run.failure with
        | none => simp [failed] at fault
        | some failure =>
          rw [failed] at fault
          simpa [afterReport, failWith, goto, failed] using fault
  case opened =>
    intro closed
    simp
  case disk => exact afterReport_disk audit.disk here ok
  case finished =>
    intro final
    have written : audited.finalWritten = true := final
    rw [noFinal] at written
    cases written
  case landed =>
    intro done
    rcases stage with ⟨content, there⟩ | there <;> simp [there] at done
  case settled =>
    intro done
    rcases stage with ⟨content, there⟩ | there <;> simp [there] at done

theorem localFault_or (failure : Option TurnError) (error : TurnError)
    (fault : failure.any isLocalFault = true) : (failure.or (some error)).any isLocalFault = true := by
  cases failure with
  | none => cases fault
  | some earlier => exact fault

theorem Audit.copied (audit : audited.Audit) {content : Report}
    (here : audited.run.stage = .copying content) {ok : Bool}
    (unmasked : ok = true ∨ audited.run.aborted = false) :
    (audited.observe (audited.run.afterCopy content ok) (.copied ok)).Audit := by
  have late : audited.run.stage.late = true := by rw [here]; rfl
  have noFinal := audit.unfinished (by simp [here])
  have disk := audit.disk
  simp only [Disk, here] at disk
  obtain ⟨canonical, success⟩ := disk
  have stage : (audited.run.afterCopy content ok).stage = .finishing := by cases ok <;> rfl
  apply audit.later late
  case worsens =>
    constructor
    case late => rw [stage]; rfl
    case aborted => cases ok <;> rfl
    case incomplete =>
      intro failed
      cases ok with
      | false => simp [afterCopy]
      | true => simpa [artifactFailure, here, afterCopy, append, goto] using failed
    case interrupted =>
      intro aborted interrupted
      rcases unmasked with copied | still
      · rw [copied]
        exact interrupted
      · rw [still] at aborted
        cases aborted
    case failure =>
      intro fault
      cases ok with
      | false => exact localFault_or _ _ fault
      | true => exact fault
  case opened =>
    intro closed
    simp
  case disk =>
    cases ok with
    | false =>
      simp only [Disk, afterCopy, Bool.false_eq_true, if_false]
      exact ⟨canonical, by simp⟩
    | true =>
      have report : completeOnDisk (audited.run.log ++ [.copy content]) =
          completeOnDisk audited.run.log := by
        rw [completeOnDisk, reportOnDisk_append (by simp [reportWritten]),
          completeOnDisk]
      simp only [Disk, afterCopy, if_true, goto, append, report]
      exact ⟨canonical, success⟩
  case finished =>
    intro final
    have written : audited.finalWritten = true := final
    rw [noFinal] at written
    cases written
  case landed =>
    intro done
    simp [stage] at done
  case settled =>
    intro done
    simp [stage] at done

theorem afterFinish_written : FinishedOnDisk (audited.run.afterFinish true).log
    (audited.run.afterFinish true).status := by
  refine ⟨audited.run.transcript, audited.run.failure, ?_⟩
  have written := @transcriptOnDisk_written audited.run.log []
    (audited.run.transcript ++ [TranscriptRecord.finished audited.run.status audited.run.failure
      (audited.run.status ≠ RunStatus.completed)]) (by simp)
  exact written

theorem Audit.finishes (audit : audited.Audit) (here : audited.run.stage = .finishing) (ok : Bool) :
    (audited.observe (audited.run.afterFinish ok) (.finished ok)).Audit := by
  have late : audited.run.stage.late = true := by rw [here]; rfl
  have disk := audit.disk
  simp only [Disk, here] at disk
  obtain ⟨canonical, success⟩ := disk
  have stage : (audited.run.afterFinish ok).stage = .reconciling := by cases ok <;> rfl
  have failed : (audited.run.afterFinish false).status ≠ .completed := by
    simp only [afterFinish, Bool.false_eq_true, if_false, goto]
    exact failWith_status _
  apply audit.later late
  case worsens =>
    constructor
    case late => rw [stage]; rfl
    case aborted => cases ok <;> rfl
    case incomplete =>
      intro broken
      cases ok with
      | false => exact failed
      | true => simpa [artifactFailure, here, afterFinish, rewriteTranscript, append, goto] using broken
    case interrupted =>
      intro aborted interrupted
      cases ok with
      | false => simp [afterFinish, failWith, rewriteTranscript, goto, interrupted]
      | true => exact interrupted
    case failure =>
      intro fault
      cases ok with
      | false => exact localFault_or _ _ fault
      | true => exact fault
  case opened =>
    intro closed
    simp
  case disk =>
    cases ok with
    | false =>
      simp only [Disk, stage]
      exact ⟨canonical, fun completed => absurd completed failed⟩
    | true =>
      have report : completeOnDisk (audited.run.afterFinish true).log = completeOnDisk audited.run.log := by
        simp only [afterFinish, rewriteTranscript, if_true, append, goto]
        rw [completeOnDisk, reportOnDisk_append (by simp [reportWritten]),
          completeOnDisk]
      simp only [Disk, stage, report]
      exact ⟨canonical, success⟩
  case finished =>
    intro final
    have written : ok = true := final
    rw [written] at stage ⊢
    exact ⟨.inl stage, afterFinish_written⟩
  case landed =>
    intro done completed
    cases ok with
    | false => exact absurd completed failed
    | true => rfl
  case settled =>
    intro done
    simp [stage] at done

theorem Audit.reconciles (audit : audited.Audit) (here : audited.run.stage = .reconciling)
    (ok : Bool) : (audited.observe (audited.run.afterReconcile ok) (.reconciled ok)).Audit := by
  have late : audited.run.stage.late = true := by rw [here]; rfl
  have disk := audit.disk
  simp only [Disk, here] at disk
  obtain ⟨canonical, success⟩ := disk
  have status : (audited.run.afterReconcile ok).status = audited.run.status := by
    simp only [afterReconcile]
    split <;> rfl
  apply audit.later late
  case worsens =>
    constructor
    case late => rfl
    case aborted =>
      simp only [afterReconcile]
      split <;> rfl
    case incomplete =>
      intro broken
      rw [status]
      rcases broken with before | now
      · exact before
      · intro completed
        cases ok <;> simp [artifactFailure, here, reconcileDue, completed] at now
    case interrupted =>
      intro aborted interrupted
      rw [status, interrupted]
    case failure =>
      intro fault
      have kept : (audited.run.afterReconcile ok).failure = audited.run.failure := by
        simp only [afterReconcile]
        split <;> rfl
      rwa [kept]
  case opened =>
    intro closed
    simp
  case disk => trivial
  case finished =>
    intro final
    obtain ⟨-, records, failure, written⟩ := audit.finished final
    refine ⟨.inr rfl, records, failure, ?_⟩
    rw [status]
    simp only [afterReconcile]
    split
    · simp only [append, transcriptOnDisk_report]
      exact written
    · exact written
  case landed =>
    intro done completed
    rw [status] at completed
    exact audit.landed (.inl here) completed
  case settled =>
    intro done reconciled
    rw [status]
    by_cases due : audited.run.status ≠ .completed ∧ audited.run.canonicalIsSuccess = true
    · have landed : ok = true := by
        simpa [observe, reconcileDue, due.1, due.2] using reconciled
      have report : completeOnDisk (audited.run.afterReconcile ok).log = false := by
        simp only [afterReconcile, due, landed, ne_eq, not_false_eq_true, and_self, if_true,
          append, completeOnDisk_report, Report.complete]
      simp [report, due.1]
    · have log : (audited.run.afterReconcile ok).log = audited.run.log := by
        simp only [afterReconcile]
        rw [if_neg (fun both => due both.1)]
      rw [log, ← canonical]
      constructor
      · intro canonicalSuccess
        by_contra incomplete
        exact due ⟨incomplete, canonicalSuccess⟩
      · exact success

/-- No later event hides the fault: no copy fails after an abort, and the ACK that
follows a failed write is acknowledged, with no deadline before it. -/
def Unmasked (audited : AuditedRun) : CouncilLabel → Prop
  | .copied ok => ok = true ∨ audited.run.aborted = false
  | .turn (.acked answer) => audited.writeFailed = true → audited.run.aborted = false →
      answer = .acknowledged ∧ audited.run.stage.turn?.all (·.abortSource.isNone) = true
  | _ => True

theorem Audit.between (audit : audited.Audit) (plain : audited.run.stage.late = false)
    (still : audited.run.aborted = false) (turning : ∀ seat turn,
      audited.run.stage = .turning seat turn → ¬ turn.Faulty)
    (here : audited.run.stage ≠ .closing) : audited.writeFailed = false := by
  cases failed : audited.writeFailed with
  | false => rfl
  | true =>
    rcases audit.troubled failed plain still with ⟨seat, turn, there, faulty⟩ | ⟨there, -⟩
    · exact absurd faulty (turning seat turn there)
    · exact absurd there here

theorem Audit.calm (audit : audited.Audit) (plain : audited.run.stage.late = false)
    (turning : ∀ seat turn, audited.run.stage = .turning seat turn → ¬ turn.Faulty)
    (here : audited.run.stage ≠ .closing) (nextEarly : next.stage.late = false)
    (unacked : ∀ seat turn, next.stage = .turning seat turn → turn.Unacked)
    (hushed : Hushed audited.run next) (aborted : next.aborted = audited.run.aborted)
    (writes : audited.run.writeFails label = true → next.stage = .closing ∧
      next.status ≠ .completed ∧ next.failure.any isLocalFault = true)
    (closed : (audited.observe next label).abortedByClose = audited.abortedByClose)
    (written : (audited.observe next label).finalWritten = audited.finalWritten) :
    (audited.observe next label).Audit := by
  apply audit.early plain nextEarly unacked _ (audit.disk.quiet plain nextEarly hushed) closed written
  intro failed still
  rw [audit.between plain (aborted ▸ still) turning here, Bool.false_or] at failed
  obtain ⟨stage, incomplete, fault⟩ := writes failed
  simp only [Explained, observe, stage]
  exact ⟨incomplete, .inr fault⟩

theorem Audit.aborts (audit : audited.Audit) :
    (audited.observe { audited.run with aborted := true } .abort).Audit := by
  have silent : audited.run.artifactFailure .abort = none := by
    cases there : audited.run.stage <;> simp [artifactFailure, there]
  have artifact : (audited.observe { audited.run with aborted := true } .abort).artifactIoFailure =
      audited.artifactIoFailure := by
    simp [observe, silent]
  constructor
  case unacked => exact audit.unacked
  case artifact =>
    intro failed
    rw [artifact] at failed
    exact audit.artifact failed
  case interrupted =>
    intro aborted
    obtain ⟨late, -, status⟩ := audit.interrupted aborted
    exact ⟨late, rfl, status⟩
  case explained =>
    intro failed still
    cases still
  case disk => exact audit.disk
  case finished => exact audit.finished
  case landed => exact audit.landed
  case settled => exact audit.settled

variable {seat : TurnSeat} {turn : Turn}

theorem turning_early (here : next.stage = .turning seat turn) :
    next.stage.late = false := by
  rw [here]
  rfl

theorem closing_early (here : next.stage = .closing) : next.stage.late = false := by
  rw [here]
  rfl

theorem Audit.turns (audit : audited.Audit)
    (here : audited.run.stage = .turning seat turn) {middle : CouncilRun} {turnLabel : TurnLabel}
    (stepped : middle.turnStep seat turn turnLabel = some next)
    (disk : middle.stage = .turning seat turn → middle.Disk)
    (stage : middle.stage = .turning seat turn)
    (explained : ∀ later calls, turn.step turnLabel = some (later, calls) →
      (audited.writeFailed || audited.run.writeFails label) = true → middle.aborted = false → later.Faulty)
    (closed : (audited.observe next label).abortedByClose = audited.abortedByClose)
    (written : (audited.observe next label).finalWritten = audited.finalWritten) :
    (audited.observe next label).Audit := by
  obtain ⟨later, calls, turned, there, aborted⟩ := turnStep_turning stepped
  have plain := turning_early here
  have nextEarly := turning_early there
  apply audit.early plain nextEarly _ _ _ closed written
  · intro otherSeat other turning
    rw [there] at turning
    cases turning
    exact Turn.step_unacked (audit.unacked seat turn here) turned
  · intro failed still
    simp only [Explained, observe, there]
    exact explained later calls turned failed (aborted ▸ still)
  · exact (disk stage).quiet (turning_early stage) nextEarly (turnStep_hushed stepped)

theorem persist_stage (run : CouncilRun) (seat : TurnSeat) (id : ExecutionId)
    (evidence : TerminalEvidence) (transcriptOk : Bool) (reportError : Option TurnError) :
    (run.persist seat id evidence transcriptOk reportError).1.stage = run.stage ∧
      (run.persist seat id evidence transcriptOk reportError).1.aborted = run.aborted := by
  simp only [persist]
  split
  · cases transcriptOk <;> exact ⟨rfl, rfl⟩
  · split
    · cases transcriptOk <;> exact ⟨rfl, rfl⟩
    · split <;> cases transcriptOk <;> exact ⟨rfl, rfl⟩

variable {run : CouncilRun} {transcriptOk : Bool} {reportError : Option TurnError}

theorem persist_disk {id : ExecutionId} {evidence : TerminalEvidence}
    (disk : run.Disk) (plain : run.stage.late = false) :
    (run.persist seat id evidence transcriptOk reportError).1.Disk := by
  have kept : Hushed run (run.remember seat id evidence) := .same rfl rfl
  have hushed := kept.trans (rewriteTranscript_hushed transcriptOk)
  have stage : ((run.remember seat id evidence).rewriteTranscript transcriptOk).stage.late = false := by
    cases transcriptOk <;> exact plain
  have quiet := disk.quiet plain stage hushed
  simp only [persist]
  split
  · exact quiet
  · split
    · exact quiet
    · split
      · apply (disk_early _).mpr
        · exact ⟨reportOnDisk_report _, rfl⟩
        · exact stage
      · exact quiet

theorem persist_fault (run : CouncilRun) (id : ExecutionId) (evidence : TerminalEvidence)
    (fails : persistFails seat transcriptOk reportError = true) :
    ∃ error, (run.persist seat id evidence transcriptOk reportError).2 = some error ∧
      isLocalFault error = true := by
  simp only [persist]
  cases transcriptOk with
  | false => exact ⟨ TRANSCRIPT_IO, rfl, by decide⟩
  | true =>
    simp only [persistFails, Bool.not_true, Bool.false_or, Bool.and_eq_true, decide_eq_true_eq] at fails
    obtain ⟨role, io⟩ := fails
    cases reportError with
    | none => cases io
    | some error =>
      refine ⟨error, by simp [role], ?_⟩
      simp only [isLocalFault, Bool.or_eq_true]
      exact .inl io

theorem settleTurn_stage (run : CouncilRun) (seat : TurnSeat) (id : ExecutionId)
    (result : TurnResult) (durationMs : Nat) (ok : Bool) :
    ((run.settleTurn seat id result durationMs ok).stage.late = false ∧
      ∀ other turn, (run.settleTurn seat id result durationMs ok).stage ≠ .turning other turn) ∧
      (run.settleTurn seat id result durationMs ok).aborted = run.aborted := by
  have patched : (run.patchLastTurnDuration id durationMs ok).aborted = run.aborted := by
    unfold patchLastTurnDuration
    split
    · cases ok <;> rfl
    · rfl
  unfold settleTurn
  split
  · split
    all_goals
      dsimp only
      split <;> exact ⟨⟨rfl, by simp [goto, stop]⟩, patched⟩
  · unfold stopAfter
    split <;> exact ⟨⟨rfl, by simp [interrupted, stop]⟩, rfl⟩

variable {result : TurnResult}

theorem stopAfter_fault (still : run.aborted = false) (failed : result.verdict = .failed)
    (fault : result.error.any isLocalFault = true) :
    (run.stopAfter seat result).stage = .closing ∧ (run.stopAfter seat result).status ≠ .completed ∧
      (run.stopAfter seat result).failure.any isLocalFault = true := by
  cases explained : result.error with
  | none => simp [explained] at fault
  | some error =>
    rw [explained] at fault
    rw [any_some] at fault
    simp [stopAfter, still, failed, explained, stop, fault]

theorem settleTurn_unpatched {id : ExecutionId} {durationMs : Nat}
    (failed : (decide (result.verdict = TurnVerdict.completed) && result.terminal.isSome) = true) :
    (run.settleTurn seat id result durationMs false).stage = .closing ∧
      (run.settleTurn seat id result durationMs false).status ≠ .completed ∧
      (run.settleTurn seat id result durationMs false).failure.any isLocalFault = true := by
  simp only [Bool.and_eq_true, decide_eq_true_eq] at failed
  obtain ⟨completed, terminal⟩ := failed
  cases evidence : result.terminal with
  | none => simp [evidence] at terminal
  | some found =>
    unfold settleTurn
    rw [completed, evidence]
    cases role : seat.role <;> simp [stop, DURATION_IO] <;> decide

section

variable (audit : audited.Audit) (here : audited.run.stage = .turning seat turn)

include audit here

theorem Audit.settles (ended : turn.phase = .finished result) (durationMs : Nat) (ok : Bool) :
    (audited.observe (audited.run.settleTurn seat turn.executionId result durationMs ok)
      (.settle durationMs ok)).Audit := by
  have plain := turning_early here
  obtain ⟨⟨nextEarly, apart⟩, aborted⟩ := settleTurn_stage audited.run seat
    turn.executionId result durationMs ok
  apply audit.early plain nextEarly
  case unacked =>
    intro other later turning
    exact absurd turning (apart other later)
  case disk => exact audit.disk.quiet plain nextEarly settleTurn_hushed
  case closed => rfl
  case written => rfl
  case explained =>
    intro failed still
    suffices outcome : (audited.run.settleTurn seat turn.executionId result durationMs ok).stage =
        .closing ∧
        (audited.run.settleTurn seat turn.executionId result durationMs ok).status ≠ .completed ∧
        (audited.run.settleTurn seat turn.executionId result durationMs ok).failure.any
          isLocalFault = true by
      simp only [Explained, observe, outcome.1]
      exact ⟨outcome.2.1, .inr outcome.2.2⟩
    have calm : audited.run.aborted = false := aborted ▸ still
    cases earlier : audited.writeFailed with
    | true =>
      rcases audit.troubled earlier plain calm with ⟨_, _, there, faulty⟩ | ⟨there, -⟩
      · rw [here] at there
        cases there
        simp only [Turn.Faulty, ended] at faulty
        have stops : audited.run.settleTurn seat turn.executionId result durationMs ok =
            audited.run.stopAfter seat result := by
          unfold settleTurn
          rw [faulty.1]
        rw [stops]
        exact stopAfter_fault calm faulty.1 faulty.2
      · rw [here] at there
        cases there
    | false =>
      have now : audited.run.writeFails (.settle durationMs ok) = true := by
        simpa [earlier] using failed
      simp only [writeFails, here, ended, Bool.and_eq_true, Bool.not_eq_true'] at now
      obtain ⟨completed, rejected⟩ := now
      rw [rejected]
      apply settleTurn_unpatched
      rw [Bool.and_eq_true]
      exact completed

theorem Audit.persists {evidence : TerminalEvidence} (waiting : turn.phase = .persisting evidence)
    (stepped : (audited.run.persist seat turn.executionId evidence transcriptOk reportError).1.turnStep seat turn (.persisted (audited.run.persist seat turn.executionId evidence transcriptOk reportError).2) = some next) :
    (audited.observe next (.persist transcriptOk reportError)).Audit := by
  obtain ⟨stage, aborted⟩ := persist_stage audited.run seat turn.executionId evidence transcriptOk
    reportError
  have plain := turning_early here
  apply audit.turns here stepped
  case disk =>
    intro _
    exact persist_disk audit.disk plain
  case stage => rw [stage, here]
  case closed => rfl
  case written => rfl
  case explained =>
    intro later calls turned failed still
    have calm : audited.run.aborted = false := aborted ▸ still
    cases earlier : audited.writeFailed with
    | true =>
      rcases audit.troubled earlier plain calm with ⟨_, _, there, faulty⟩ | ⟨there, -⟩
      · rw [here] at there
        cases there
        simp [Turn.Faulty, waiting] at faulty
      · rw [here] at there
        cases there
    | false =>
      have now : persistFails seat transcriptOk reportError = true := by
        simpa [earlier, writeFails, here] using failed
      obtain ⟨error, thrown, fault⟩ := persist_fault audited.run turn.executionId
        evidence now
      rw [thrown] at turned
      exact Turn.persisted_faulty waiting fault turned

end

theorem Audit.step {next : AuditedRun} (audit : audited.Audit) (unmasked : Unmasked audited label)
    (stepped : audited.step label = some next) : next.Audit := by
  obtain ⟨run, moved, result⟩ := map_eq_some_iff.mp stepped
  rw [← result]
  unfold CouncilRun.step at moved
  split at moved
  case h_1 seat turn here =>
    cases turned : turnStep { audited.run with aborted := true } seat turn (.abort .external) with
    | none =>
      simp only [turned, getD_none, Option.some.injEq] at moved
      rw [← moved]
      exact audit.aborts
    | some after =>
      simp only [turned, getD_some, Option.some.injEq] at moved
      rw [← moved]
      apply audit.turns here turned (fun _ => audit.disk) here _ rfl rfl
      intro later calls turned failed still
      cases still
  case h_2 => cases moved
  case h_3 =>
    cases moved
    exact audit.aborts
  case h_4 ok here =>
    cases moved
    have plain : audited.run.stage.late = false := by rw [here]; rfl
    have pushed : Hushed audited.run { audited.run with
      transcript := audited.run.transcript ++ [TranscriptRecord.started] } := .same rfl rfl
    have begun := pushed.trans (rewriteTranscript_hushed ok)
    cases ok with
    | true =>
      exact audit.calm plain (by simp [here]) (by simp [here]) rfl (by simp [goto])
        (begun.trans (.same rfl rfl)) rfl (by simp [writeFails, here]) rfl rfl
    | false =>
      simp only [Bool.false_eq_true, if_false]
      apply audit.calm plain (by simp [here]) (by simp [here]) rfl (by simp [stop])
        (begun.trans (stop_hushed _ _)) rfl _ rfl rfl
      intro failed
      have fault : isLocalFault ⟨js "io", js "TRANSCRIPT_INIT"⟩ = true := by decide
      exact ⟨rfl, by simp [stop], fault⟩
  case h_5 error here | h_6 error here =>
    cases moved
    have plain : audited.run.stage.late = false := by rw [here]; rfl
    obtain ⟨closing, aborted⟩ := raised_closing audited.run error
    exact audit.calm plain (by simp [here]) (by simp [here]) (closing_early closing)
      (by simp [closing]) (raised_hushed error) aborted
      (by simp [writeFails, here, artifactFailure]) rfl rfl
  case h_7 created error here =>
    cases moved
    have plain : audited.run.stage.late = false := by rw [here]; rfl
    have silent : audited.run.writeFails (.scoped created error) = true → False := by
      simp [writeFails, here, artifactFailure]
    have opened : Hushed audited.run { audited.run with
      scopeOpen := created || error.isNone } := .same rfl rfl
    split
    · exact audit.calm plain (by simp [here]) (by simp [here]) rfl (fun _ _ turning => by cases turning)
        (opened.trans interrupted_hushed) rfl (fun failed => (silent failed).elim) rfl rfl
    · split
      · exact audit.calm plain (by simp [here]) (by simp [here]) rfl (by simp [goto])
          (opened.trans (goto_hushed _)) rfl (fun failed => (silent failed).elim) rfl rfl
      · exact audit.calm plain (by simp [here]) (by simp [here]) rfl (by simp [stop])
          (opened.trans (stop_hushed _ _)) rfl (fun failed => (silent failed).elim) rfl rfl
  case h_8 here =>
    have plain : audited.run.stage.late = false := by rw [here]; rfl
    split at moved
    · cases moved
      exact audit.calm plain (by simp [here]) (by simp [here]) rfl (fun _ _ turning => by cases turning)
        interrupted_hushed rfl (by simp [writeFails, here, artifactFailure]) rfl rfl
    · cases moved
  case h_9 here =>
    have plain : audited.run.stage.late = false := by rw [here]; rfl
    split at moved
    · cases moved
    · obtain ⟨seat, -, begun⟩ := map_eq_some_iff.mp moved
      rw [← begun]
      apply audit.calm plain (by simp [here]) (by simp [here]) rfl _ (beginTurn_hushed _ _) rfl
        (by simp [writeFails, here, artifactFailure]) rfl rfl
      intro other turn turning
      simp only [beginTurn, Stage.turning.injEq] at turning
      rw [← turning.2]
      exact .inl rfl
  case h_10 seat turn turnLabel here =>
    split at moved
    · cases moved
    · apply audit.turns here moved (fun _ => audit.disk) here _ rfl rfl
      intro later calls turned failed still
      have earlier : audited.writeFailed = true := by
        simpa [writeFails, here, artifactFailure] using failed
      rcases audit.troubled earlier (turning_early here) still with ⟨_, _, there, faulty⟩ | ⟨there, -⟩
      · rw [here] at there
        cases there
        apply faulty.step (audit.unacked seat turn here) _ turned
        intro answer acked
        subst acked
        have quiet := unmasked earlier still
        simpa [here, Stage.turn?] using quiet
      · rw [here] at there
        cases there
  case h_11 seat turn transcriptOk reportError here =>
    split at moved
    · rename_i evidence waiting
      exact audit.persists here waiting moved
    · cases moved
  case h_12 seat turn durationMs ok here =>
    split at moved
    · rename_i result ended
      cases moved
      exact audit.settles here ended durationMs ok
    · cases moved
  case h_13 seat turn error here =>
    split at moved
    · rename_i rejected
      cases moved
      obtain ⟨closing, aborted⟩ := raised_closing audited.run error
      apply audit.calm (turning_early here) _ (by simp [here]) (closing_early closing)
        (by simp [closing]) (raised_hushed error) aborted
        (by simp [writeFails, here, artifactFailure]) rfl rfl
      intro other later there
      rw [here] at there
      cases there
      simp [Turn.Faulty, rejected]
    · cases moved
  case h_14 ok here =>
    cases moved
    exact audit.closed here ok
  case h_15 ok here =>
    cases moved
    exact audit.reported here ok
  case h_16 content ok here =>
    cases moved
    exact audit.copied here unmasked
  case h_17 ok here =>
    cases moved
    exact audit.finishes here ok
  case h_18 ok here =>
    cases moved
    exact audit.reconciles here ok
  case h_19 => cases moved

theorem audit_initial (input : RunInput) : Audit { run := { input } } where
  unacked seat turn stage := by cases stage
  artifact failed := by cases failed
  interrupted aborted := by cases aborted
  explained failed := by cases failed
  disk := ⟨rfl, rfl⟩
  finished written := by cases written
  landed done := by rcases done with here | here <;> cases here
  settled done := by cases done

theorem exitCode_ok {status : RunStatus} {failure artifact : Option TurnError} {aborted : Bool}
    (exits : exitCodeForRun status failure aborted artifact = .ok) : status = .completed := by
  by_contra incomplete
  unfold exitCodeForRun at exits
  split at exits
  · cases exits
  · split at exits
    · cases exits
    · cases failure with
      | none => cases exits
      | some failure =>
        simp only at exits
        split at exits
        · cases exits
        · split at exits
          · cases exits
          · split at exits
            · cases exits
            · split at exits <;> cases exits

theorem Audit.ended (audit : audited.Audit) (done : audited.run.stage = .done) : Settled audited := by
  constructor
  case success =>
    constructor
    · exact exitCode_ok
    · intro completed
      have artifact : audited.artifactIoFailure = none := by
        cases failed : audited.artifactIoFailure with
        | none => rfl
        | some failure => exact absurd completed (audit.artifact (by rw [failed]; rfl)).2
      simp [exitCode, exitCodeForRun, completed, artifact]
  case aborted =>
    intro closed
    obtain ⟨-, aborted, status⟩ := audit.interrupted closed
    exact ⟨status, by simp [exitCode, exitCodeForRun, aborted, status]⟩
  case local_ =>
    intro failed still
    have explained := audit.explained failed still
    simp only [Explained, done] at explained
    obtain ⟨incomplete, why⟩ := explained
    cases artifact : audited.artifactIoFailure with
    | some failure => simp [exitCode, exitCodeForRun, still, artifact]
    | none =>
      rw [artifact] at why
      rcases why with none_ | fault
      · cases none_
      · cases failure : audited.run.failure with
        | none => simp [failure] at fault
        | some error =>
          rw [failure, any_some] at fault
          simp [exitCode, exitCodeForRun, still, artifact, incomplete, failure, fault]
  case report => exact audit.settled done
  case finished =>
    intro final
    rcases final with written | completed
    · exact (audit.finished written).2
    · exact (audit.finished (audit.landed (.inr done) completed)).2

theorem unmasked_run_settles {labels : List CouncilLabel} {final : AuditedRun} (input : RunInput)
    (ran : Run AuditedRun.step Unmasked { run := { input } } labels final)
    (done : final.run.stage = .done) : Settled final :=
  (ran.invariant (fun audit unmasked stepped => Audit.step audit unmasked stepped)
    (audit_initial input)).ended done

instance (audited : AuditedRun) (label : CouncilLabel) : Decidable (Unmasked audited label) :=
  match label with
  | .copied ok => inferInstanceAs (Decidable (ok = true ∨ audited.run.aborted = false))
  | .turn turnLabel =>
    match turnLabel with
    | .acked answer => inferInstanceAs (Decidable (audited.writeFailed = true →
        audited.run.aborted = false → answer = .acknowledged ∧
          audited.run.stage.turn?.all (·.abortSource.isNone) = true))
    | .connected _ | .executed _ | .probed _ | .cancelled | .observed _ | .followed _
    | .checked _ | .persisted _ | .abort _ => .isTrue trivial
  | .abort | .raise _ | .started _ | .scoped .. | .begin_ _ | .interrupt | .persist .. | .settle ..
  | .closed _ | .reported _ | .finished _ | .reconciled _ => .isTrue trivial

theorem unmasked_run_settles_failedWrite : ∃ final,
    execute (guarded AuditedRun.step Unmasked) { run := { input := soloInput } } failedWriteRun =
      some final ∧ final.exitCode = .io ∧ Settled final := by
  have known : (execute (guarded AuditedRun.step Unmasked) { run := { input := soloInput } }
      failedWriteRun).any (fun audited =>
        decide (audited.run.stage = .done ∧ audited.exitCode = .io)) = true := by
    decide +kernel
  obtain ⟨final, ended, outcome⟩ := (any_eq_true _ _).mp known
  obtain ⟨done, exits⟩ := of_decide_eq_true outcome
  exact ⟨final, ended, exits, unmasked_run_settles soloInput (execute_guarded ended) done⟩

/-- An abort before the scope is open, and a `--out` path that cannot be written. -/
def abortedCopyRun : List CouncilLabel :=
  [.started true, .abort, .scoped true none, .closed true, .reported true, .copied false,
    .finished true, .reconciled true]

theorem abortedCopy_failed : ∃ final,
    Run AuditedRun.step anyStep { run := { input := { soloInput with outPath := true } } }
      abortedCopyRun final ∧ final.run.stage = .done ∧ final.abortedByClose = true ∧
        final.run.status = .failed ∧ final.exitCode = .io ∧ ¬ Settled final := by
  have known : (execute AuditedRun.step { run := { input := { soloInput with outPath := true } } }
      abortedCopyRun).any (fun audited => decide (audited.run.stage = .done ∧
        audited.abortedByClose = true ∧ audited.run.status = .failed ∧ audited.exitCode = .io)) =
      true := by
    decide +kernel
  obtain ⟨final, ended, outcome⟩ := (any_eq_true _ _).mp known
  obtain ⟨done, closed, failed, exits⟩ := of_decide_eq_true outcome
  refine ⟨final, execute_run ended (fun _ _ _ => trivial), done, closed, failed, exits, ?_⟩
  intro settled
  have interrupted := (settled.aborted closed).1
  rw [failed] at interrupted
  cases interrupted

end AuditedRun

end CouncilKit.Council
