import CouncilKit.Data.Transition
import CouncilKit.Host.ProcessSupervisor

namespace CouncilKit.Host

open Data List

namespace Act

def reportsExit : Act → Bool
  | .received message =>
    frameType message = some (js "exit") || frameType message = some (js "spawn-error")
  | _ => false

def killsGroup : Act → Bool
  | .reapedGroup _ => true
  | _ => false

def neutral (act : Act) : Bool := !act.isExit && !act.isRelease

end Act

structure Ledger (trace : List Act) (settled handled : Bool) : Prop where
  exits : trace.countP Act.isExit = settled.toNat
  ended : settled → trace.any fun act => act.killsGroup || act.reportsExit
  released : trace.any Act.isRelease = (settled || handled)

theorem Ledger.append {trace acts : List Act} {settled handled : Bool}
    (ledger : Ledger trace settled handled) (neutral : ∀ act ∈ acts, act.neutral) :
    Ledger (trace ++ acts) settled handled := by
  have quiet : acts.countP Act.isExit = 0 := by
    rw [countP_eq_zero]
    intro act member isExit
    have := neutral act member
    simp [Act.neutral, isExit] at this
  have kept : acts.any Act.isRelease = false := by
    rw [any_eq_false]
    intro act member isRelease
    have := neutral act member
    simp [Act.neutral, isRelease] at this
  constructor
  · rw [countP_append, quiet, Nat.add_zero, ledger.exits]
  · intro isSettled
    rw [any_append, ledger.ended isSettled, Bool.true_or]
  · rw [any_append, kept, Bool.or_false, ledger.released]

theorem Ledger.release {trace : List Act} {settled : Bool} (ledger : Ledger trace settled false) :
    Ledger (trace ++ [.released]) settled true := by
  constructor
  · rw [countP_append, ledger.exits]
    rfl
  · intro isSettled
    rw [any_append, ledger.ended isSettled, Bool.true_or]
  · rw [any_append, Bool.or_true]
    exact Bool.or_true _

namespace DriverRecord

def Sound (record : DriverRecord) (handled : Bool) : Prop :=
  Ledger record.trace record.driverSettled handled

/-- What every step but the watchdog's exit leaves standing. -/
structure Keeps (before after : DriverRecord) : Prop where
  participantId : after.participantId = before.participantId
  watchdogHandled : after.watchdogHandled = before.watchdogHandled
  settled : before.driverSettled → after.driverSettled
  supervised : before.watchdogHandled → after.supervised = before.supervised
  sound {handled : Bool} : before.Sound handled → after.Sound handled

variable {record first second : DriverRecord}

theorem Keeps.refl (record : DriverRecord) : Keeps record record :=
  ⟨rfl, rfl, id, fun _ => rfl, id⟩

theorem Keeps.trans {third : DriverRecord} (early : Keeps first second)
    (late : Keeps second third) : Keeps first third where
  participantId := late.participantId.trans early.participantId
  watchdogHandled := late.watchdogHandled.trans early.watchdogHandled
  settled := late.settled ∘ early.settled
  supervised := by
    intro handled
    have still : second.watchdogHandled := by rw [early.watchdogHandled, handled]
    exact (late.supervised still).trans (early.supervised handled)
  sound := late.sound ∘ early.sound

@[simp] theorem did_driverSettled (acts : List Act) :
    (record.did acts).driverSettled = record.driverSettled := rfl

@[simp] theorem answerWaits_driverSettled (error : Option RuntimeError) :
    (record.answerWaits error).driverSettled = record.driverSettled := rfl

theorem keeps_did {acts : List Act} (neutral : acts.all Act.neutral) : Keeps record (record.did acts) :=
  ⟨rfl, rfl, id, fun _ => rfl, fun sound => sound.append (all_eq_true.mp neutral)⟩

theorem keeps_answerWaits (error : Option RuntimeError) : Keeps record (record.answerWaits error) := by
  have answers : ∀ act ∈ List.replicate record.waiting (Act.answered error), act.neutral := by
    intro act member
    rw [eq_of_mem_replicate member]
    rfl
  exact ⟨rfl, rfl, id, fun _ => rfl, fun sound => sound.append answers⟩

theorem keeps_settleDriver {code : Option Json} {signal : Option JsString}
    (ended : record.trace.any fun act => act.killsGroup || act.reportsExit) :
    Keeps record (record.settleDriver code signal) := by
  rw [settleDriver]
  split
  · exact .refl record
  · rename_i unsettled
    have settles : Keeps record
        ({ record with driverSettled := true }.did [.released, .exit code signal]) := by
      refine ⟨rfl, rfl, fun _ => rfl, fun _ => rfl, fun sound => ?_⟩
      have live : record.driverSettled = false := eq_false_of_ne_true unsettled
      constructor
      · have none : record.trace.countP Act.isExit = 0 := by rw [sound.exits, live]; rfl
        simp [did, none, Act.isExit]
      · intro _
        simp only [did, any_append, ended, Bool.true_or]
      · simp [did, Act.isRelease]
    exact (settles.trans (keeps_answerWaits _)).trans (keeps_did rfl)

theorem settled_settleDriver (code : Option Json) (signal : Option JsString) :
    (record.settleDriver code signal).driverSettled = true := by
  rw [settleDriver]
  split
  · assumption
  · rfl

theorem keeps_closeAfterProtocolViolation (reason : JsString) :
    Keeps record (record.closeAfterProtocolViolation reason) := by
  have closes : Keeps record { record with controlDestroyed := true } :=
    ⟨rfl, rfl, id, fun _ => rfl, id⟩
  exact closes.trans (keeps_did rfl)

theorem keeps_sendControl (message : Json) : Keeps record (record.sendControl message) := by
  rw [sendControl]
  split
  · exact .refl record
  · split
    · exact keeps_closeAfterProtocolViolation _
    · exact keeps_did rfl

theorem keeps_reapUnsettled : Keeps record record.reapUnsettled := by
  rw [reapUnsettled]
  split
  · have reaps : Keeps record (record.did [.reapedGroup ‹Json›]) := keeps_did rfl
    exact reaps.trans (keeps_settleDriver (by simp [did, Act.killsGroup]))
  · exact .refl record

theorem settled_reapUnsettled :
    record.reapUnsettled.driverSettled = (record.driverSettled || record.pgid.isSome) := by
  rw [reapUnsettled]
  cases settled : record.driverSettled <;> cases known : record.pgid <;>
    simp [settled, settled_settleDriver]

theorem keeps_frameSupervised (open_ : record.watchdogHandled = false) (message : Json) :
    Keeps record (record.frameSupervised message) := by
  have reports (pid pgid : Option Json) (startedAt : Option JsString) :
      Keeps record ({ record with pid, pgid, supervised := true }.did
        [.supervised pid pgid startedAt]) := by
    refine ⟨rfl, rfl, id, fun handled => ?_, fun sound => sound.append ?_⟩
    · rw [open_] at handled
      contradiction
    · simp [Act.neutral, Act.isExit, Act.isRelease]
  exact (reports _ _ _).trans (keeps_answerWaits none)

theorem keeps_frameSpawnError (detail : JsString)
    (reported : record.trace.any Act.reportsExit) : Keeps record (record.frameSpawnError detail) := by
  have fails (text : JsString) (error : Option RuntimeError) :
      Keeps record (({ record with spawnError := some text, expectingWatchdogExit := true }.did
        [.spawnError text]).answerWaits error) := by
    have marks : Keeps record ({ record with
        spawnError := some text, expectingWatchdogExit := true }.did [.spawnError text]) :=
      ⟨rfl, rfl, id, fun _ => rfl,
        fun sound => sound.append (by simp [Act.neutral, Act.isExit, Act.isRelease])⟩
    exact marks.trans (keeps_answerWaits error)
  simp only [frameSpawnError]
  split
  · refine (fails _ _).trans (keeps_settleDriver ?_)
    obtain ⟨act, member, reports⟩ := any_eq_true.mp reported
    refine any_eq_true.mpr ⟨act, ?_, by rw [reports, Bool.or_true]⟩
    exact mem_append_left _ (mem_append_left _ member)
  · exact fails _ _

theorem keeps_frameExit (message : Json) (reported : record.trace.any Act.reportsExit) :
    Keeps record (record.frameExit message) := by
  have expects : Keeps record { record with expectingWatchdogExit := true } :=
    ⟨rfl, rfl, id, fun _ => rfl, id⟩
  refine expects.trans (keeps_settleDriver ?_)
  obtain ⟨act, member, reports⟩ := any_eq_true.mp reported
  exact any_eq_true.mpr ⟨act, member, by rw [reports, Bool.or_true]⟩

section

variable (open_ : record.watchdogHandled = false)

include open_

theorem keeps_handleFrame {message : Json} {handled : DriverRecord}
    (read : (record.did [.received message]).handleFrame message = some handled) :
    Keeps record handled := by
  have receives : Keeps record (record.did [.received message]) := keeps_did rfl
  refine receives.trans ?_
  have reported (ends : frameType message = some (js "exit") ∨
      frameType message = some (js "spawn-error")) :
      (record.did [.received message]).trace.any Act.reportsExit := by
    rcases ends with ends | ends <;> simp [did, Act.reportsExit, ends]
  simp only [handleFrame] at read
  split at read
  · cases read
    exact @keeps_frameSupervised (record.did [.received message]) open_ message
  · split at read
    · rename_i isSpawnError
      obtain ⟨detail, -, rfl⟩ := Option.map_eq_some_iff.mp read
      exact keeps_frameSpawnError detail (reported (.inr isSpawnError))
    · split at read
      · rename_i isExit
        cases read
        exact keeps_frameExit message (reported (.inl isExit))
      · split at read
        · cases read
          exact keeps_did rfl
        · cases read
          exact .refl _

theorem keeps_handleControlLine {line : JsString} {handled : DriverRecord}
    (read : record.handleControlLine line = some handled) : Keeps record handled := by
  simp only [handleControlLine] at read
  split at read
  · cases read
    exact .refl record
  · split at read
    · cases read
      exact keeps_did rfl
    · contradiction
    · exact keeps_handleFrame open_ read

theorem keeps_handleControlLines (lines : List (List UInt8)) :
    Keeps record (record.handleControlLines lines) := by
  induction lines generalizing record with
  | nil => exact .refl record
  | cons line rest ih =>
    have buffers (bytes : List UInt8) : Keeps record { record with controlBuffer := bytes } :=
      ⟨rfl, rfl, id, fun _ => rfl, id⟩
    cases rest with
    | nil =>
      rw [handleControlLines]
      split
      · exact (buffers line).trans (keeps_closeAfterProtocolViolation _)
      · exact buffers line
    | cons next rest =>
      rw [handleControlLines]
      refine (buffers ([0x0A].intercalate (next :: rest))).trans ?_
      split
      · exact keeps_closeAfterProtocolViolation _
      · split
        · exact .refl _
        · rename_i handled read
          have step := keeps_handleControlLine (by exact open_) read
          split
          · exact step
          · exact step.trans (ih (step.watchdogHandled.trans open_))

end

theorem keeps_handleControlChunk (chunk : List UInt8) : Keeps record (record.handleControlChunk chunk) := by
  rw [handleControlChunk]
  split
  · exact .refl record
  · rename_i open_
    exact keeps_handleControlLines (eq_false_of_ne_true open_) _

theorem keeps_waitSupervised : Keeps record record.waitSupervised := by
  have answers (error : Option RuntimeError) : Keeps record (record.did [.answered error]) := keeps_did rfl
  rw [waitSupervised]
  split
  · exact answers none
  · split
    · exact answers _
    · split
      · exact answers _
      · split
        · exact answers _
        · exact ⟨rfl, rfl, id, fun _ => rfl, id⟩

theorem keeps_supervisionTimeout (timeoutMs : Nat) :
    Keeps record (record.supervisionTimeout timeoutMs) := by
  have expects : Keeps record { record with
      waiting := record.waiting - 1, expectingWatchdogExit := true } :=
    ⟨rfl, rfl, id, fun _ => rfl, id⟩
  exact ((expects.trans (keeps_sendControl _)).trans (keeps_did rfl)).trans
    (keeps_reapUnsettled.trans (keeps_did rfl))

theorem keeps_kill (signal : DriverSignal) (graceMs : Option Int) :
    Keeps record (record.kill signal graceMs) := by
  have expects : Keeps record { record with expectingWatchdogExit := true } :=
    ⟨rfl, rfl, id, fun _ => rfl, id⟩
  simp only [kill]
  split
  · exact .refl record
  · exact expects.trans (keeps_sendControl _)

theorem keeps_shutdownRecord (graceMs : Int) : Keeps record (record.shutdownRecord graceMs) := by
  have expects : Keeps record { record with expectingWatchdogExit := true } :=
    ⟨rfl, rfl, id, fun _ => rfl, id⟩
  have waits (sent : DriverRecord) : Keeps sent { sent with shutdowns := sent.shutdowns + 1 } :=
    ⟨rfl, rfl, id, fun _ => rfl, id⟩
  rw [shutdownRecord]
  split
  · exact keeps_reapUnsettled
  · exact (expects.trans (keeps_sendControl _)).trans (waits _)

theorem keeps_shutdownTimeout : Keeps record record.shutdownTimeout := by
  have fires : Keeps record { record with shutdowns := record.shutdowns - 1 } :=
    ⟨rfl, rfl, id, fun _ => rfl, id⟩
  have waits (killed : DriverRecord) : Keeps killed { killed with lastWaits := killed.lastWaits + 1 } :=
    ⟨rfl, rfl, id, fun _ => rfl, id⟩
  have kills (fired : DriverRecord) : Keeps fired (fired.did [.killedWatchdog]) := keeps_did rfl
  exact (fires.trans (kills _)).trans (keeps_reapUnsettled.trans (waits _))

theorem keeps_lastTimeout : Keeps record record.lastTimeout := by
  have fires : Keeps record { record with lastWaits := record.lastWaits - 1 } :=
    ⟨rfl, rfl, id, fun _ => rfl, id⟩
  exact fires.trans keeps_reapUnsettled

theorem keeps_appendDiagnostics (chunk : List UInt8) : Keeps record (record.appendDiagnostics chunk) := by
  have keeps (ring : List UInt8) : Keeps record { record with diagnostics := ring } :=
    ⟨rfl, rfl, id, fun _ => rfl, id⟩
  exact keeps _

def Recoverable (record : DriverRecord) : Prop :=
  record.pgid ≠ none ∧
    (record.expectingWatchdogExit = false ∧ record.spawnError = none ∨
      0 < record.shutdowns + record.lastWaits)

structure Watched (before after : DriverRecord) : Prop where
  participantId : after.participantId = before.participantId
  watchdogHandled : after.watchdogHandled = before.watchdogHandled
  supervised : after.supervised = before.supervised
  pgid : after.pgid = before.pgid
  waits : after.shutdowns + after.lastWaits = before.shutdowns + before.lastWaits

theorem Watched.trans {third : DriverRecord} (early : Watched first second)
    (late : Watched second third) : Watched first third :=
  ⟨late.participantId.trans early.participantId, late.watchdogHandled.trans early.watchdogHandled,
    late.supervised.trans early.supervised, late.pgid.trans early.pgid,
    late.waits.trans early.waits⟩

theorem watched_did (acts : List Act) : Watched record (record.did acts) :=
  ⟨rfl, rfl, rfl, rfl, rfl⟩

theorem watched_answerWaits (error : Option RuntimeError) : Watched record (record.answerWaits error) :=
  ⟨rfl, rfl, rfl, rfl, rfl⟩

theorem watched_settleDriver (code : Option Json) (signal : Option JsString) :
    Watched record (record.settleDriver code signal) := by
  rw [settleDriver]
  split
  · exact ⟨rfl, rfl, rfl, rfl, rfl⟩
  · exact ⟨rfl, rfl, rfl, rfl, rfl⟩

theorem watched_reapUnsettled : Watched record record.reapUnsettled := by
  rw [reapUnsettled]
  split
  · exact (watched_did _).trans (watched_settleDriver _ _)
  · exact ⟨rfl, rfl, rfl, rfl, rfl⟩

variable (code : Option Int) (signal : Option JsString)

theorem watched_unexpectedExit :
    Watched record (record.unexpectedExit code signal) := by
  simp only [unexpectedExit]
  split
  · exact ((watched_reapUnsettled.trans (watched_did _)).trans (watched_did _)).trans
      (watched_answerWaits _)
  · exact ((watched_did _).trans (watched_did _)).trans (watched_answerWaits _)

theorem settled_unexpectedExit :
    (record.unexpectedExit code signal).driverSettled = (record.driverSettled || record.pgid.isSome) := by
  rw [unexpectedExit, answerWaits_driverSettled, did_driverSettled]
  split
  · rw [did_driverSettled, settled_reapUnsettled]
  · rename_i other
    rw [did_driverSettled]
    cases known : record.pgid with
    | none => rw [Option.isSome_none, Bool.or_false]
    | some pgid =>
      have settled : record.driverSettled = true := eq_true_of_ne_false (other pgid known)
      rw [settled, Bool.true_or]

theorem keeps_unexpectedExit :
    Keeps record (record.unexpectedExit code signal) := by
  have exits (told : DriverRecord) : Keeps told (told.did [.watchdogExit code signal]) := keeps_did rfl
  simp only [unexpectedExit]
  split
  · exact ((keeps_reapUnsettled.trans (keeps_did rfl)).trans (exits _)).trans
      (keeps_answerWaits _)
  · exact ((keeps_did rfl).trans (exits _)).trans (keeps_answerWaits _)

theorem settled_resumeShutdowns : record.resumeShutdowns.driverSettled =
    (record.driverSettled || (record.pgid.isSome && decide (0 < record.shutdowns + record.lastWaits))) := by
  rw [resumeShutdowns]
  split
  · rename_i waiting
    rw [settled_reapUnsettled, decide_eq_true waiting, Bool.and_true]
  · rename_i waiting
    rw [decide_eq_false waiting, Bool.and_false, Bool.or_false]

theorem watched_resumeShutdowns : record.resumeShutdowns.participantId = record.participantId ∧
    record.resumeShutdowns.watchdogHandled = record.watchdogHandled ∧
    record.resumeShutdowns.supervised = record.supervised := by
  rw [resumeShutdowns]
  split
  · have kept := @watched_reapUnsettled { record with shutdowns := 0, lastWaits := 0 }
    exact ⟨kept.participantId, kept.watchdogHandled, kept.supervised⟩
  · exact ⟨rfl, rfl, rfl⟩

theorem keeps_resumeShutdowns : Keeps record record.resumeShutdowns := by
  have resumes : Keeps record { record with shutdowns := 0, lastWaits := 0 } :=
    ⟨rfl, rfl, id, fun _ => rfl, id⟩
  rw [resumeShutdowns]
  split
  · exact resumes.trans keeps_reapUnsettled
  · exact resumes

theorem watched_logDiagnostics : Watched record record.logDiagnostics := by
  simp only [logDiagnostics]
  split
  · exact ⟨rfl, rfl, rfl, rfl, rfl⟩
  · exact watched_did _

theorem settled_logDiagnostics : record.logDiagnostics.driverSettled = record.driverSettled := by
  simp only [logDiagnostics]
  split <;> rfl

theorem keeps_logDiagnostics : Keeps record record.logDiagnostics := by
  simp only [logDiagnostics]
  split
  · exact .refl record
  · exact keeps_did rfl

def reportedExit (record : DriverRecord) (code : Option Int) (signal : Option JsString) : DriverRecord :=
  let handled := { record with watchdogHandled := true, watchdogExit := some (code, signal) }
  (if handled.expectsExit then handled else handled.unexpectedExit code signal).logDiagnostics

theorem handleWatchdogExit_eq (open_ : record.watchdogHandled = false) (code : Option Int)
    (signal : Option JsString) : record.handleWatchdogExit code signal =
      ({ record.reportedExit code signal with tracked := false }.did [.released]).resumeShutdowns := by
  rw [handleWatchdogExit, open_, if_neg Bool.false_ne_true]
  rfl

theorem watched_reportedExit (code : Option Int) (signal : Option JsString) :
    Watched { record with watchdogHandled := true } (record.reportedExit code signal) := by
  have handles : Watched { record with watchdogHandled := true }
      { record with watchdogHandled := true, watchdogExit := some (code, signal) } :=
    ⟨rfl, rfl, rfl, rfl, rfl⟩
  simp only [reportedExit]
  split
  · exact handles.trans watched_logDiagnostics
  · exact (handles.trans (watched_unexpectedExit _ _)).trans watched_logDiagnostics

theorem settled_reportedExit :
    (record.reportedExit code signal).driverSettled =
      (record.driverSettled || (!record.expectsExit && record.pgid.isSome)) := by
  simp only [reportedExit]
  rw [settled_logDiagnostics]
  split
  · rename_i expected
    have expects : record.expectsExit = true := expected
    rw [expects, Bool.not_true, Bool.false_and, Bool.or_false]
  · rename_i surprising
    have expects : record.expectsExit = false := eq_false_of_ne_true surprising
    rw [settled_unexpectedExit, expects, Bool.not_false, Bool.true_and]

theorem sound_reportedExit
    (sound : record.Sound false) : (record.reportedExit code signal).Sound false := by
  simp only [reportedExit]
  split
  · exact keeps_logDiagnostics.sound sound
  · exact keeps_logDiagnostics.sound ((keeps_unexpectedExit code signal).sound sound)

structure Exited (before after : DriverRecord) : Prop where
  participantId : after.participantId = before.participantId
  watchdogHandled : after.watchdogHandled = true
  supervised : after.supervised = before.supervised
  settled : after.driverSettled ↔ before.driverSettled ∨ before.Recoverable
  sound : before.Sound false → after.Sound true

theorem Exited.of_did {acts : List Act} {after : DriverRecord}
    (keeps : Keeps record (record.did acts)) (exited : Exited (record.did acts) after) :
    Exited record after :=
  ⟨exited.participantId, exited.watchdogHandled, exited.supervised, exited.settled,
    exited.sound ∘ keeps.sound⟩

theorem settled_iff_recoverable :
    (record.driverSettled || (!record.expectsExit && record.pgid.isSome) ||
      (record.pgid.isSome && decide (0 < record.shutdowns + record.lastWaits))) = true ↔
      record.driverSettled ∨ record.Recoverable := by
  cases settled : record.driverSettled with
  | true => simp
  | false =>
    cases known : record.pgid with
    | none => simp [Recoverable, known]
    | some pgid =>
      cases expecting : record.expectingWatchdogExit <;> cases failed : record.spawnError <;>
        simp [Recoverable, expectsExit, known, settled, expecting, failed]

theorem exited_handleWatchdogExit (open_ : record.watchdogHandled = false) (code : Option Int)
    (signal : Option JsString) : Exited record (record.handleWatchdogExit code signal) := by
  have watched := @watched_reportedExit record code signal
  obtain ⟨named, handled, supervised⟩ := @watched_resumeShutdowns
    ({ record.reportedExit code signal with tracked := false }.did [.released])
  rw [handleWatchdogExit_eq open_]
  refine ⟨named.trans watched.participantId, handled.trans watched.watchdogHandled,
    supervised.trans watched.supervised, ?_, ?_⟩
  · rw [settled_resumeShutdowns, did_driverSettled, settled_reportedExit]
    have group : ({ record.reportedExit code signal with tracked := false }.did
        [.released]).pgid = record.pgid := watched.pgid
    have waits : ({ record.reportedExit code signal with tracked := false }.did
        [.released]).shutdowns + ({ record.reportedExit code signal with tracked := false }.did
        [.released]).lastWaits = record.shutdowns + record.lastWaits := watched.waits
    rw [group, waits]
    exact settled_iff_recoverable
  · intro sound
    exact keeps_resumeShutdowns.sound (Ledger.release (sound_reportedExit code signal sound))

end DriverRecord

namespace ProcessSupervisor

open DriverRecord

variable {record next : DriverRecord} {action : DriverStep} {supervisor after : ProcessSupervisor}
  {event : Event}

def DriverStep.isExit : DriverStep → Bool
  | .watchdogExit _ _ => true
  | .watchdogError _ => true
  | _ => false

theorem driverStep_cases (stepped : driverStep record action = some next) :
    (DriverStep.isExit action = true ∧ record.watchdogHandled = false ∧ Exited record next) ∨
      Keeps record next ∧ (DriverStep.isExit action = true → record.watchdogHandled = true) := by
  have guarded {timer : Prop} [Decidable timer] {fired : DriverRecord}
      (kept : Keeps record fired)
      (stepped : (if timer then some fired else none) = some next) : Keeps record next := by
    split at stepped
    · cases stepped
      exact kept
    · contradiction
  have told (message : JsString) : Keeps record (record.did [.diagnosed (js "watchdog-spawn") message]) := keeps_did rfl
  cases action with
  | controlChunk chunk =>
    cases stepped
    exact .inr ⟨keeps_handleControlChunk chunk, nofun⟩
  | diagnosticChunk chunk =>
    cases stepped
    exact .inr ⟨keeps_appendDiagnostics chunk, nofun⟩
  | watchdogExit code signal =>
    cases stepped
    cases handled : record.watchdogHandled with
    | false => exact .inl ⟨rfl, rfl, exited_handleWatchdogExit handled code signal⟩
    | true =>
      rw [handleWatchdogExit, if_pos handled]
      exact .inr ⟨.refl record, fun _ => rfl⟩
  | watchdogError message =>
    rw [driverStep, Option.some_inj] at stepped
    subst stepped
    have tells := told (js "watchdog process error: " ++ message)
    cases handled : record.watchdogHandled with
    | false =>
      exact .inl ⟨rfl, rfl, .of_did tells (exited_handleWatchdogExit (by exact handled) none none)⟩
    | true =>
      rw [handleWatchdogExit, if_pos (by exact handled)]
      exact .inr ⟨tells, fun _ => rfl⟩
  | waitSupervised =>
    cases stepped
    exact .inr ⟨keeps_waitSupervised, nofun⟩
  | supervisionTimeout timeoutMs =>
    exact .inr ⟨guarded (keeps_supervisionTimeout timeoutMs) stepped, nofun⟩
  | kill signal graceMs =>
    cases stepped
    exact .inr ⟨keeps_kill signal graceMs, nofun⟩
  | closeStdin =>
    cases stepped
    exact .inr ⟨keeps_sendControl _, nofun⟩
  | shutdown graceMs =>
    cases stepped
    exact .inr ⟨keeps_shutdownRecord graceMs, nofun⟩
  | shutdownTimeout => exact .inr ⟨guarded keeps_shutdownTimeout stepped, nofun⟩
  | lastTimeout => exact .inr ⟨guarded keeps_lastTimeout stepped, nofun⟩

end ProcessSupervisor

end CouncilKit.Host
