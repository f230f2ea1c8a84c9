import CouncilKit.Auto.SpawnRun

namespace CouncilKit.Auto

open Data JsString List SpawnEffect Option SpawnResult Bool

namespace SpawnEffect

def reason : SpawnEffect → Option KillReason
  | .killing reason => some reason
  | _ => none

end SpawnEffect

def firstKill (log : List SpawnEffect) : Option KillReason := log.findSome? (·.reason)

def SpawnResult.Marked (out : SpawnResult) (reason : Option KillReason) : Prop :=
  (out.timedOut = true ↔ reason = some .timeout) ∧ (out.aborted = true ↔ reason = some .abort)

def Unanswered (log : List SpawnEffect) : Prop := ∀ out, resolve out ∉ log

def SpawnAllowed (front : List SpawnEffect) : SpawnEffect → Prop
  | .killing _ => firstKill front = none ∧ Unanswered front
  | .term delivered => .term true ∉ front ∧ (delivered = true → Unanswered front)
  | .sigkill => .term true ∈ front ∧ .sigkill ∉ front
  | .resolve out => Unanswered front ∧ (.term true ∈ front → .sigkill ∈ front) ∧
      out.Marked (firstKill front)

namespace SpawnState

structure Sound (state : SpawnState) : Prop where
  obeys : Obeys SpawnAllowed state.log
  reason : firstKill state.log = state.killReason
  reasoned : state.killInitiated = false → state.killReason = none
  termed : .term true ∈ state.log → state.killInitiated = true
  pending : state.killTimer = true → .term true ∈ state.log ∧ .sigkill ∉ state.log
  stepped : state.killTimer = false → .term true ∈ state.log → .sigkill ∈ state.log
  killed : .sigkill ∈ state.log → .term true ∈ state.log
  fresh : state.settled = false → Unanswered state.log ∧ state.waiting = none
  waits : ∀ out, state.waiting = some out →
    state.killTimer = true ∧ Unanswered state.log ∧ out.Marked state.killReason
  answered : state.settled = true → state.waiting = none → ∃ out, .resolve out ∈ state.log

variable {state other : SpawnState}

structure SameCore (state other : SpawnState) : Prop where
  log : other.log = state.log
  killReason : other.killReason = state.killReason
  killInitiated : other.killInitiated = state.killInitiated
  killTimer : other.killTimer = state.killTimer
  settled : other.settled = state.settled
  waiting : other.waiting = state.waiting

theorem Sound.frame (sound : state.Sound) (same : SameCore state other) : other.Sound := by
  obtain ⟨log, killReason, killInitiated, killTimer, settled, waiting⟩ := same
  constructor
  · rw [log]
    exact sound.obeys
  · rw [log, killReason]
    exact sound.reason
  · rw [killInitiated, killReason]
    exact sound.reasoned
  · rw [log, killInitiated]
    exact sound.termed
  · rw [log, killTimer]
    exact sound.pending
  · rw [log, killTimer]
    exact sound.stepped
  · rw [log]
    exact sound.killed
  · rw [log, settled, waiting]
    exact sound.fresh
  · rw [log, killReason, killTimer, waiting]
    exact sound.waits
  · rw [log, settled, waiting]
    exact sound.answered

theorem firstKill_concat (log : List SpawnEffect) (effect : SpawnEffect) :
    firstKill (log ++ [effect]) = (firstKill log).or effect.reason := by
  rw [firstKill, List.findSome?_append]
  cases effect <;> rfl

theorem marked_output (state : SpawnState) : state.output.Marked state.killReason := by
  simp [Marked, output]

variable (sound : state.Sound)

include sound

theorem sound_finish {out : SpawnResult}
    (marked : state.settled = false → out.Marked state.killReason) : (state.finish out).Sound := by
  unfold finish
  split
  · exact sound
  rename_i open_
  have unsettled : state.settled = false := eq_false_iff.mpr open_
  obtain ⟨unanswered, idle⟩ := sound.fresh unsettled
  dsimp only
  split
  · rename_i pending
    have timer : state.killTimer = true := (and_eq_true_iff.mp pending).2
    exact {
      obeys := sound.obeys
      reason := sound.reason
      reasoned := sound.reasoned
      termed := sound.termed
      pending := sound.pending
      stepped := sound.stepped
      killed := sound.killed
      fresh := fun unsettled => by cases unsettled
      waits := fun other waits => by
        cases waits
        exact ⟨timer, unanswered, marked unsettled⟩
      answered := fun _ idle => by cases idle }
  · rename_i ready
    have timer : state.killTimer = false := by
      cases timer : state.killTimer with
      | false => rfl
      | true =>
        have initiated := sound.termed (sound.pending timer).1
        rw [initiated, timer] at ready
        exact absurd rfl ready
    have allowed : SpawnAllowed state.log (.resolve out) :=
      ⟨unanswered, sound.stepped timer, by rw [sound.reason]; exact marked unsettled⟩
    exact {
      obeys := sound.obeys.concat allowed
      reason := by
        change firstKill (state.log ++ [.resolve out]) = state.killReason
        rw [firstKill_concat, sound.reason]
        exact or_none
      reasoned := sound.reasoned
      termed := fun member => sound.termed (by simpa [effect] using member)
      pending := fun on => by
        change state.killTimer = true at on
        rw [timer] at on
        cases on
      stepped := fun off member => by
        have before : .term true ∈ state.log := by simpa [effect] using member
        exact mem_append_left _ (sound.stepped timer before)
      killed := fun member => by
        have before : .sigkill ∈ state.log := by simpa [effect] using member
        exact mem_append_left _ (sound.killed before)
      fresh := fun unsettled => by cases unsettled
      waits := fun other waits => by
        change state.waiting = some other at waits
        rw [idle] at waits
        cases waits
      answered := fun _ _ => ⟨out, mem_append_right _ mem_cons_self⟩ }

theorem sound_term_lost (unsent : .term true ∉ state.log) : (state.effect (.term false)).Sound := by
  have allowed : SpawnAllowed state.log (.term false) := ⟨unsent, fun lost => by cases lost⟩
  have termed {effect : SpawnEffect} (other : effect ≠ .term false) :
      effect ∈ (state.effect (.term false)).log ↔ effect ∈ state.log := by
    simp [SpawnState.effect, other]
  exact {
    obeys := sound.obeys.concat allowed
    reason := by
      change firstKill (state.log ++ [.term false]) = state.killReason
      rw [firstKill_concat, sound.reason]
      exact or_none
    reasoned := sound.reasoned
    termed := fun member => sound.termed ((termed (by decide)).mp member)
    pending := fun on => ⟨(termed (by decide)).mpr (sound.pending on).1,
      fun member => (sound.pending on).2 ((termed (by decide)).mp member)⟩
    stepped := fun off member =>
      (termed (by decide)).mpr (sound.stepped off ((termed (by decide)).mp member))
    killed := fun member => (termed (by decide)).mpr (sound.killed ((termed (by decide)).mp member))
    fresh := fun open_ => ⟨fun out member =>
      (sound.fresh open_).1 out ((termed fun same => by cases same).mp member), (sound.fresh open_).2⟩
    waits := fun out waits => ⟨(sound.waits out waits).1, fun other member =>
      (sound.waits out waits).2.1 other ((termed fun same => by cases same).mp member),
      (sound.waits out waits).2.2⟩
    answered := fun closed idle =>
      (sound.answered closed idle).imp fun out member => mem_append_left _ member }

theorem sound_term_sent (unsent : .term true ∉ state.log) (unsettled : state.settled = false) :
    { state.effect (.term true) with killInitiated := true, killTimer := true }.Sound := by
  obtain ⟨unanswered, idle⟩ := sound.fresh unsettled
  have allowed : SpawnAllowed state.log (.term true) := ⟨unsent, fun _ => unanswered⟩
  have sent : term true ∈ state.log ++ [.term true] :=
    mem_append_right _ mem_cons_self
  have unkilled : sigkill ∉ state.log ++ [.term true] := by
    intro member
    exact unsent (sound.killed (by simpa using member))
  exact {
    obeys := sound.obeys.concat allowed
    reason := by
      change firstKill (state.log ++ [.term true]) = state.killReason
      rw [firstKill_concat, sound.reason]
      exact or_none
    reasoned := fun off => by cases off
    termed := fun _ => rfl
    pending := fun _ => ⟨sent, unkilled⟩
    stepped := fun off => by cases off
    killed := fun _ => sent
    fresh := fun _ => ⟨fun out member => unanswered out (by simpa [effect] using member), idle⟩
    waits := fun out waits => by
      change state.waiting = some out at waits
      rw [idle] at waits
      cases waits
    answered := fun closed => by
      change state.settled = true at closed
      rw [unsettled] at closed
      cases closed }

theorem sound_killing (unsettled : state.settled = false)
    (uninitiated : state.killInitiated = false) (reason : KillReason) :
    ({ state with killReason := some reason, killInitiated := true }.effect (.killing reason)).Sound := by
  obtain ⟨unanswered, idle⟩ := sound.fresh unsettled
  have unreasoned := sound.reasoned uninitiated
  have unsent : term true ∉ state.log := fun member => by
    have initiated := sound.termed member
    rw [uninitiated] at initiated
    cases initiated
  have timer : state.killTimer = false := by
    cases timer : state.killTimer with
    | false => rfl
    | true => exact absurd (sound.pending timer).1 unsent
  have first : firstKill state.log = none := sound.reason.trans unreasoned
  have allowed : SpawnAllowed state.log (.killing reason) := ⟨first, unanswered⟩
  exact {
    obeys := sound.obeys.concat allowed
    reason := by
      change firstKill (state.log ++ [.killing reason]) = some reason
      rw [firstKill_concat, first]
      rfl
    reasoned := fun off => by cases off
    termed := fun _ => rfl
    pending := fun on => by
      change state.killTimer = true at on
      rw [timer] at on
      cases on
    stepped := fun _ member => absurd (by simpa [effect] using member) unsent
    killed := fun member => absurd (sound.killed (by simpa [effect] using member)) unsent
    fresh := fun _ => ⟨fun out member => unanswered out (by simpa [effect] using member), idle⟩
    waits := fun out waits => by
      change state.waiting = some out at waits
      rw [idle] at waits
      cases waits
    answered := fun closed => by
      change state.settled = true at closed
      rw [unsettled] at closed
      cases closed }

theorem not_sent (uninitiated : state.killInitiated = false) :
    term true ∉ state.log := fun member => by
  have initiated := sound.termed member
  rw [uninitiated] at initiated
  cases initiated

theorem sound_killGroup (reason : KillReason) (delivered : Bool) :
    (state.killGroup reason delivered).Sound := by
  unfold killGroup
  split
  · exact sound
  rename_i open_
  split
  · exact sound
  rename_i idle
  have unsettled : state.settled = false := eq_false_iff.mpr open_
  have uninitiated : state.killInitiated = false := eq_false_iff.mpr idle
  have killing := sound_killing sound unsettled uninitiated reason
  have unsent : term true ∉ state.log ++ [.killing reason] := by
    intro member
    exact not_sent sound uninitiated (by simpa using member)
  dsimp only
  split
  · exact killing
  · split
    · rename_i reached
      rw [reached]
      exact (sound_term_sent killing unsent unsettled).frame ⟨rfl, rfl, rfl, rfl, rfl, rfl⟩
    · rename_i lost
      rw [eq_false_iff.mpr lost]
      have lost := sound_term_lost killing unsent
      split
      · exact lost
      · apply sound_finish lost
        intro _
        simp [Marked, effect]

theorem sound_cleanup {delivered : Bool}
    (safe : state.settled = true → state.pid.isSome → state.killInitiated = false → state.naturalCleanupRan = false → delivered = false) :
    (state.cleanupGroupOnNaturalEnd delivered).Sound := by
  unfold cleanupGroupOnNaturalEnd
  split
  · exact sound
  rename_i idle
  have still : state.naturalCleanupRan = false ∧ state.killInitiated = false := by simpa using idle
  have unsent := not_sent sound still.2
  have ran : { state with naturalCleanupRan := true }.Sound := sound.frame ⟨rfl, rfl, rfl, rfl, rfl, rfl⟩
  dsimp only
  split
  · exact ran
  · rename_i pid found
    cases delivered with
    | false => exact sound_term_lost ran unsent
    | true =>
      have unsettled : state.settled = false := by
        cases settled : state.settled with
        | false => rfl
        | true => cases safe settled (by rw [found]; rfl) still.2 still.1
      exact sound_term_sent ran unsent unsettled

theorem sound_onKill (timer : state.killTimer = true) : state.onKill.Sound := by
  obtain ⟨sent, unkilled⟩ := sound.pending timer
  have allowed : SpawnAllowed state.log .sigkill := ⟨sent, unkilled⟩
  have killedReason : firstKill (state.log ++ [.sigkill]) = state.killReason := by
    rw [firstKill_concat, sound.reason]
    exact or_none
  have killed : sigkill ∈ state.log ++ [.sigkill] :=
    mem_append_right _ mem_cons_self
  unfold onKill
  dsimp only
  split
  · rename_i idle
    exact {
      obeys := sound.obeys.concat allowed
      reason := killedReason
      reasoned := sound.reasoned
      termed := fun _ => sound.termed sent
      pending := fun on => by cases on
      stepped := fun _ _ => killed
      killed := fun _ => mem_append_left _ sent
      fresh := fun open_ => ⟨fun out member =>
        (sound.fresh open_).1 out (by simpa [effect] using member), idle⟩
      waits := fun out waits => by
        change state.waiting = some out at waits
        rw [idle] at waits
        cases waits
      answered := fun closed _ =>
        (sound.answered closed idle).imp fun out member => mem_append_left _ member }
  · rename_i out waits
    obtain ⟨_, unanswered, marked⟩ := sound.waits out waits
    have silent : Unanswered (state.log ++ [.sigkill]) := fun other member =>
      unanswered other (by simpa using member)
    have answer : SpawnAllowed (state.log ++ [.sigkill]) (.resolve out) :=
      ⟨silent, fun _ => killed, by rw [killedReason]; exact marked⟩
    exact {
      obeys := (sound.obeys.concat allowed).concat answer
      reason := by
        change firstKill ((state.log ++ [.sigkill]) ++ [.resolve out]) = state.killReason
        rw [firstKill_concat, killedReason]
        exact or_none
      reasoned := sound.reasoned
      termed := fun _ => sound.termed sent
      pending := fun on => by cases on
      stepped := fun _ _ => mem_append_left _ killed
      killed := fun _ => mem_append_left _ (mem_append_left _ sent)
      fresh := fun open_ => by
        have idle := (sound.fresh open_).2
        change state.waiting = some out at waits
        rw [idle] at waits
        cases waits
      waits := fun other waits => by cases waits
      answered := fun _ _ => ⟨out, mem_append_right _ mem_cons_self⟩ }

theorem sound_onStreamError (message : JsString) (delivered : Bool) :
    (state.onStreamError message delivered).Sound :=
  sound_finish (sound_killGroup sound .stream delivered) fun _ => marked_output _

theorem sound_onSpawn (writeError : Option JsString) (delivered : Bool) :
    (state.onSpawn writeError delivered).Sound := by
  have killed : (if state.signalAborted then state.killGroup .abort delivered else state).Sound := by
    split
    · exact sound_killGroup sound .abort delivered
    · exact sound
  unfold onSpawn
  dsimp only
  split
  · split
    · exact sound_onStreamError killed _ delivered
    · exact killed
  · exact killed

theorem sound_endLine {ended : SpawnState} (ends : state.endLine = some ended) : ended.Sound := by
  unfold endLine at ends
  split at ends
  · cases ends
    exact sound
  · obtain ⟨coll, _, same⟩ := map_eq_some_iff.mp ends
    cases same
    exact sound.frame ⟨rfl, rfl, rfl, rfl, rfl, rfl⟩

end SpawnState

/-- The condition on a step: no error event takes the mark of a timeout or an abort away,
and no end of the child is seen behind an error that left its group alone. -/
def SpawnLabel.Orderly (state : SpawnState) : SpawnLabel → Prop
  | .error _ => state.settled = true ∨
      (state.killReason ≠ some .timeout ∧ state.killReason ≠ some .abort)
  | .exit _ delivered | .close _ delivered =>
    state.settled = true → state.pid.isSome → state.killInitiated = false →
      state.naturalCleanupRan = false → delivered = false
  | _ => True

instance (state : SpawnState) (label : SpawnLabel) : Decidable (label.Orderly state) := by
  cases label <;> unfold SpawnLabel.Orderly <;> infer_instance

namespace SpawnState

variable {state : SpawnState}

theorem sound_step {label : SpawnLabel} {next : SpawnState} (sound : state.Sound)
    (orderly : label.Orderly state) (stepped : step state label = some next) : next.Sound := by
  unfold step at stepped
  split at stepped
  · cases stepped
  cases label with
  | spawn writeError delivered =>
    dsimp only at stepped
    split at stepped
    · cases stepped
    · cases stepped
      apply sound_onSpawn
      exact sound.frame ⟨rfl, rfl, rfl, rfl, rfl, rfl⟩
  | stdout chunk =>
    change state.onStdout chunk = some next at stepped
    unfold onStdout at stepped
    dsimp only at stepped
    split at stepped
    · cases stepped
      exact sound.frame ⟨rfl, rfl, rfl, rfl, rfl, rfl⟩
    · obtain ⟨coll, _, same⟩ := map_eq_some_iff.mp stepped
      cases same
      exact sound.frame ⟨rfl, rfl, rfl, rfl, rfl, rfl⟩
  | stderr chunk =>
    cases stepped
    exact sound.frame ⟨rfl, rfl, rfl, rfl, rfl, rfl⟩
  | streamError message delivered =>
    cases stepped
    exact sound_onStreamError sound message delivered
  | error message =>
    cases stepped
    apply sound_finish sound
    intro unsettled
    obtain settled | ⟨noTimeout, noAbort⟩ := orderly
    · rw [unsettled] at settled
      cases settled
    · simp [Marked, noTimeout, noAbort]
  | exit code delivered =>
    dsimp only at stepped
    split at stepped
    · cases stepped
    · cases stepped
      have cleaned := sound_cleanup
        (@Sound.frame state { state with exited := true, leaderExitCode := code } sound
          ⟨rfl, rfl, rfl, rfl, rfl, rfl⟩) orderly
      unfold onExit
      dsimp only
      split
      · exact cleaned
      · exact cleaned.frame ⟨rfl, rfl, rfl, rfl, rfl, rfl⟩
  | close code delivered =>
    dsimp only at stepped
    split at stepped
    · cases stepped
    · obtain ⟨ended, ends, same⟩ := map_eq_some_iff.mp stepped
      cases same
      have cleaned := sound_cleanup
        (@Sound.frame state { state with closed := true } sound ⟨rfl, rfl, rfl, rfl, rfl, rfl⟩) orderly
      exact sound_finish (sound_endLine cleaned ends) fun _ => marked_output _
  | timeout delivered =>
    dsimp only at stepped
    split at stepped
    · cases stepped
      apply sound_killGroup
      exact sound.frame ⟨rfl, rfl, rfl, rfl, rfl, rfl⟩
    · cases stepped
  | abort delivered =>
    dsimp only at stepped
    split at stepped
    · cases stepped
    · cases stepped
      split
      · apply sound_killGroup
        exact sound.frame ⟨rfl, rfl, rfl, rfl, rfl, rfl⟩
      · exact sound.frame ⟨rfl, rfl, rfl, rfl, rfl, rfl⟩
  | drain =>
    dsimp only at stepped
    split at stepped
    · obtain ⟨ended, ends, same⟩ := map_eq_some_iff.mp stepped
      cases same
      have drained := @Sound.frame state { state with drainTimer := false } sound
        ⟨rfl, rfl, rfl, rfl, rfl, rfl⟩
      exact sound_finish (sound_endLine drained ends) fun _ => marked_output _
    · cases stepped
  | kill =>
    dsimp only at stepped
    split at stepped
    · rename_i timer
      cases stepped
      exact sound_onKill sound timer
    · cases stepped

structure Grows (state next : SpawnState) : Prop where
  settled : state.settled = true → next.settled = true
  log : state.log <+: next.log
  pid : next.pid = state.pid
  drain : state.drainTimer = true → next.drainTimer = true ∨ next.settled = true

theorem Grows.refl (state : SpawnState) : Grows state state :=
  ⟨id, prefix_rfl, rfl, .inl⟩

theorem Grows.trans {first second third : SpawnState} (before : Grows first second)
    (after : Grows second third) : Grows first third where
  settled := fun closed => after.settled (before.settled closed)
  log := before.log.trans after.log
  pid := after.pid.trans before.pid
  drain := fun set => (before.drain set).elim after.drain fun closed => .inr (after.settled closed)

theorem settled_finish (state : SpawnState) (out : SpawnResult) : (state.finish out).settled = true := by
  unfold finish
  split
  · assumption
  · dsimp only
    split <;> rfl

theorem grows_finish (state : SpawnState) (out : SpawnResult) : Grows state (state.finish out) := by
  have settled := settled_finish state out
  refine ⟨fun _ => settled, ?_, ?_, fun _ => .inr settled⟩
  · unfold finish
    split
    · exact prefix_rfl
    · dsimp only
      split
      · exact prefix_rfl
      · exact prefix_append _ _
  · unfold finish
    split
    · rfl
    · dsimp only
      split <;> rfl

theorem grows_killGroup (state : SpawnState) (reason : KillReason) (delivered : Bool) :
    Grows state (state.killGroup reason delivered) := by
  unfold killGroup
  split
  · exact Grows.refl state
  split
  · exact Grows.refl state
  dsimp only
  have killing : Grows state ({ state with
      killReason := some reason
      killInitiated := true }.effect (.killing reason)) :=
    ⟨id, prefix_append _ _, rfl, .inl⟩
  split
  · exact killing
  have sent : Grows state (({ state with
      killReason := some reason
      killInitiated := true }.effect (.killing reason)).effect (.term delivered)) :=
    killing.trans ⟨id, prefix_append _ _, rfl, .inl⟩
  split
  · exact ⟨sent.settled, sent.log, sent.pid, sent.drain⟩
  · split
    · exact sent
    · exact sent.trans (grows_finish _ _)

theorem grows_cleanup (state : SpawnState) (delivered : Bool) :
    Grows state (state.cleanupGroupOnNaturalEnd delivered) ∧
      (state.cleanupGroupOnNaturalEnd delivered).killReason = state.killReason := by
  unfold cleanupGroupOnNaturalEnd
  split
  · exact ⟨Grows.refl state, rfl⟩
  dsimp only
  split
  · exact ⟨⟨id, prefix_rfl, rfl, .inl⟩, rfl⟩
  · split <;> exact ⟨⟨id, prefix_append _ _, rfl, .inl⟩, rfl⟩

theorem grows_endLine {ended : SpawnState} (ends : state.endLine = some ended) :
    Grows state ended ∧ ended.killReason = state.killReason := by
  unfold endLine at ends
  split at ends
  · cases ends
    exact ⟨Grows.refl state, rfl⟩
  · obtain ⟨coll, _, same⟩ := map_eq_some_iff.mp ends
    cases same
    exact ⟨⟨id, prefix_rfl, rfl, .inl⟩, rfl⟩

def Tracked (state : SpawnState) : Prop :=
  state.killReason.isSome → state.pid.isSome → state.settled = true ∨ .term true ∈ state.log

theorem Tracked.grows {next : SpawnState} (tracked : Tracked state) (grows : Grows state next)
    (reason : next.killReason = state.killReason) : Tracked next := by
  intro killed child
  rw [reason] at killed
  rw [grows.pid] at child
  exact (tracked killed child).imp grows.settled fun sent => grows.log.subset sent

theorem tracked_killGroup (tracked : Tracked state) {reason : KillReason} (other : reason ≠ .stream)
    (delivered : Bool) : Tracked (state.killGroup reason delivered) := by
  unfold killGroup
  split
  · exact tracked
  split
  · exact tracked
  dsimp only
  split
  · rename_i none_
    intro _ child
    change state.pid.isSome = true at child
    rw [none_] at child
    cases child
  · split
    · rename_i reached
      rw [reached]
      exact fun _ _ => .inr (mem_append_right _ mem_cons_self)
    · exact fun _ _ => .inl (settled_finish _ _)

theorem onStreamError_spec (state : SpawnState) (message : JsString) (delivered : Bool) :
    Grows state (state.onStreamError message delivered) ∧
      (state.onStreamError message delivered).settled = true :=
  ⟨(grows_killGroup state .stream delivered).trans (grows_finish _ _), settled_finish _ _⟩

theorem onSpawn_spec (state : SpawnState) (writeError : Option JsString) (delivered : Bool) :
    Grows state (state.onSpawn writeError delivered) ∧
      (Tracked state → Tracked (state.onSpawn writeError delivered)) := by
  have killed : Grows state (if state.signalAborted then state.killGroup .abort delivered else state) ∧
      (Tracked state →
        Tracked (if state.signalAborted then state.killGroup .abort delivered else state)) := by
    split
    · exact ⟨grows_killGroup state .abort delivered,
        fun tracked => tracked_killGroup tracked (by decide) delivered⟩
    · exact ⟨Grows.refl state, id⟩
  unfold onSpawn
  dsimp only
  split
  · split
    · obtain ⟨grows, settled⟩ := onStreamError_spec
        (if state.signalAborted then state.killGroup .abort delivered else state) _ delivered
      exact ⟨killed.1.trans grows, fun _ _ _ => .inl settled⟩
    · exact killed
  · exact killed

theorem onExit_spec (state : SpawnState) (code : Option Int) (delivered : Bool) :
    Grows state (state.onExit code delivered) ∧
      (state.onExit code delivered).killReason = state.killReason ∧
      ((state.onExit code delivered).settled = true ∨ (state.onExit code delivered).drainTimer = true) := by
  have left : Grows state { state with leaderExitCode := code } := ⟨id, prefix_rfl, rfl, .inl⟩
  obtain ⟨grows, same⟩ := grows_cleanup { state with leaderExitCode := code } delivered
  have cleaned := left.trans grows
  unfold onExit
  dsimp only
  split
  · rename_i closed
    exact ⟨cleaned, same, .inl closed⟩
  · exact ⟨⟨cleaned.settled, cleaned.log, cleaned.pid, fun _ => .inl rfl⟩, same, .inr rfl⟩

end SpawnState

def SpawnLabel.ends : SpawnLabel → Bool
  | .streamError .. | .error _ | .close .. | .drain => true
  | _ => false

def SpawnLabel.isExit : SpawnLabel → Bool
  | .exit .. => true
  | _ => false

namespace SpawnState

variable {state : SpawnState}

theorem step_spec {label : SpawnLabel} {next : SpawnState} (stepped : step state label = some next) :
    Grows state next ∧ (Tracked state → Tracked next) ∧ (label.ends = true → next.settled = true) ∧
      (label.isExit = true → next.settled = true ∨ next.drainTimer = true) := by
  have same (next : SpawnState) (grows : Grows state next) (reason : next.killReason = state.killReason)
      (ends : label.ends = true → next.settled = true)
      (exits : label.isExit = true → next.settled = true ∨ next.drainTimer = true) :
      Grows state next ∧ (Tracked state → Tracked next) ∧ (label.ends = true → next.settled = true) ∧
        (label.isExit = true → next.settled = true ∨ next.drainTimer = true) :=
    ⟨grows, fun tracked => tracked.grows grows reason, ends, exits⟩
  have plain {other : SpawnState} (log : other.log = state.log) (settled : other.settled = state.settled)
      (pid : other.pid = state.pid) (drain : other.drainTimer = state.drainTimer) : Grows state other :=
    ⟨fun closed => settled.trans closed, log ▸ prefix_rfl, pid, fun set => .inl (drain.trans set)⟩
  unfold step at stepped
  split at stepped
  · cases stepped
  cases label with
  | spawn writeError delivered =>
    dsimp only at stepped
    split at stepped
    · cases stepped
    · cases stepped
      obtain ⟨grows, tracks⟩ := onSpawn_spec { state with spawned := true } writeError delivered
      exact ⟨(@plain { state with spawned := true } rfl rfl rfl rfl).trans grows, tracks, fun ends => absurd ends false_ne_true,
        fun exits => absurd exits false_ne_true⟩
  | stdout chunk =>
    change state.onStdout chunk = some next at stepped
    unfold onStdout at stepped
    dsimp only at stepped
    split at stepped
    · cases stepped
      exact same _ (plain rfl rfl rfl rfl) rfl (fun ends => absurd ends false_ne_true) fun exits => absurd exits false_ne_true
    · obtain ⟨coll, _, fed⟩ := map_eq_some_iff.mp stepped
      cases fed
      exact same _ (plain rfl rfl rfl rfl) rfl (fun ends => absurd ends false_ne_true) fun exits => absurd exits false_ne_true
  | stderr chunk =>
    cases stepped
    exact same _ (plain rfl rfl rfl rfl) rfl (fun ends => absurd ends false_ne_true) fun exits => absurd exits false_ne_true
  | streamError message delivered =>
    cases stepped
    obtain ⟨grows, settled⟩ := onStreamError_spec state message delivered
    exact ⟨grows, fun _ _ _ => .inl settled, fun _ => settled, fun exits => absurd exits false_ne_true⟩
  | error message =>
    cases stepped
    have settled := settled_finish state { state.output with
      timedOut := false
      aborted := false
      error := some message }
    exact ⟨grows_finish _ _, fun _ _ _ => .inl settled, fun _ => settled, fun exits => absurd exits false_ne_true⟩
  | exit code delivered =>
    dsimp only at stepped
    split at stepped
    · cases stepped
    · cases stepped
      obtain ⟨grows, reason, drains⟩ := onExit_spec { state with exited := true } code delivered
      exact same _ ((@plain { state with exited := true } rfl rfl rfl rfl).trans grows) reason (fun ends => absurd ends false_ne_true) fun _ => drains
  | close code delivered =>
    dsimp only at stepped
    split at stepped
    · cases stepped
    · obtain ⟨ended, ends, finished⟩ := map_eq_some_iff.mp stepped
      cases finished
      obtain ⟨cleaned, _⟩ := grows_cleanup { state with closed := true } delivered
      have settled := settled_finish ended { ended.output with
        finalEventLine := ended.lastLine
        exitCode := code }
      exact ⟨((@plain { state with closed := true } rfl rfl rfl rfl).trans cleaned).trans
          ((grows_endLine ends).1.trans (grows_finish _ _)),
        fun _ _ _ => .inl settled, fun _ => settled, fun exits => absurd exits false_ne_true⟩
  | timeout delivered =>
    dsimp only at stepped
    split at stepped
    · cases stepped
      refine ⟨(@plain { state with timeoutTimer := false } rfl rfl rfl rfl).trans
          (grows_killGroup _ .timeout delivered), fun tracked => ?_,
        fun ends => absurd ends false_ne_true, fun exits => absurd exits false_ne_true⟩
      apply tracked_killGroup _ (by decide)
      exact tracked
    · cases stepped
  | abort delivered =>
    dsimp only at stepped
    split at stepped
    · cases stepped
    · cases stepped
      split
      · refine ⟨(@plain { state with signalAborted := true, listening := false } rfl rfl rfl rfl).trans
            (grows_killGroup _ .abort delivered), fun tracked => ?_,
          fun ends => absurd ends false_ne_true, fun exits => absurd exits false_ne_true⟩
        apply tracked_killGroup _ (by decide)
        exact tracked
      · exact same _ (plain rfl rfl rfl rfl) rfl (fun ends => absurd ends false_ne_true) fun exits => absurd exits false_ne_true
  | drain =>
    dsimp only at stepped
    split at stepped
    · obtain ⟨ended, ends, finished⟩ := map_eq_some_iff.mp stepped
      cases finished
      have settled := settled_finish ended { ended.output with
        finalEventLine := ended.lastLine
        exitCode := ended.leaderExitCode }
      have grown := (grows_endLine ends).1.trans (grows_finish ended { ended.output with
        finalEventLine := ended.lastLine
        exitCode := ended.leaderExitCode })
      exact ⟨⟨grown.settled, grown.log, grown.pid, fun _ => .inr settled⟩,
        fun _ _ _ => .inl settled, fun _ => settled, fun exits => absurd exits false_ne_true⟩
    · cases stepped
  | kill =>
    dsimp only at stepped
    split at stepped
    · cases stepped
      refine same _ ?_ ?_ (fun ends => absurd ends false_ne_true) fun exits => absurd exits false_ne_true
      · unfold onKill
        dsimp only
        split
        · exact ⟨id, prefix_append _ _, rfl, .inl⟩
        · exact ⟨id, (prefix_append _ _).trans (prefix_append _ _), rfl, .inl⟩
      · unfold onKill
        dsimp only
        split <;> rfl
    · cases stepped

theorem sound_start (input : SpawnInput) (pid : Option Nat) (signalAborted : Bool) :
    (start input pid signalAborted).Sound where
  obeys := Obeys.nil
  reason := rfl
  reasoned := fun _ => rfl
  termed := fun member => by cases member
  pending := fun on => by cases on
  stepped := fun _ member => by cases member
  killed := fun member => by cases member
  fresh := fun _ => ⟨fun _ => not_mem_nil, rfl⟩
  waits := fun _ waits => by cases waits
  answered := fun closed => by cases closed

theorem sound_threw (input : SpawnInput) (signalAborted : Bool) (message : JsString) :
    (threw input signalAborted message).Sound := by
  have allowed : SpawnAllowed [] (.resolve { stdout := [], stderr := [], error := some message }) :=
    ⟨fun _ => not_mem_nil, fun member => absurd member not_mem_nil,
      by simp [Marked, firstKill]⟩
  exact {
    obeys := Obeys.nil.concat allowed
    reason := rfl
    reasoned := fun _ => rfl
    termed := fun member => by simp [threw] at member
    pending := fun on => by cases on
    stepped := fun _ member => by simp [threw] at member
    killed := fun member => by simp [threw] at member
    fresh := fun unsettled => by cases unsettled
    waits := fun _ waits => by cases waits
    answered := fun _ _ => ⟨_, mem_cons_self⟩ }

theorem run_spec {meets : SpawnState → SpawnLabel → Prop} {labels : List SpawnLabel} {final : SpawnState}
    (run : Run step meets state labels final) :
    Grows state final ∧ (Tracked state → Tracked final) ∧
      ((∃ label ∈ labels, label.ends = true) → final.settled = true) ∧
      ((∃ label ∈ labels, label.isExit = true) → final.settled = true ∨ final.drainTimer = true) := by
  induction run with
  | done state =>
    refine ⟨Grows.refl state, id, fun some_ => ?_, fun some_ => ?_⟩
    · obtain ⟨label, member, _⟩ := some_
      cases member
    · obtain ⟨label, member, _⟩ := some_
      cases member
  | @next state middle final label rest met stepped _ ih =>
    obtain ⟨grows, tracks, ends, exits⟩ := step_spec stepped
    obtain ⟨later, tracksLater, endsLater, exitsLater⟩ := ih
    refine ⟨grows.trans later, fun tracked => tracksLater (tracks tracked), fun some_ => ?_,
      fun some_ => ?_⟩
    · obtain ⟨other, member, ending⟩ := some_
      obtain same | among := mem_cons.mp member
      · rw [same] at ending
        exact later.settled (ends ending)
      · exact endsLater ⟨other, among, ending⟩
    · obtain ⟨other, member, exiting⟩ := some_
      obtain same | among := mem_cons.mp member
      · rw [same] at exiting
        exact (exits exiting).elim (fun closed => .inl (later.settled closed))
          fun set => (later.drain set).symm
      · exact exitsLater ⟨other, among, exiting⟩

end SpawnState

/-- Every run of a subprocess whose steps are orderly. -/
theorem spawn_settles {input : SpawnInput} {pid : Option Nat} {signalAborted : Bool}
    {begin_ final : SpawnState} {labels : List SpawnLabel}
    (begins : begin_ = .start input pid signalAborted ∨
      ∃ message, begin_ = .threw input signalAborted message)
    (run : Run SpawnState.step (fun state label => label.Orderly state) begin_ labels final) :
    Obeys SpawnAllowed final.log ∧
      ((∃ label ∈ labels, label.ends = true) → final.settled = true) ∧
      ((∃ label ∈ labels, label.isExit = true) → final.settled = true ∨ final.drainTimer = true) ∧
      (final.killReason.isSome → final.pid.isSome → final.settled = true ∨ .term true ∈ final.log) ∧
      (final.settled = true → final.killTimer = true ∨ ∃ out, .resolve out ∈ final.log) := by
  have sound : begin_.Sound := by
    obtain rfl | ⟨message, rfl⟩ := begins
    · exact SpawnState.sound_start input pid signalAborted
    · exact SpawnState.sound_threw input signalAborted message
  have tracked : begin_.Tracked := by
    obtain rfl | ⟨message, rfl⟩ := begins
    · intro killed
      cases killed
    · intro killed
      cases killed
  have last := run.invariant SpawnState.sound_step sound
  obtain ⟨_, tracks, ends, exits⟩ := SpawnState.run_spec run
  refine ⟨last.obeys, ends, exits, tracks tracked, fun settled => ?_⟩
  cases waiting : final.waiting with
  | none => exact .inr (last.answered settled waiting)
  | some out => exact .inl (last.waits out waiting).1

def promptInput : SpawnInput := { driverId := none, promptStdin := true, prompt := js "review" }

def timeoutLabels : List SpawnLabel :=
  [.spawn none true, .timeout true, .exit none true, .close none true, .kill]

theorem spawn_settles_timeout : ∃ final,
    execute SpawnState.step (.start promptInput (some 7) false) timeoutLabels = some final ∧
      Obeys SpawnAllowed final.log ∧ final.killTimer = false ∧
        ∃ out, .resolve out ∈ final.log := by
  have ran : ∃ final, execute (guarded SpawnState.step fun state label => label.Orderly state)
      (.start promptInput (some 7) false) timeoutLabels = some final ∧
      execute SpawnState.step (.start promptInput (some 7) false) timeoutLabels = some final ∧
      final.killTimer = false := ⟨_, rfl, rfl, rfl⟩
  obtain ⟨final, guarded_, went, timer⟩ := ran
  obtain ⟨obeys, ends, _, _, answered⟩ := spawn_settles (.inl rfl) (execute_guarded guarded_)
  have settled := ends ⟨.close none true, by decide, rfl⟩
  exact ⟨final, went, obeys, timer, (answered settled).resolve_left (by rw [timer]; decide)⟩

/-- An abort before the error of a child that could not be spawned. -/
theorem abort_mark_lost :
    ¬ ∀ labels final,
      execute SpawnState.step (.start promptInput none false) labels = some final →
        Obeys SpawnAllowed final.log := by
  intro every
  have obeys := every [.abort true, .error (js "spawn gone ENOENT")] _ rfl
  have allowed := obeys [.killing .abort] _ [] rfl
  exact absurd (allowed.2.2.2.mpr rfl) (by decide)

end CouncilKit.Auto
