import CouncilKit.Repair.RecordLock

namespace CouncilKit.Repair

open Data Function

namespace LockPhase

def reclaims : LockPhase → Option LockToken
  | .reclaiming _ seen => some seen
  | _ => none

/-- A process only carries tokens with its own pid, and reclaims from the dead. -/
def Informed (alive : Nat → Bool) (pid : Nat) : LockPhase → Prop
  | .linking token | .probing token | .entered token | .writing token _ _ | .leaving token
  | .unlinking token => token.pid = pid
  | .reclaiming token seen => token.pid = pid ∧ ¬ (0 < seen.pid ∧ alive seen.pid = true)
  | .idle => True

end LockPhase

namespace RecordLock

variable {system next : RecordLock} {pid : Nat} {phase : LockPhase} {action : LockAction}

/-- A process that holds the lock is alive, and the lock file is its own. -/
structure Sound (system : RecordLock) : Prop where
  owned : ∀ pid token, (system.phase pid).held = some token →
    system.lock = some token ∧ system.alive pid = true
  informed : ∀ pid, (system.phase pid).Informed system.alive pid
  positive : ∀ pid, system.alive pid = true → 0 < pid
  /-- The record has not changed since the process about to write it read it. -/
  current : ∀ pid token existing written,
    system.phase pid = .writing token existing written → system.record = existing ∧
      existing.any (isTerminalRepairExecution ·.state) = false

def Exclusive (system : RecordLock) : Prop :=
  ∀ first second, (system.phase first).held.isSome = true →
    (system.phase second).held.isSome = true → first = second

def Spares (system : RecordLock) (action : LockAction) (next : RecordLock) : Prop :=
  ∀ token, system.lock = some token → system.holderAlive token = true →
    next.lock ≠ some token → token.pid = actor action

def KeepsTerminal (system next : RecordLock) : Prop :=
  system.record.any (isTerminalRepairExecution ·.state) = true → next.record = system.record

def Unclaimed (system : RecordLock) : LockAction → Prop
  | .reclaim pid _ => ∀ seen ∈ (system.phase pid).reclaims, ∀ current ∈ system.lock, current = seen
  | _ => True

instance (system : RecordLock) : (action : LockAction) → Decidable (system.Unclaimed action)
  | .reclaim pid _ => inferInstanceAs (Decidable (∀ seen ∈ (system.phase pid).reclaims, _))
  | .acquire .. | .link .. | .probe .. | .giveUp .. | .decide .. | .write .. | .readLock ..
  | .unlink .. | .die .. => .isTrue trivial

@[simp] theorem phase_goto_self : (system.goto pid phase).phase pid = phase := by
  simp [goto]

variable {other : Nat}

theorem phase_goto_other (different : other ≠ pid) :
    (system.goto pid phase).phase other = system.phase other := by
  simp [goto, different]

variable {token : LockToken}

theorem held_token (informed : phase.Informed system.alive pid)
    (held : phase.held = some token) : token.pid = pid := by
  cases phase with
  | entered own | writing own existing written | leaving own | unlinking own =>
    cases held
    exact informed
  | idle | linking | probing | reclaiming => contradiction

section

variable (sound : system.Sound)

include sound

theorem Sound.exclusive : system.Exclusive := by
  intro first second inside alsoInside
  obtain ⟨token, held⟩ := Option.isSome_iff_exists.mp inside
  obtain ⟨other, otherHeld⟩ := Option.isSome_iff_exists.mp alsoInside
  have same : some token = some other :=
    (sound.owned first token held).1.symm.trans (sound.owned second other otherHeld).1
  cases same
  exact (held_token (sound.informed first) held).symm.trans (held_token (sound.informed second) otherHeld)

theorem Sound.alone (held : (system.phase pid).held = some token) (different : other ≠ pid) :
    (system.phase other).held = none := by
  cases otherHeld : (system.phase other).held with
  | none => rfl
  | some otherToken =>
    have same := sound.exclusive other pid (by rw [otherHeld]; rfl) (by rw [held]; rfl)
    exact absurd same different

section

variable (informed : phase.Informed system.alive pid)

include informed

theorem informed_goto (other : Nat) :
    ((system.goto pid phase).phase other).Informed system.alive other := by
  by_cases same : other = pid
  · subst same
    rwa [phase_goto_self]
  · rw [phase_goto_other same]
    exact sound.informed other

theorem Sound.goto
    (held : ∀ token, phase.held = some token → system.lock = some token ∧ system.alive pid = true)
    (current : ∀ token existing written, phase = .writing token existing written → system.record = existing ∧ existing.any (isTerminalRepairExecution ·.state) = false) :
    (system.goto pid phase).Sound where
  owned other token inside := by
    by_cases same : other = pid
    · subst same
      rw [phase_goto_self] at inside
      exact held token inside
    · rw [phase_goto_other same] at inside
      exact sound.owned other token inside
  informed := informed_goto sound informed
  positive := sound.positive
  current other token existing written here := by
    by_cases same : other = pid
    · subst same
      rw [phase_goto_self] at here
      exact current token existing written here
    · rw [phase_goto_other same] at here
      exact sound.current other token existing written here

theorem Sound.outside (free : phase.held = none) : (system.goto pid phase).Sound := by
  refine sound.goto informed (fun token held => ?_) fun token existing written here => ?_
  · rw [free] at held
    contradiction
  · rw [here] at free
    contradiction

end

theorem Sound.inside {token : LockToken} (held : (system.phase pid).held = some token)
    (still : phase.held = some token) (informed : phase.Informed system.alive pid)
    (plain : ∀ other existing written, phase ≠ .writing other existing written) :
    (system.goto pid phase).Sound := by
  refine sound.goto informed (fun other otherHeld => ?_) fun other existing written here => ?_
  · rw [still] at otherHeld
    cases otherHeld
    exact sound.owned pid token held
  · exact absurd here (plain other existing written)

theorem Sound.unlock (informed : phase.Informed system.alive pid) (free : phase.held = none)
    (alone : ∀ other, other ≠ pid → (system.phase other).held = none) :
    Sound { system.goto pid phase with lock := none } := by
  have moved := sound.outside informed free
  exact {
    owned := fun other token inside => by
      by_cases same : other = pid
      · subst same
        change ((system.goto other phase).phase other).held = some token at inside
        rw [phase_goto_self, free] at inside
        contradiction
      · change ((system.goto pid phase).phase other).held = some token at inside
        rw [phase_goto_other same, alone other same] at inside
        contradiction
    informed := moved.informed
    positive := moved.positive
    current := moved.current }

theorem Sound.link (alive : system.alive pid = true) (own : token.pid = pid)
    (free : system.lock = none) :
    Sound { system.goto pid (.entered token) with lock := some token } where
  owned other inside held := by
    by_cases same : other = pid
    · subst same
      change ((system.goto other (.entered token)).phase other).held = some inside at held
      rw [phase_goto_self] at held
      cases held
      exact ⟨rfl, alive⟩
    · change ((system.goto pid (.entered token)).phase other).held = some inside at held
      rw [phase_goto_other same] at held
      rw [(sound.owned other inside held).1] at free
      contradiction
  informed := informed_goto sound own
  positive := sound.positive
  current other inside existing written here := by
    change (system.goto pid (.entered token)).phase other = .writing inside existing written at here
    by_cases same : other = pid
    · subst same
      rw [phase_goto_self] at here
      contradiction
    · rw [phase_goto_other same] at here
      exact sound.current other inside existing written here

end

variable {existing : Option RepairExecution} {written : RepairExecution}

theorem Sound.write (sound : system.Sound)
    (here : system.phase pid = .writing token existing written) :
    Sound { system.goto pid (.leaving token) with record := some written } := by
  have held : (system.phase pid).held = some token := by rw [here]; rfl
  have own := held_token (sound.informed pid) held
  have moved : (system.goto pid (.leaving token)).Sound :=
    sound.inside held rfl own fun _ _ _ same => by contradiction
  exact {
    owned := moved.owned
    informed := moved.informed
    positive := moved.positive
    current := fun other inside seen next otherHere => by
      change (system.goto pid (.leaving token)).phase other = .writing inside seen next at otherHere
      by_cases same : other = pid
      · subst same
        rw [phase_goto_self] at otherHere
        contradiction
      · rw [phase_goto_other same] at otherHere
        have free := sound.alone held same
        rw [otherHere] at free
        contradiction }

variable {callback : Option RepairExecution → Option RepairExecution}

theorem informed_decide (own : token.pid = pid) :
    (system.decideRecord token callback).Informed system.alive pid := by
  rw [decideRecord]
  split
  · exact own
  · split <;> exact own

theorem held_decide :
    (system.decideRecord token callback).held = some token := by
  rw [decideRecord]
  split
  · rfl
  · split <;> rfl

theorem current_decide {inside : LockToken}
    (here : system.decideRecord token callback = .writing inside existing written) :
    system.record = existing ∧ existing.any (isTerminalRepairExecution ·.state) = false := by
  rw [decideRecord] at here
  split at here
  · contradiction
  · rename_i going
    split at here
    · contradiction
    · cases here
      exact ⟨rfl, Bool.eq_false_iff.mpr going⟩

theorem informed_die {alive : Nat → Bool} {dead : Nat} (informed : phase.Informed alive other) :
    phase.Informed (update alive dead false) other := by
  cases phase with
  | reclaiming token seen =>
    refine ⟨informed.1, fun living => informed.2 ⟨living.1, ?_⟩⟩
    by_cases same : seen.pid = dead
    · have gone := living.2
      simp [same] at gone
    · rw [← living.2, update_of_ne same]
  | linking | probing | entered | writing | leaving | unlinking => exact informed
  | idle => trivial

theorem Sound.die (sound : system.Sound) :
    Sound { system.goto pid .idle with alive := update system.alive pid false } := by
  have moved : (system.goto pid .idle).Sound := sound.outside trivial rfl
  exact {
    owned := fun other token inside => by
      obtain ⟨file, living⟩ := moved.owned other token inside
      refine ⟨file, ?_⟩
      by_cases same : other = pid
      · subst same
        change ((system.goto other .idle).phase other).held = some token at inside
        rw [phase_goto_self] at inside
        contradiction
      · exact (update_of_ne same ..).trans living
    informed := fun other => informed_die (moved.informed other)
    positive := fun other living => by
      change update system.alive pid false other = true at living
      by_cases same : other = pid
      · simp [same] at living
      · rw [update_of_ne same] at living
        exact sound.positive other living
    current := moved.current }

theorem spares_of_lock (same : next.lock = system.lock) : Spares system action next :=
  fun _ found _ removed => absurd (same.trans found) removed

theorem keepsTerminal_of_record (same : next.record = system.record) : KeepsTerminal system next :=
  fun _ => same

theorem Sound.step (sound : system.Sound) (unclaimed : system.Unclaimed action)
    (stepped : system.step action = some next) :
    next.Sound ∧ Spares system action next ∧ KeepsTerminal system next := by
  simp only [RecordLock.step] at stepped
  split at stepped
  case isFalse => contradiction
  rename_i alive
  cases action with
  | acquire pid nonce =>
    simp only [perform] at stepped
    split at stepped
    · cases stepped
      exact ⟨sound.outside rfl rfl, spares_of_lock rfl, keepsTerminal_of_record rfl⟩
    · contradiction
  | link pid =>
    simp only [perform] at stepped
    split at stepped
    · rename_i token here
      have own := sound.informed pid
      rw [here] at own
      cases stepped
      cases found : system.lock with
      | none =>
        refine ⟨sound.link alive own found, fun token taken => ?_, keepsTerminal_of_record rfl⟩
        rw [found] at taken
        contradiction
      | some other =>
        exact ⟨sound.outside own rfl, spares_of_lock rfl, keepsTerminal_of_record rfl⟩
    · contradiction
  | probe pid failed =>
    simp only [perform] at stepped
    split at stepped
    · rename_i token here
      have own := sound.informed pid
      rw [here] at own
      cases stepped
      split
      · exact ⟨sound.outside own rfl, spares_of_lock rfl, keepsTerminal_of_record rfl⟩
      · split
        · exact ⟨sound.outside own rfl, spares_of_lock rfl, keepsTerminal_of_record rfl⟩
        · rename_i dead
          refine ⟨sound.outside ⟨own, ?_⟩ rfl, spares_of_lock rfl, keepsTerminal_of_record rfl⟩
          simpa [holderAlive] using dead
    · contradiction
  | reclaim pid failed =>
    simp only [perform] at stepped
    split at stepped
    · rename_i token seen here
      have informed := sound.informed pid
      rw [here] at informed
      have unchanged := unclaimed seen (by rw [here]; rfl)
      cases stepped
      split
      · exact ⟨sound.outside informed.1 rfl, spares_of_lock rfl, keepsTerminal_of_record rfl⟩
      · refine ⟨sound.unlock informed.1 rfl fun other _ => ?_, fun current found living _ => ?_,
          keepsTerminal_of_record rfl⟩
        · cases held : (system.phase other).held with
          | none => rfl
          | some inside =>
            obtain ⟨file, living⟩ := sound.owned other inside held
            have named := held_token (sound.informed other) held
            have gone := informed.2
            rw [← unchanged inside file, named] at gone
            exact absurd ⟨sound.positive other living, living⟩ gone
        · rw [unchanged current found] at living
          exact absurd (by simpa [holderAlive] using living) informed.2
    · contradiction
  | giveUp pid =>
    simp only [perform] at stepped
    have informed := sound.informed pid
    have inside : ∀ token, (system.phase pid).held = some token →
        (system.goto pid (.leaving token)).Sound := fun token held =>
      sound.inside held rfl (held_token informed held) fun _ _ _ same => by contradiction
    split at stepped
    · cases stepped
      exact ⟨sound.outside trivial rfl, spares_of_lock rfl, keepsTerminal_of_record rfl⟩
    · cases stepped
      exact ⟨sound.outside trivial rfl, spares_of_lock rfl, keepsTerminal_of_record rfl⟩
    · rename_i token here
      cases stepped
      exact ⟨inside token (by rw [here]; rfl), spares_of_lock rfl, keepsTerminal_of_record rfl⟩
    · rename_i token existing written here
      cases stepped
      exact ⟨inside token (by rw [here]; rfl), spares_of_lock rfl, keepsTerminal_of_record rfl⟩
    · contradiction
  | decide pid callback =>
    simp only [perform] at stepped
    split at stepped
    · rename_i token here
      have held : (system.phase pid).held = some token := by rw [here]; rfl
      have own := held_token (sound.informed pid) held
      cases stepped
      refine ⟨sound.goto (informed_decide own) (fun other otherHeld => ?_)
        fun _ _ _ => current_decide, spares_of_lock rfl, keepsTerminal_of_record rfl⟩
      rw [held_decide] at otherHeld
      cases otherHeld
      exact sound.owned pid token held
    · contradiction
  | write pid =>
    simp only [perform] at stepped
    split at stepped
    · rename_i token existing written here
      cases stepped
      refine ⟨sound.write here, spares_of_lock rfl, fun terminal => ?_⟩
      obtain ⟨same, going⟩ := sound.current pid token existing written here
      rw [same, going] at terminal
      contradiction
    · contradiction
  | readLock pid failed =>
    simp only [perform] at stepped
    split at stepped
    · rename_i token here
      have held : (system.phase pid).held = some token := by rw [here]; rfl
      have own := held_token (sound.informed pid) held
      cases stepped
      split
      · exact ⟨sound.inside held rfl own fun _ _ _ same => by contradiction, spares_of_lock rfl,
          keepsTerminal_of_record rfl⟩
      · exact ⟨sound.outside trivial rfl, spares_of_lock rfl, keepsTerminal_of_record rfl⟩
    · contradiction
  | unlink pid failed =>
    simp only [perform] at stepped
    split at stepped
    · rename_i token here
      have held : (system.phase pid).held = some token := by rw [here]; rfl
      cases stepped
      split
      · exact ⟨sound.outside trivial rfl, spares_of_lock rfl, keepsTerminal_of_record rfl⟩
      · refine ⟨sound.unlock trivial rfl fun other different => sound.alone held different,
          fun current found _ _ => ?_, keepsTerminal_of_record rfl⟩
        rw [(sound.owned pid token held).1] at found
        cases found
        exact held_token (sound.informed pid) held
    · contradiction
  | die pid =>
    cases stepped
    exact ⟨sound.die, spares_of_lock rfl, keepsTerminal_of_record rfl⟩

structure Resting (system : RecordLock) : Prop where
  idle : ∀ pid, system.phase pid = .idle
  positive : ∀ pid, system.alive pid = true → 0 < pid

theorem Resting.sound (resting : system.Resting) : system.Sound where
  owned pid token held := by
    rw [resting.idle] at held
    contradiction
  informed pid := by
    rw [resting.idle]
    trivial
  positive := resting.positive
  current pid token existing written here := by
    rw [resting.idle] at here
    contradiction

/-- In every state of a run whose reclaims move no file that changed hands, one
process at most holds the lock, and every further such step spares the lock
files of live holders and leaves a terminal record. -/
theorem recordLock_exclusive {start : RecordLock} {actions : List LockAction}
    (resting : start.Resting) (run : Run RecordLock.step Unclaimed start actions system) :
    system.Exclusive ∧ ∀ action next, system.Unclaimed action →
      system.step action = some next → Spares system action next ∧ KeepsTerminal system next := by
  have sound : system.Sound :=
    run.invariant (fun sound met stepped => (sound.step met stepped).1) resting.sound
  exact ⟨sound.exclusive, fun action next met stepped => (sound.step met stepped).2⟩

def sampleExecution : RepairExecution where
  executionId := js "ex-1"
  kind := .source_fix
  state := .running
  chainId := js "chain-1"
  parentRunId := js "ck-repair-1"
  inputSha := none
  contractVersion := 1
  deadlineAtMs := 0
  pids := [7]
  startedAtMs := none
  endedAtMs := none
  consumedSourceFix := true
  result := none

def deadHolder : RecordLock where
  lock := some ⟨1, js "0000000000000001"⟩
  record := some sampleExecution
  alive pid := 1 < pid
  phase _ := .idle

theorem deadHolder_resting : deadHolder.Resting :=
  ⟨fun _ => rfl, fun _ living => Nat.lt_of_succ_lt (of_decide_eq_true living)⟩

/-- A contender reclaims the lock of the dead, writes the record and releases. -/
def oneReclaim : List LockAction :=
  [.acquire 2 (js "0000000000000002"), .link 2, .probe 2 false, .reclaim 2 false, .link 2,
    .decide 2 fun _ => some { sampleExecution with state := .completed }, .write 2,
    .readLock 2 false, .unlink 2 false]

theorem recordLock_exclusive_reclaim :
    ∃ system, execute (guarded RecordLock.step Unclaimed) deadHolder oneReclaim = some system ∧
      system.lock = none ∧ system.record.map (·.state) = some .completed ∧ system.Exclusive ∧
      ∀ action next, system.Unclaimed action → system.step action = some next →
        Spares system action next ∧ KeepsTerminal system next := by
  have ended : (execute (guarded RecordLock.step Unclaimed) deadHolder oneReclaim).map
      (fun system => (system.lock, system.record.map (·.state))) =
        some (none, some .completed) := by decide
  obtain ⟨system, ran, found⟩ := Option.map_eq_some_iff.mp ended
  obtain ⟨lock, record⟩ := Prod.mk.inj found
  exact ⟨system, ran, lock, record,
    recordLock_exclusive deadHolder_resting (execute_guarded ran)⟩

/-- Both contenders read the dead holder's token; one reclaims and enters. -/
def twoReclaims : List LockAction :=
  [.acquire 2 (js "0000000000000002"), .link 2, .probe 2 false,
    .acquire 3 (js "0000000000000003"), .link 3, .probe 3 false, .reclaim 3 false, .link 3]

theorem recordLock_two_reclaims :
    ∃ middle taken final,
      Run RecordLock.step anyStep deadHolder twoReclaims middle ∧
      middle.step (.reclaim 2 false) = some taken ∧ ¬ Spares middle (.reclaim 2 false) taken ∧
      taken.step (.link 2) = some final ∧ ¬ final.Exclusive := by
  have reached : ∃ middle, execute RecordLock.step deadHolder twoReclaims = some middle ∧
      middle.lock = some ⟨3, js "0000000000000003"⟩ ∧
      middle.holderAlive ⟨3, js "0000000000000003"⟩ = true ∧
      ∃ taken, middle.step (.reclaim 2 false) = some taken ∧ taken.lock = none ∧
      ∃ final, taken.step (.link 2) = some final ∧
        (final.phase 2).held.isSome = true ∧ (final.phase 3).held.isSome = true :=
    ⟨_, rfl, by decide, by decide, _, rfl, by decide, _, rfl, by decide, by decide⟩
  obtain ⟨middle, ran, lock, living, taken, removed, gone, final, linked, second, third⟩ := reached
  refine ⟨middle, taken, final, execute_run ran fun _ _ _ => trivial, removed, fun spares => ?_,
    linked, fun exclusive => ?_⟩
  · have own := spares _ lock living (by rw [gone]; nofun)
    exact absurd own (by decide)
  · exact absurd (exclusive 2 3 second third) (by decide)

end RecordLock

end CouncilKit.Repair
