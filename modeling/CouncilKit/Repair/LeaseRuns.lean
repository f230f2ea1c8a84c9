import CouncilKit.Repair.Lease

namespace CouncilKit.Repair

open Data Option Function

/-! The file primitives exclude some orders only: between the read and the replace
or unlink of one process the file may have changed, and a second process of the
same run takes the lease over from the first.  Without these two the lease
excludes every other run.
-/

namespace LeasePhase

def Informed (branch : Branch) (alive : LeaseProcess → Bool) (process : LeaseProcess) :
    LeasePhase → Prop
  | .replacing .acquire seen next =>
    next.pid = process ∧ next.holderRunId = branch.runOf process ∧
      (seen.holderRunId = branch.runOf process ∧ next.epoch = seen.epoch ∨
        seen.holderRunId ≠ branch.runOf process ∧ alive seen.pid = false ∧
          seen.epoch < next.epoch)
  | .replacing .update seen next =>
    seen.holderRunId = branch.runOf process ∧ next.pid = seen.pid ∧
      next.holderRunId = seen.holderRunId ∧ next.epoch = seen.epoch
  | .checking seen | .unlinking seen => seen.holderRunId = branch.runOf process
  | _ => True

end LeasePhase

namespace LeaseSystem

variable {branch : Branch} {system next : LeaseSystem} {process : LeaseProcess}
  {phase : LeasePhase} {action : LeaseAction}

/-- A live process that was granted the lease is the one the file names. -/
structure Sound (branch : Branch) (system : LeaseSystem) : Prop where
  owned : ∀ process, system.granted process = true → system.alive process = true →
    ∃ lease, system.file = some lease ∧ lease.pid = process ∧ lease.holderRunId = branch.runOf process
  informed : ∀ process, (system.phase process).Informed branch system.alive process

def Exclusive (branch : Branch) (system : LeaseSystem) : Prop :=
  ∀ first second, system.granted first = true → system.alive first = true →
    system.granted second = true → system.alive second = true →
    branch.runOf first = branch.runOf second

/-- A lease passes to another run only under a greater epoch, and an update or a
release touches only the lease of its own run. -/
structure Safe (branch : Branch) (system : LeaseSystem) (action : LeaseAction)
    (next : LeaseSystem) : Prop where
  raises : ∀ old new, system.file = some old → next.file = some new →
    old.holderRunId ≠ new.holderRunId → old.epoch < new.epoch
  updates : ∀ process seen written old, action = .replace process →
    system.phase process = .replacing .update seen written → system.file = some old →
    old.holderRunId = branch.runOf process
  releases : ∀ process old, action = .unlink process → system.file = some old →
    old.holderRunId = branch.runOf process

def Current (system : LeaseSystem) (seen : WriterLease) : Prop :=
  ∀ lease, system.file = some lease →
    lease.pid = seen.pid ∧ lease.holderRunId = seen.holderRunId ∧ lease.epoch = seen.epoch

/-- A replace or an unlink finds the lease its process read, and a run whose
lease names another live process of its own does not acquire again. -/
def Undisturbed (branch : Branch) (system : LeaseSystem) : LeaseAction → Prop
  | .replace process => ∀ purpose seen written,
      system.phase process = .replacing purpose seen written →
      system.Current seen ∧
        (purpose = .acquire → seen.holderRunId = branch.runOf process →
          seen.pid = process ∨ system.alive seen.pid = false)
  | .unlink process => ∀ seen, system.phase process = .unlinking seen → system.Current seen
  | _ => True

theorem Sound.exclusive (sound : Sound branch system) : Exclusive branch system := by
  intro first second firstGranted firstAlive secondGranted secondAlive
  obtain ⟨lease, found, -, firstRun⟩ := sound.owned first firstGranted firstAlive
  obtain ⟨other, otherFound, -, secondRun⟩ := sound.owned second secondGranted secondAlive
  rw [found, some.injEq] at otherFound
  rw [← firstRun, ← secondRun, otherFound]

@[simp] theorem phase_goto_self : (system.goto process phase).phase process = phase := by
  simp [goto]

theorem phase_goto_other {other : LeaseProcess} (different : other ≠ process) :
    (system.goto process phase).phase other = system.phase other := by
  simp [goto, different]

section

variable (sound : Sound branch system) (informed : phase.Informed branch system.alive process)

include sound informed

theorem informed_goto (other : LeaseProcess) :
    ((system.goto process phase).phase other).Informed branch system.alive other := by
  by_cases same : other = process
  · subst same
    rwa [phase_goto_self]
  · rw [phase_goto_other same]
    exact sound.informed other

theorem Sound.goto : Sound branch (system.goto process phase) :=
  ⟨sound.owned, informed_goto sound informed⟩

end

theorem informed_die {alive : LeaseProcess → Bool} {dead other : LeaseProcess}
    (informed : phase.Informed branch alive other) :
    phase.Informed branch (update alive dead false) other := by
  have stays : ∀ pid, alive pid = false → update alive dead false pid = false := by
    intro pid gone
    by_cases same : pid = dead
    · simp [same]
    · rwa [update_of_ne same]
  cases phase with
  | replacing purpose seen written =>
    cases purpose with
    | acquire =>
      obtain ⟨pid, run, own | ⟨other, gone, raised⟩⟩ := informed
      · exact ⟨pid, run, .inl own⟩
      · exact ⟨pid, run, .inr ⟨other, stays _ gone, raised⟩⟩
    | update => exact informed
  | checking => exact informed
  | unlinking => exact informed
  | idle => trivial
  | reading => trivial
  | creating => trivial
  | rereading => trivial
  | deciding => trivial
  | updating => trivial
  | releasing => trivial

theorem informed_readFile {before : LeasePhase}
    (read : system.readFile branch process before = some phase) :
    phase.Informed branch system.alive process := by
  cases before with
  | reading request =>
    obtain rfl := some.inj read
    split
    · trivial
    · split <;> trivial
  | rereading request =>
    obtain rfl := some.inj read
    split
    · trivial
    · split <;> trivial
  | updating pids =>
    obtain rfl := some.inj read
    split
    · trivial
    · split
      · rename_i own
        exact ⟨own.2, rfl, rfl, rfl⟩
      · trivial
  | releasing =>
    obtain rfl := some.inj read
    split
    · trivial
    · split
      · rename_i own
        exact own.2
      · trivial
  | idle => contradiction
  | creating => contradiction
  | deciding => contradiction
  | replacing => contradiction
  | checking => contradiction
  | unlinking => contradiction

variable {seen written : WriterLease} {request : AcquireRequest}

theorem informed_takeExisting {settled : Bool}
    (taken : system.takeExisting branch process seen request settled = some written) :
    (LeasePhase.replacing .acquire seen written).Informed branch system.alive process := by
  simp only [takeExisting] at taken
  split at taken
  · rename_i own
    cases taken
    exact ⟨rfl, own, .inl ⟨own, rfl⟩⟩
  · rename_i other
    split at taken
    · contradiction
    · rename_i dead
      split at taken
      · contradiction
      · cases taken
        simp only [Bool.or_eq_true, not_or, Bool.not_eq_true] at dead
        exact ⟨rfl, rfl, .inr ⟨other, dead.1, Nat.lt_succ_self _⟩⟩

theorem informed_idle : LeasePhase.Informed branch system.alive process .idle := trivial

section

variable (sound : Sound branch system)

include sound

theorem Sound.grant {lease : WriterLease} (pid : lease.pid = process)
    (run : lease.holderRunId = branch.runOf process)
    (alone : ∀ other, system.granted other = true → system.alive other = true → other = process) :
    Sound branch { system.goto process .idle with
      file := some lease
      granted := update system.granted process true } := by
  refine ⟨fun other granted alive => ?_, informed_goto sound informed_idle⟩
  by_cases same : other = process
  · subst same
    exact ⟨lease, rfl, pid, run⟩
  · change update system.granted process true other = true at granted
    rw [update_of_ne same] at granted
    exact absurd (alone other granted alive) same

theorem Sound.create (absent : system.file = none) : Sound branch { system.goto process .idle with
      file := some (requested branch process request)
      granted := update system.granted process true } := by
  refine sound.grant rfl rfl fun other granted alive => ?_
  obtain ⟨lease, found, -⟩ := sound.owned other granted alive
  rw [absent] at found
  contradiction

theorem Sound.replace {purpose : ReplacePurpose}
    (here : system.phase process = .replacing purpose seen written) (current : system.Current seen)
    (alone : purpose = .acquire → seen.holderRunId = branch.runOf process → seen.pid = process ∨ system.alive seen.pid = false) :
    Sound branch { system.goto process .idle with
      file := some written
      granted := if purpose = .acquire then update system.granted process true
        else system.granted } ∧
    ∀ old, system.file = some old → (old.holderRunId ≠ written.holderRunId → old.epoch < written.epoch) ∧
      (purpose = .update → old.holderRunId = branch.runOf process) := by
  have informed := sound.informed process
  rw [here] at informed
  have holder : ∀ other, system.granted other = true → system.alive other = true → seen.pid = other := by
    intro other granted alive
    obtain ⟨lease, present, pid, -⟩ := sound.owned other granted alive
    exact (current lease present).1.symm.trans pid
  cases purpose with
  | acquire =>
    obtain ⟨pid, run, ownership⟩ := informed
    refine ⟨sound.grant pid run fun other granted alive => ?_, fun old present => ⟨fun passed => ?_, nofun⟩⟩
    · have named := holder other granted alive
      have gone : seen.pid = process ∨ system.alive seen.pid = false := by
        rcases ownership with ⟨own, -⟩ | ⟨-, dead, -⟩
        · exact alone rfl own
        · exact .inr dead
      rcases gone with self | dead
      · exact named.symm.trans self
      · rw [named, alive] at dead
        contradiction
    · obtain ⟨-, holderRun, epoch⟩ := current old present
      rcases ownership with ⟨own, -⟩ | ⟨-, -, raised⟩
      · exact absurd (holderRun.trans (own.trans run.symm)) passed
      · exact epoch ▸ raised
  | update =>
    obtain ⟨own, pid, run, epoch⟩ := informed
    refine ⟨⟨fun other granted alive => ?_, informed_goto sound informed_idle⟩, fun old present => ?_⟩
    · obtain ⟨lease, present, named, leaseRun⟩ := sound.owned other granted alive
      obtain ⟨samePid, sameRun, -⟩ := current lease present
      exact ⟨written, rfl, pid.trans (samePid.symm.trans named), run.trans (sameRun.symm.trans leaseRun)⟩
    · obtain ⟨-, sameRun, -⟩ := current old present
      exact ⟨fun passed => absurd (sameRun.trans run.symm) passed, fun _ => sameRun.trans own⟩

theorem Sound.unlink {seen : WriterLease} (here : system.phase process = .unlinking seen)
    (current : system.Current seen) :
    Sound branch ((system.goto process .idle).releaseRun branch process) ∧
      ∀ old, system.file = some old → old.holderRunId = branch.runOf process := by
  have own := sound.informed process
  rw [here] at own
  have ownFile : ∀ old, system.file = some old → old.holderRunId = branch.runOf process :=
    fun old present => (current old present).2.1.trans own
  refine ⟨⟨fun other granted alive => ?_, informed_goto sound informed_idle⟩, ownFile⟩
  simp only [releaseRun, Bool.and_eq_true, decide_eq_true_eq] at granted
  obtain ⟨lease, present, -, run⟩ := sound.owned other granted.1 alive
  exact absurd (run.symm.trans (ownFile lease present)) granted.2

end

theorem Safe.of_file (same : next.file = system.file)
    (other : ∀ process, action ≠ .replace process ∧ action ≠ .unlink process) :
    Safe branch system action next := by
  refine ⟨fun old new found later passed => ?_, fun process _ _ _ isReplace => ?_,
    fun process _ isUnlink => ?_⟩
  · rw [same, found, some.injEq] at later
    exact absurd (congrArg WriterLease.holderRunId later) passed
  · exact absurd isReplace (other process).1
  · exact absurd isUnlink (other process).2

theorem Sound.step (sound : Sound branch system) (undisturbed : Undisturbed branch system action)
    (stepped : system.step branch action = some next) :
    Sound branch next ∧ Safe branch system action next := by
  simp only [LeaseSystem.step] at stepped
  split at stepped
  case isFalse => contradiction
  cases action with
  | acquire process request =>
    simp only [perform] at stepped
    split at stepped
    · cases stepped
      exact ⟨sound.goto trivial, .of_file rfl (by simp)⟩
    · contradiction
  | update process writerPids =>
    simp only [perform] at stepped
    split at stepped
    · cases stepped
      split
      · exact ⟨sound, .of_file rfl (by simp)⟩
      · exact ⟨sound.goto trivial, .of_file rfl (by simp)⟩
    · contradiction
  | release process =>
    simp only [perform] at stepped
    split at stepped
    · cases stepped
      exact ⟨sound.goto trivial, .of_file rfl (by simp)⟩
    · contradiction
  | read process =>
    simp only [perform, map_eq_some_iff] at stepped
    obtain ⟨phase, read, rfl⟩ := stepped
    exact ⟨sound.goto (informed_readFile read), .of_file rfl (by simp)⟩
  | create process =>
    simp only [perform] at stepped
    split at stepped
    · cases stepped
      cases absent : system.file with
      | none =>
        refine ⟨sound.create absent, fun old new found => ?_, by simp, by simp⟩
        rw [absent] at found
        contradiction
      | some lease => exact ⟨sound.goto trivial, .of_file rfl (by simp)⟩
    · contradiction
  | decide process settled =>
    simp only [perform] at stepped
    split at stepped
    · cases stepped
      split
      · rename_i taken
        exact ⟨sound.goto (informed_takeExisting taken), .of_file rfl (by simp)⟩
      · exact ⟨sound.goto trivial, .of_file rfl (by simp)⟩
    · rename_i seen here
      have own := sound.informed process
      rw [here] at own
      cases stepped
      split
      · exact ⟨sound.goto trivial, .of_file rfl (by simp)⟩
      · exact ⟨sound.goto own, .of_file rfl (by simp)⟩
    · contradiction
  | replace process =>
    simp only [perform] at stepped
    split at stepped
    · rename_i purpose seen written here
      cases stepped
      obtain ⟨current, alone⟩ := undisturbed purpose seen written here
      obtain ⟨kept, overwrites⟩ := sound.replace here current alone
      refine ⟨kept, fun old new present later => ?_, fun other _ _ old same updating present => ?_,
        by simp⟩
      · rw [← some.inj later]
        exact (overwrites old present).1
      · cases same
        rw [here, LeasePhase.replacing.injEq] at updating
        exact (overwrites old present).2 updating.1
    · contradiction
  | unlink process =>
    simp only [perform] at stepped
    split at stepped
    · rename_i seen here
      obtain ⟨kept, own⟩ := sound.unlink here (undisturbed seen here)
      cases stepped
      cases present : system.file with
      | none =>
        refine ⟨sound.goto trivial, fun old new found => ?_, by simp, fun other old _ found => ?_⟩
        · rw [present] at found
          contradiction
        · rw [present] at found
          contradiction
      | some lease =>
        refine ⟨kept, fun old new _ later => by contradiction, by simp, fun other old same => ?_⟩
        cases same
        exact own old
    · contradiction
  | die process =>
    cases stepped
    refine ⟨⟨fun other granted alive => ?_, fun other => ?_⟩, .of_file rfl (by simp)⟩
    · change update system.alive process false other = true at alive
      by_cases same : other = process
      · simp [same] at alive
      · rw [update_of_ne same] at alive
        exact sound.owned other granted alive
    · exact informed_die (informed_goto sound informed_idle other)

structure Resting (system : LeaseSystem) : Prop where
  idle : ∀ process, system.phase process = .idle
  ungranted : ∀ process, system.granted process = false

theorem Resting.sound (resting : system.Resting) : Sound branch system := by
  refine ⟨fun process granted => ?_, fun process => ?_⟩
  · rw [resting.ungranted] at granted
    contradiction
  · rw [resting.idle]
    trivial

def sampleRequest : AcquireRequest where
  holderKind := .repair
  grantedAt := js "2026-01-01T00:01:00.000Z"

end LeaseSystem

end CouncilKit.Repair
