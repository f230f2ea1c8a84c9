import CouncilKit.Host.SupervisedDrivers

namespace CouncilKit.Host

open Data List Option Bool Function
open DriverRecord

namespace DriverRecord

variable {record before after : DriverRecord}

def live (record : DriverRecord) : Bool := record.supervised && !record.driverSettled

theorem hasReleased_eq (sound : record.Sound record.watchdogHandled) :
    record.hasReleased = (record.driverSettled || record.watchdogHandled) := sound.released

section

variable (kept : Keeps before after) (sound : before.Sound before.watchdogHandled)

include kept sound

theorem Keeps.soundness : after.Sound after.watchdogHandled := by
  rw [kept.watchdogHandled]
  exact kept.sound sound

theorem Keeps.releases (released : before.hasReleased = true) : after.hasReleased = true := by
  rw [hasReleased_eq sound] at released
  rw [hasReleased_eq (kept.soundness sound), kept.watchdogHandled]
  cases settled : before.driverSettled with
  | true => rw [kept.settled settled, Bool.true_or]
  | false =>
    rw [settled, Bool.false_or] at released
    rw [released, Bool.or_true]

end

def Ended (record : DriverRecord) : Prop :=
  record.watchdogHandled → record.supervised → record.driverSettled

theorem Keeps.ended (kept : Keeps before after) (ended : before.Ended) : after.Ended := by
  intro handled supervised
  rw [kept.watchdogHandled] at handled
  rw [kept.supervised handled] at supervised
  exact kept.settled (ended handled supervised)

end DriverRecord

namespace ProcessSupervisor

variable {supervisor next : ProcessSupervisor} {place : Nat} {record old : DriverRecord} {event : Event}

structure Owned (supervisor : ProcessSupervisor) : Prop where
  sound : ∀ record ∈ supervisor.records, record.Sound record.watchdogHandled
  owner : ∀ {place : Nat} {record : DriverRecord}, supervisor.records[place]? = some record →
    record.hasReleased = false → supervisor.byParticipant record.participantId = some place

theorem mem_put {other : DriverRecord} (member : other ∈ (supervisor.put place record).records) :
    other = record ∨ other ∈ supervisor.records := by
  rw [put] at member
  exact (mem_or_eq_of_mem_set member).symm

section

variable (owned : supervisor.Owned) (found : supervisor.records[place]? = some old)

include owned found

theorem owned_put (named : record.participantId = old.participantId)
    (sound : record.Sound record.watchdogHandled)
    (releases : old.hasReleased = true → record.hasReleased = true) :
    (supervisor.put place record).Owned := by
  constructor
  · intro other member
    cases mem_put member with
    | inl isNew => rw [isNew]; exact sound
    | inr isOld => exact owned.sound other isOld
  · intro index other stands unreleased
    by_cases same : index = place
    · subst same
      have isNew : other = record := by
        have bound : index < supervisor.records.length := (List.getElem?_eq_some_iff.mp found).1
        simp only [put, List.getElem?_set_self bound, some_inj] at stands
        exact stands.symm
      subst isNew
      have held : old.hasReleased = false := by
        apply eq_false_of_ne_true
        intro released
        rw [releases released] at unreleased
        contradiction
      rw [put, unreleased, Bool.false_and, if_neg Bool.false_ne_true, named]
      exact owned.owner found held
    · rw [put, List.getElem?_set_ne (Ne.symm same)] at stands
      have owns := owned.owner stands unreleased
      rw [put]
      split
      · rename_i given
        simp only [and_eq_true, decide_eq_true_eq] at given
        have apart : other.participantId ≠ record.participantId := by
          intro shared
          rw [shared, given.2, some_inj] at owns
          exact same owns.symm
        exact (update_of_ne apart _ _).trans owns
      · exact owns

theorem owned_put_keeps (kept : Keeps old record) : (supervisor.put place record).Owned := by
  have sound := owned.sound old (mem_of_getElem? found)
  exact owned_put owned found kept.participantId (kept.soundness sound) (kept.releases sound)

theorem owned_put_exited (open_ : old.watchdogHandled = false) (exited : Exited old record) :
    (supervisor.put place record).Owned := by
  have sound := owned.sound old (mem_of_getElem? found)
  rw [open_] at sound
  have soundly : record.Sound record.watchdogHandled := by
    rw [exited.watchdogHandled]
    exact exited.sound sound
  refine owned_put owned found exited.participantId soundly fun _ => ?_
  rw [hasReleased_eq soundly, exited.watchdogHandled, Bool.or_true]

end

variable {ensured : Except RuntimeError Unit} {env : List (JsString × JsString)}

theorem spawnDriver_ok {spec : DriverSpawnSpec}
    {piped : Bool}
    (spawned : supervisor.spawnDriver spec env ensured piped = .ok next) :
    (∀ place old, supervisor.byParticipant spec.participantId = some place →
      supervisor.records[place]? = some old → old.driverSettled = true) ∧
    ∃ record, Keeps { participantId := spec.participantId } record ∧
      next.records = supervisor.records ++ [record] ∧
      next.byParticipant = update supervisor.byParticipant spec.participantId
        (some supervisor.records.length) := by
  simp only [spawnDriver, bind, Except.bind] at spawned
  split at spawned
  · contradiction
  · split at spawned
    · contradiction
    · split at spawned
      · contradiction
      · rename_i free
        split at spawned
        · contradiction
        · cases spawned
          refine ⟨?_, _, keeps_sendControl _, rfl, rfl⟩
          intro place old holds stands
          rw [holds, bind_some, stands] at free
          simpa using free

theorem owned_spawnDriver (owned : supervisor.Owned) {spec : DriverSpawnSpec}
    {piped : Bool}
    (spawned : supervisor.spawnDriver spec env ensured piped = .ok next) : next.Owned := by
  obtain ⟨free, record, kept, records, slots⟩ := spawnDriver_ok spawned
  have fresh : (⟨spec.participantId, none, none, false, false, none, false, false, none, [], false,
      [], 0, 0, 0, true, []⟩ : DriverRecord).Sound false := ⟨rfl, nofun, rfl⟩
  have sound : record.Sound record.watchdogHandled := kept.soundness fresh
  constructor
  · intro other member
    rw [records, mem_append, mem_singleton] at member
    cases member with
    | inl isOld => exact owned.sound other isOld
    | inr isNew => rw [isNew]; exact sound
  · intro place other stands unreleased
    rw [records] at stands
    rw [slots]
    by_cases isOld : place < supervisor.records.length
    · rw [List.getElem?_append_left isOld] at stands
      have owns := owned.owner stands unreleased
      have apart : other.participantId ≠ spec.participantId := by
        intro shared
        rw [shared] at owns
        rw [hasReleased_eq (owned.sound other (mem_of_getElem? stands)),
          free place other owns stands] at unreleased
        contradiction
      rw [update_of_ne apart, owns]
    · rw [List.getElem?_append_right (by omega), List.getElem?_singleton] at stands
      split at stands
      · cases stands
        rw [kept.participantId, update_self]
        congr 1
        omega
      · contradiction

theorem shutdownAll_keeps {holds : ProcessSupervisor → Prop} (graceMs : Int)
    (keep : ∀ {supervisor place record}, holds supervisor → supervisor.records[place]? = some record →
      holds (supervisor.put place (record.shutdownRecord graceMs)))
    (base : holds supervisor) : holds (supervisor.shutdownAll graceMs) := by
  rw [shutdownAll]
  generalize List.range supervisor.records.length = places
  induction places generalizing supervisor with
  | nil => exact base
  | cons place rest ih =>
    rw [foldl_cons]
    apply ih
    split
    · rename_i found
      split
      · exact keep base found
      · exact base
    · exact base

theorem owned_step (owned : supervisor.Owned) (stepped : supervisor.step event = some next) :
    next.Owned := by
  cases event with
  | spawnDriver spec env ensured piped =>
    rw [step] at stepped
    split at stepped
    · rename_i spawned
      cases stepped
      exact owned_spawnDriver owned spawned
    · cases stepped
      exact owned
  | driver place action =>
    simp only [step, Option.bind_eq_bind, Option.bind_eq_some_iff, Option.pure_def,
      Option.some_inj] at stepped
    obtain ⟨old, found, record, acted, rfl⟩ := stepped
    cases driverStep_cases acted with
    | inl exits => exact owned_put_exited owned found exits.2.1 exits.2.2
    | inr keeps => exact owned_put_keeps owned found keeps.1
  | shutdownAll graceMs =>
    cases stepped
    exact shutdownAll_keeps graceMs (fun owned found =>
      owned_put_keeps owned found (keeps_shutdownRecord graceMs)) owned

/-- No driver exits twice, no participant has two live drivers, and a supervised
driver whose watchdog is gone is settled, on the watchdog's word or by a kill. -/
structure Accounted (supervisor : ProcessSupervisor) : Prop where
  exitOnce : ∀ record ∈ supervisor.records, record.trace.countP Act.isExit ≤ 1
  oneLive : ∀ {place other : Nat} {first second : DriverRecord},
    supervisor.records[place]? = some first → supervisor.records[other]? = some second →
    first.live → second.live → first.participantId = second.participantId → place = other
  ended : ∀ record ∈ supervisor.records, record.watchdogHandled → record.supervised →
    record.driverSettled ∧ (record.trace.any Act.killsGroup ∨ record.trace.any Act.reportsExit)

def AllEnded (supervisor : ProcessSupervisor) : Prop := ∀ record ∈ supervisor.records, record.Ended

theorem accounted_of_ended (owned : supervisor.Owned) (ended : supervisor.AllEnded) :
    supervisor.Accounted := by
  constructor
  · intro record member
    rw [(owned.sound record member).exits]
    cases record.driverSettled <;> decide
  · intro place other first second firstStands secondStands firstLive secondLive shared
    have holds {place : Nat} {record : DriverRecord}
        (stands : supervisor.records[place]? = some record) (live : record.live) :
        supervisor.byParticipant record.participantId = some place := by
      have member := mem_of_getElem? stands
      simp only [DriverRecord.live, and_eq_true, not_eq_true'] at live
      have open_ : record.watchdogHandled = false := by
        apply eq_false_of_ne_true
        intro handled
        rw [ended record member handled live.1] at live
        exact absurd live.2 (by decide)
      apply owned.owner stands
      rw [hasReleased_eq (owned.sound record member), live.2, open_, Bool.or_self]
    have firstHolds := holds firstStands firstLive
    rw [shared, holds secondStands secondLive, some_inj] at firstHolds
    exact firstHolds.symm
  · intro record member handled supervised
    have settled := ended record member handled supervised
    refine ⟨settled, ?_⟩
    obtain ⟨act, acted, decided⟩ := any_eq_true.mp ((owned.sound record member).ended settled)
    rw [or_eq_true] at decided
    cases decided with
    | inl kills => exact .inl (any_eq_true.mpr ⟨act, acted, kills⟩)
    | inr reports => exact .inr (any_eq_true.mpr ⟨act, acted, reports⟩)

/-- A watchdog that exits while its driver is supervised and not known dead leaves
a known group, and either no teardown was under way or a shutdown waits for it. -/
def LosesNoDriver (supervisor : ProcessSupervisor) : Event → Prop
  | .driver place action => DriverStep.isExit action = true →
      ∀ record, supervisor.records[place]? = some record → record.watchdogHandled = false →
        record.supervised → record.driverSettled = false → record.Recoverable
  | _ => True

theorem allEnded_put (ended : supervisor.AllEnded) (now : record.Ended) :
    (supervisor.put place record).AllEnded := by
  intro other member
  cases mem_put member with
  | inl isNew => rw [isNew]; exact now
  | inr isOld => exact ended other isOld

theorem allEnded_step (ended : supervisor.AllEnded) (safe : supervisor.LosesNoDriver event)
    (stepped : supervisor.step event = some next) : next.AllEnded := by
  cases event with
  | spawnDriver spec env ensured piped =>
    rw [step] at stepped
    split at stepped
    · rename_i spawned
      cases stepped
      obtain ⟨-, record, kept, records, -⟩ := spawnDriver_ok spawned
      intro other member
      rw [records, mem_append, mem_singleton] at member
      cases member with
      | inl isOld => exact ended other isOld
      | inr isNew => rw [isNew]; exact kept.ended nofun
    · cases stepped
      exact ended
  | driver place action =>
    simp only [step, Option.bind_eq_bind, Option.bind_eq_some_iff, Option.pure_def,
      Option.some_inj] at stepped
    obtain ⟨old, found, record, acted, rfl⟩ := stepped
    apply allEnded_put ended
    cases driverStep_cases acted with
    | inl exits =>
      obtain ⟨isExit, open_, exited⟩ := exits
      intro _ supervised
      rw [exited.supervised] at supervised
      rw [exited.settled]
      cases settled : old.driverSettled with
      | true => exact .inl rfl
      | false => exact .inr (safe isExit old found open_ supervised settled)
    | inr keeps => exact keeps.1.ended (ended old (mem_of_getElem? found))
  | shutdownAll graceMs =>
    cases stepped
    refine shutdownAll_keeps graceMs (fun ended found => ?_) ended
    exact allEnded_put ended ((keeps_shutdownRecord graceMs).ended (ended _ (mem_of_getElem? found)))

theorem losesNoDriver_of_accounted (stepped : supervisor.step event = some next)
    (accounted : next.Accounted) : supervisor.LosesNoDriver event := by
  cases event with
  | spawnDriver spec env ensured piped => trivial
  | shutdownAll graceMs => trivial
  | driver place action =>
    intro isExit old found open_ supervised unsettled
    simp only [step, found, bind_eq_bind, bind_some, bind_eq_some_iff,
      Option.pure_def, Option.some_inj] at stepped
    obtain ⟨record, acted, rfl⟩ := stepped
    cases driverStep_cases acted with
    | inl exits =>
      have exited := exits.2.2
      have member : record ∈ (supervisor.put place record).records := by
        have bound : place < supervisor.records.length := (List.getElem?_eq_some_iff.mp found).1
        exact mem_of_getElem? (List.getElem?_set_self bound)
      have settled := (accounted.ended record member exited.watchdogHandled
        (by rw [exited.supervised]; exact supervised)).1
      cases exited.settled.mp settled with
      | inl already => rw [unsettled] at already; contradiction
      | inr recoverable => exact recoverable
    | inr keeps =>
      rw [keeps.2 isExit] at open_
      contradiction

/-- The supervisor accounts for every driver in all the states of a run exactly when
no watchdog's exit loses one. -/
theorem drivers_accounted {events : List Event} {final : ProcessSupervisor}
    (run : Run step anyStep {} events final) :
    (∀ early late reached, events = early ++ late → Run step anyStep {} early reached →
      reached.Accounted) ↔ Run step LosesNoDriver {} events final := by
  have fresh : ({} : ProcessSupervisor).Owned ∧ ({} : ProcessSupervisor).AllEnded := by
    refine ⟨⟨fun _ member => absurd member not_mem_nil, nofun⟩, ?_⟩
    exact fun _ member => absurd member not_mem_nil
  constructor
  · exact run.meets_of_reached losesNoDriver_of_accounted
  · intro safely early late reached split part
    subst split
    have owned : reached.Owned :=
      (safely.first part).invariant (fun owned _ stepped => owned_step owned stepped) fresh.1
    have ended : reached.AllEnded :=
      (safely.first part).invariant (fun ended safe stepped => allEnded_step ended safe stepped) fresh.2
    exact accounted_of_ended owned ended

instance (record : DriverRecord) : Decidable record.Recoverable :=
  inferInstanceAs (Decidable (_ ∧ _))

instance : ∀ (supervisor : ProcessSupervisor) (event : Event),
    Decidable (supervisor.LosesNoDriver event)
  | _, .spawnDriver _ _ _ _ => isTrue trivial
  | _, .shutdownAll _ => isTrue trivial
  | supervisor, .driver place action =>
    match found : supervisor.records[place]? with
    | none => isTrue fun _ record stands => by
      rw [found] at stands
      contradiction
    | some old =>
      decidable_of_iff (DriverStep.isExit action = true → old.watchdogHandled = false →
        old.supervised = true → old.driverSettled = false → old.Recoverable) <| by
        constructor
        · intro safe isExit record stands
          rw [found, some_inj] at stands
          exact stands ▸ safe isExit
        · intro safe isExit
          exact safe isExit old found

def exampleSpec : DriverSpawnSpec where
  participantId := js "reviewer"
  executable := js "/usr/local/bin/driver"
  argv := []
  cwd := js "/work/reviewer"

def supervisedFrame : List UInt8 :=
  Utf8.ascii "\x7b\"type\":\"supervised\",\"pid\":7,\"pgid\":7\x7d\n"

def crashRun : List Event :=
  [.spawnDriver exampleSpec [] (.ok ()) true, .driver 0 (.controlChunk supervisedFrame),
    .driver 0 (.watchdogExit none (some (js "SIGKILL")))]

/-- The same crash after a `kill`. -/
def killedRun : List Event :=
  [.spawnDriver exampleSpec [] (.ok ()) true, .driver 0 (.controlChunk supervisedFrame),
    .driver 0 (.kill .SIGTERM none), .driver 0 (.watchdogExit none (some (js "SIGKILL")))]

theorem crash_accounted : ∃ final, Run step anyStep {} crashRun final ∧
    ∀ early late reached, crashRun = early ++ late → Run step anyStep {} early reached →
      reached.Accounted := by
  have defined : (execute (guarded step LosesNoDriver) {} crashRun).isSome = true := by
    decide +kernel
  obtain ⟨final, ended⟩ := isSome_iff_exists.mp defined
  have safely := execute_guarded ended
  exact ⟨final, safely.any, (drivers_accounted safely.any).mpr safely⟩

/-- The expected exit is not looked into: the driver is never settled and its group
never killed, and its participant may start another one. -/
theorem killed_driver_orphaned : ¬ ∀ events final, Run step anyStep {} events final → final.Accounted := by
  intro accounts
  have orphaned : ((execute step {} killedRun).bind (·.records[0]?)).map (fun record =>
      (record.watchdogHandled, record.supervised, record.driverSettled)) = some (true, true, false) := by
    decide +kernel
  obtain ⟨record, reached, flags⟩ := map_eq_some_iff.mp orphaned
  obtain ⟨final, ended, stands⟩ := bind_eq_some_iff.mp reached
  simp only [Prod.mk.injEq] at flags
  obtain ⟨handled, supervised, unsettled⟩ := flags
  have killed : Run step anyStep {} killedRun final := execute_run ended fun _ _ _ => trivial
  have accounted := accounts killedRun final killed
  have settled := (accounted.ended record (mem_of_getElem? stands) handled supervised).1
  exact absurd (unsettled.symm.trans settled) false_ne_true

end ProcessSupervisor

end CouncilKit.Host
