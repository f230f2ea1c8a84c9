import CouncilKit.Auto.Runner

namespace CouncilKit.Auto

open Data JsString List Worker Function Option Nat Bool

namespace AttemptResult

def Of (result : AttemptResult) (spec : AttemptSpec) : Prop :=
  result.attemptId = spec.attemptId ∧ result.agentId = spec.agentId ∧
    result.agentName = spec.agentName ∧ result.driverId = spec.driverId ∧
    result.modelId = spec.modelId ∧ result.workspace = spec.cwd

/-- A non-zero `EXIT` under 120 s that is not marked non-retryable. -/
def Transient (result : AttemptResult) : Prop :=
  ∃ failure code, result.failure = some failure ∧ failure.code = js "EXIT" ∧
    failure.retryable ≠ some false ∧ result.exitCode = .number code ∧ code ≠ 0 ∧
    result.durationMs < 120000

end AttemptResult

theorem shouldRetry_transient {result : AttemptResult} {aborted : Bool}
    (retries : shouldRetry result aborted = true) : aborted = false ∧ result.Transient := by
  cases aborted with
  | true => cases retries
  | false =>
    refine ⟨rfl, ?_⟩
    cases failed : result.failure with
    | none => simp [shouldRetry, failed] at retries
    | some failure =>
      cases exits : result.exitCode with
      | killed | null => simp [shouldRetry, failed, exits] at retries
      | number code =>
        simp only [shouldRetry, failed, exits, false_eq_true, if_false] at retries
        split at retries
        · cases retries
        · rename_i retryable
          split at retries
          · cases retries
          · rename_i exit
            simp only [and_eq_true, decide_eq_true_eq] at retries
            exact ⟨failure, code, failed, not_not.mp exit, retryable, exits, retries.1,
              retries.2⟩

theorem shouldRetry_refused {result : AttemptResult} {failure : AttemptFailure}
    (failed : result.failure = some failure) (refused : failure.retryable = some false)
    (aborted : Bool) : shouldRetry result aborted = false := by
  cases aborted <;> simp [shouldRetry, failed, refused]

namespace RunnerEvent

def index? : RunnerEvent → Option Nat
  | .start index | .spawn index _ | .exited index _ | .finish index _ | .rebuild index => some index
  | .abort | .threw => none

def begins : RunnerEvent → Bool
  | .start _ | .spawn .. => true
  | .abort | .exited .. | .finish .. | .rebuild _ | .threw => false

def spawned (index : Nat) : RunnerEvent → Option Try
  | .spawn other attempt => if other = index then some attempt else none
  | _ => none

/-- The `attemptNumber` that `onAttemptFinish` was told. -/
def told (index : Nat) : RunnerEvent → Option (Option Nat)
  | .finish other result => if other = index then some result.attemptNumber else none
  | _ => none

end RunnerEvent

section

variable (index : Nat) (log events : List RunnerEvent)

def spawnsOf : List Try := log.filterMap (·.spawned index)

/-- The calls of `onAttemptFinish` for a spec. -/
def numbersOf : List (Option Nat) := log.filterMap (·.told index)

@[simp] theorem spawnsOf_append :
    spawnsOf index (log ++ events) = spawnsOf index log ++ spawnsOf index events :=
  filterMap_append

@[simp] theorem numbersOf_append :
    numbersOf index (log ++ events) = numbersOf index log ++ numbersOf index events :=
  filterMap_append

@[simp] theorem spawnsOf_nil : spawnsOf index [] = [] := rfl

@[simp] theorem numbersOf_nil : numbersOf index [] = [] := rfl

@[simp] theorem spawnsOf_cons (event : RunnerEvent) :
    spawnsOf index (event :: events) = (event.spawned index).toList ++ spawnsOf index events := by
  cases spawns : event.spawned index <;> simp [spawnsOf, spawns]

@[simp] theorem numbersOf_cons (event : RunnerEvent) :
    numbersOf index (event :: events) = (event.told index).toList ++ numbersOf index events := by
  cases tells : event.told index <;> simp [numbersOf, tells]

end

section

variable {index other : Nat} {log events : List RunnerEvent}

def Elsewhere (index : Nat) (events : List RunnerEvent) : Prop :=
  ∀ event ∈ events, event.index? ≠ some index

theorem Elsewhere.spawns (elsewhere : Elsewhere index events) : spawnsOf index events = [] := by
  rw [spawnsOf, filterMap_eq_nil_iff]
  intro event member
  have apart := elsewhere event member
  cases event <;> simp_all [RunnerEvent.index?, RunnerEvent.spawned]

theorem Elsewhere.numbers (elsewhere : Elsewhere index events) : numbersOf index events = [] := by
  rw [numbersOf, filterMap_eq_nil_iff]
  intro event member
  have apart := elsewhere event member
  cases event <;> simp_all [RunnerEvent.index?, RunnerEvent.told]

theorem elsewhere_none : Elsewhere index [] := by
  intro event member
  cases member

theorem mem_spawnsOf {attempt : Try} : attempt ∈ spawnsOf index log ↔ .spawn index attempt ∈ log := by
  simp only [spawnsOf, mem_filterMap]
  constructor
  · intro found
    obtain ⟨event, member, same⟩ := found
    cases event <;> simp_all [RunnerEvent.spawned]
  · intro member
    exact ⟨_, member, by simp [RunnerEvent.spawned]⟩

/-- An attempt that is over: every execution was told once, and an attempt that never
had a subprocess once as well. -/
def Over (index : Nat) (log : List RunnerEvent) : Prop :=
  (spawnsOf index log = [] ∧ (numbersOf index log).length = 1) ∨
    (spawnsOf index log = [.first] ∧
      (numbersOf index log = [some 1] ∨ numbersOf index log = [some 1, some 2])) ∨
    (spawnsOf index log = [.first, .second] ∧ numbersOf index log = [some 1, some 2])

/-- The first execution is told, is to be tried again, and the rebuild has begun. -/
def Rebuilt (index : Nat) (first : AttemptResult) (log : List RunnerEvent) : Prop :=
  .finish index first ∈ log ∧ .rebuild index ∈ log ∧ first.attemptNumber = some 1 ∧ first.Transient

theorem Rebuilt.grows {first : AttemptResult} (rebuilt : Rebuilt index first log) :
    Rebuilt index first (log ++ events) :=
  ⟨mem_append_left _ rebuilt.1, mem_append_left _ rebuilt.2.1, rebuilt.2.2⟩

end

namespace Worker

def Told (log : List RunnerEvent) : Worker → Prop
  | .running index .first => spawnsOf index log = [.first] ∧ numbersOf index log = []
  | .running index .second => spawnsOf index log = [.first, .second] ∧ numbersOf index log = [some 1]
  | .settled index .first result => numbersOf index log = [] ∧ (spawnsOf index log = [.first] ∨
      (spawnsOf index log = [] ∧ ∀ aborted, shouldRetry result aborted = false))
  | .settled index .second _ => numbersOf index log = [some 1] ∧
      (spawnsOf index log = [.first] ∨ spawnsOf index log = [.first, .second])
  | .rebuilding index first | .retrying index first => spawnsOf index log = [.first] ∧
      numbersOf index log = [some 1] ∧ Rebuilt index first log
  | .returning index _ => Over index log
  | .fresh | .failing | .rejected | .ended => True

def Bears (specs : List AttemptSpec) : Worker → Prop
  | .running index _ => index < specs.length
  | .settled index _ result | .rebuilding index result | .retrying index result
  | .returning index result => ∃ spec, specs[index]? = some spec ∧ result.Of spec
  | .fresh | .failing | .rejected | .ended => True

variable {place : Worker} {index : Nat} {log events : List RunnerEvent}

theorem Told.grows (told : place.Told log)
    (elsewhere : ∀ index, place.index? = some index → Elsewhere index events) :
    place.Told (log ++ events) := by
  cases here : place.index? with
  | none => cases place <;> simp [index?] at here <;> trivial
  | some index =>
    have apart := elsewhere index here
    have spawns : spawnsOf index (log ++ events) = spawnsOf index log := by
      rw [spawnsOf_append, apart.spawns, List.append_nil]
    have numbers : numbersOf index (log ++ events) = numbersOf index log := by
      rw [numbersOf_append, apart.numbers, List.append_nil]
    cases place with
    | fresh | failing | rejected | ended => trivial
    | running other attempt | settled other attempt =>
      cases here
      cases attempt <;> simpa only [Told, spawns, numbers] using told
    | returning other =>
      cases here
      simpa only [Told, Over, spawns, numbers] using told
    | rebuilding other | retrying other =>
      cases here
      simp only [Told, spawns, numbers] at told ⊢
      exact ⟨told.1, told.2.1, told.2.2.grows⟩

end Worker

structure Orderly (log : List RunnerEvent) : Prop where
  retried : ∀ before after index, log = before ++ .spawn index .second :: after →
    .abort ∉ before ∧ .spawn index .first ∈ before ∧ ∃ first, Rebuilt index first before
  stopped : ∀ before after, log = before ++ .threw :: after → ∀ event ∈ after, event.begins = false

theorem Orderly.snoc {log : List RunnerEvent} {event : RunnerEvent} (orderly : Orderly log)
    (begins : event.begins = true → .threw ∉ log)
    (second : ∀ index, event = .spawn index .second →
      .abort ∉ log ∧ .spawn index .first ∈ log ∧ ∃ first, Rebuilt index first log) :
    Orderly (log ++ [event]) := by
  constructor
  case retried =>
    intro before after index split
    rcases eq_nil_or_concat after with nothing | ⟨kept, last, more⟩
    · rw [nothing] at split
      obtain ⟨same, here⟩ := append_inj' split rfl
      rw [← same]
      exact second index (singleton_inj.mp here)
    · rw [more, concat_eq_append, ← cons_append, ← append_assoc] at split
      exact orderly.retried before kept index (append_inj' split rfl).1
  case stopped =>
    intro before after split
    rcases eq_nil_or_concat after with nothing | ⟨kept, last, more⟩
    · intro other member
      rw [nothing] at member
      cases member
    · rw [more, concat_eq_append, ← cons_append, ← append_assoc] at split
      obtain ⟨earlier, here⟩ := append_inj' split rfl
      have same := singleton_inj.mp here
      intro other member
      rw [more, concat_eq_append, mem_append, mem_singleton] at member
      rcases member with before_ | final
      · exact orderly.stopped before kept earlier other before_
      · rw [final, ← same]
        cases starts : event.begins with
        | false => rfl
        | true =>
          have absent := begins starts
          rw [earlier] at absent
          exact absurd (mem_append_right _ mem_cons_self) absent

theorem Orderly.silent {log events : List RunnerEvent} (orderly : Orderly log)
    (silent : ∀ event ∈ events, event.begins = false) : Orderly (log ++ events) := by
  induction events generalizing log with
  | nil => rwa [List.append_nil]
  | cons event rest ih =>
    have quiet := silent event mem_cons_self
    have first : Orderly (log ++ [event]) := by
      apply orderly.snoc
      · intro begins
        rw [quiet] at begins
        cases begins
      · intro index same
        rw [same] at quiet
        cases quiet
    have both := ih first fun other member => silent other (mem_cons_of_mem _ member)
    rwa [append_assoc] at both

theorem silent_spawns {index : Nat} {events : List RunnerEvent}
    (silent : ∀ event ∈ events, event.begins = false) : spawnsOf index events = [] := by
  rw [spawnsOf, filterMap_eq_nil_iff]
  intro event member
  have quiet := silent event member
  cases event <;> simp [RunnerEvent.begins] at quiet <;> rfl

namespace Pool

structure Pooling (pool : Pool) : Prop where
  held : ∀ worker index, (pool.workers worker).index? = some index →
    index < pool.cursor ∧ pool.results index = none
  apart : ∀ worker other index, (pool.workers worker).index? = some index →
    (pool.workers other).index? = some index → worker = other
  told : ∀ worker, (pool.workers worker).Told pool.log
  bears : ∀ worker, (pool.workers worker).Bears pool.input.specs
  unclaimed : ∀ index, pool.cursor ≤ index → spawnsOf index pool.log = [] ∧
    numbersOf index pool.log = [] ∧ pool.results index = none
  stored : ∀ index result, pool.results index = some result → Over index pool.log ∧
    ∃ spec, pool.input.specs[index]? = some spec ∧ result.Of spec
  claimed : ∀ index < pool.cursor, index < pool.input.specs.length →
    pool.results index ≠ none ∨ ∃ worker < pool.input.workerCount,
      (pool.workers worker).index? = some index ∨ pool.workers worker = .failing ∨
        pool.workers worker = .rejected

structure Filling (pool : Pool) (next : Nat) : Prop where
  stored : ∀ index result, pool.results index = some result → Over index pool.log ∧
    ∃ spec, pool.input.specs[index]? = some spec ∧ result.Of spec
  missing : ∀ index < pool.input.specs.length, pool.results index = none →
    spawnsOf index pool.log = [] ∧ numbersOf index pool.log = []
  filled : ∀ index < next, index < pool.input.specs.length → pool.results index ≠ none

def Booked (pool : Pool) : Prop :=
  match pool.stage with
  | .pooling => pool.Pooling
  | .filling next => pool.Filling next
  | .returned => pool.Filling pool.input.specs.length
  | .rejected => True

def Waits (pool : Pool) : Prop :=
  ∀ index attempt, .spawn index attempt ∈ pool.log → .exited index attempt ∈ pool.log ∨
    (pool.stage = .pooling ∧
      ∃ worker < pool.input.workerCount, pool.workers worker = .running index attempt)

def Stops (pool : Pool) : Prop :=
  .threw ∈ pool.log → pool.aborted = true ∨ pool.stage ≠ .pooling ∨
    ∃ worker < pool.input.workerCount, pool.workers worker = .failing

structure Kept (pool : Pool) : Prop where
  booked : pool.Booked
  twice : ∀ index, (spawnsOf index pool.log).Sublist [.first, .second]
  orderly : Orderly pool.log
  aborts : .abort ∈ pool.log → pool.aborted = true
  waits : pool.Waits
  stops : pool.Stops

variable {pool next : Pool} {worker index : Nat} {place : Worker} {events : List RunnerEvent}

/-- A step of one worker: it goes to a place, and the log gets events. -/
structure Moves (pool : Pool) (worker : Nat) (place : Worker) (events : List RunnerEvent)
    (next : Pool) : Prop where
  input : next.input = pool.input
  stage : next.stage = pool.stage
  aborted : next.aborted = (pool.aborted || decide (.abort ∈ events))
  workers : next.workers = update pool.workers worker place
  log : next.log = pool.log ++ events

theorem Moves.here (moves : Moves pool worker place events next) : next.workers worker = place := by
  rw [moves.workers, update_self]

theorem Moves.there (moves : Moves pool worker place events next) {other : Nat}
    (apart : other ≠ worker) : next.workers other = pool.workers other := by
  rw [moves.workers, update_of_ne apart]

theorem Pooling.goes (pooling : pool.Pooling) (moves : Moves pool worker place events next)
    (inside : worker < pool.input.workerCount) (cursor : pool.cursor ≤ next.cursor)
    (own : ∀ index, place.index? = some index → index < next.cursor ∧ next.results index = none ∧
      ((pool.workers worker).index? = some index ∨ pool.cursor ≤ index))
    (elsewhere : ∀ index, (pool.workers worker).index? ≠ some index → Elsewhere index events)
    (results : ∀ index result, next.results index = some result →
      pool.results index = some result ∨ (pool.workers worker).index? = some index ∧
        Over index next.log ∧ ∃ spec, pool.input.specs[index]? = some spec ∧ result.Of spec)
    (stays : ∀ index, pool.results index ≠ none → next.results index ≠ none)
    (told : place.Told next.log) (bears : place.Bears pool.input.specs)
    (claimed : ∀ index < next.cursor, index < pool.input.specs.length →
      (pool.cursor ≤ index ∨ (pool.workers worker).index? = some index ∨
        pool.workers worker = .failing ∨ pool.workers worker = .rejected) →
      next.results index ≠ none ∨ place.index? = some index ∨ place = .failing ∨ place = .rejected) :
    next.Pooling := by
  -- Of a spec that this worker does not hold, nothing is logged and no result comes in.
  have same : ∀ index, (pool.workers worker).index? ≠ some index →
      spawnsOf index next.log = spawnsOf index pool.log ∧
      numbersOf index next.log = numbersOf index pool.log := by
    intro index apart
    have silent := elsewhere index apart
    rw [moves.log, spawnsOf_append, numbersOf_append, silent.spawns, silent.numbers,
      List.append_nil, List.append_nil]
    exact ⟨rfl, rfl⟩
  have missing : ∀ index, (pool.workers worker).index? ≠ some index →
      pool.results index = none → next.results index = none := by
    intro index apart empty
    cases found : next.results index with
    | none => rfl
    | some result =>
      rcases results index result found with earlier | ⟨mine, -⟩
      · rw [empty] at earlier
        cases earlier
      · exact absurd mine apart
  have apart_ : ∀ other index, other ≠ worker → (pool.workers other).index? = some index →
      (pool.workers worker).index? ≠ some index :=
    fun other index mine found also => mine (pooling.apart other worker index found also)
  constructor
  case held =>
    intro other index found
    by_cases mine : other = worker
    · rw [mine, moves.here] at found
      exact ⟨(own index found).1, (own index found).2.1⟩
    · rw [moves.there mine] at found
      obtain ⟨below, empty⟩ := pooling.held other index found
      exact ⟨by omega, missing index (apart_ other index mine found) empty⟩
  case apart =>
    have new : ∀ other index, other ≠ worker → (pool.workers other).index? = some index →
        place.index? ≠ some index := by
      intro other index mine found taken
      rcases (own index taken).2.2 with also | later
      · exact apart_ other index mine found also
      · exact absurd (pooling.held other index found).1 (not_lt.mpr later)
    intro first second index found also
    by_cases mine : first = worker
    · by_cases yours : second = worker
      · rw [mine, yours]
      · rw [mine, moves.here] at found
        rw [moves.there yours] at also
        exact absurd found (new second index yours also)
    · rw [moves.there mine] at found
      by_cases yours : second = worker
      · rw [yours, moves.here] at also
        exact absurd also (new first index mine found)
      · rw [moves.there yours] at also
        exact pooling.apart first second index found also
  case told =>
    intro other
    by_cases mine : other = worker
    · rw [mine, moves.here]
      exact told
    · rw [moves.there mine, moves.log]
      apply (pooling.told other).grows
      intro index found
      exact elsewhere index (apart_ other index mine found)
  case bears =>
    intro other
    rw [moves.input]
    by_cases mine : other = worker
    · rw [mine, moves.here]
      exact bears
    · rw [moves.there mine]
      exact pooling.bears other
  case unclaimed =>
    intro index later
    obtain ⟨spawns, numbers, empty⟩ := pooling.unclaimed index (cursor.trans later)
    have apart : (pool.workers worker).index? ≠ some index := fun mine =>
      absurd (pooling.held worker index mine).1 (not_lt.mpr (cursor.trans later))
    rw [(same index apart).1, (same index apart).2]
    exact ⟨spawns, numbers, missing index apart empty⟩
  case stored =>
    intro index result found
    rw [moves.input]
    rcases results index result found with earlier | ⟨-, ended, carries⟩
    · have apart : (pool.workers worker).index? ≠ some index := by
        intro mine
        rw [(pooling.held worker index mine).2] at earlier
        cases earlier
      rw [Over, (same index apart).1, (same index apart).2]
      exact pooling.stored index result earlier
    · exact ⟨ended, carries⟩
  case claimed =>
    intro index below bound
    rw [moves.input] at bound ⊢
    have here (mine : pool.cursor ≤ index ∨ (pool.workers worker).index? = some index ∨
        pool.workers worker = .failing ∨ pool.workers worker = .rejected) :
        next.results index ≠ none ∨ ∃ holder < pool.input.workerCount,
          (next.workers holder).index? = some index ∨ next.workers holder = .failing ∨
            next.workers holder = .rejected := by
      rcases claimed index below bound mine with stored | what
      · exact .inl stored
      · exact .inr ⟨worker, inside, by rwa [moves.here]⟩
    by_cases later : pool.cursor ≤ index
    · exact here (.inl later)
    · rcases pooling.claimed index (by omega) bound with stored | ⟨holder, within, what⟩
      · exact .inl (stays index stored)
      · by_cases mine : holder = worker
        · rw [mine] at what
          exact here (.inr what)
        · right
          refine ⟨holder, within, ?_⟩
          rw [moves.there mine]
          exact what

def advance (pool : Pool) (worker : Nat) (place : Worker) (events : List RunnerEvent) : Pool :=
  { pool with
    aborted := pool.aborted || decide (.abort ∈ events)
    workers := update pool.workers worker place
    log := pool.log ++ events }

theorem advance_moves : Moves pool worker place events (pool.advance worker place events) :=
  ⟨rfl, rfl, rfl, rfl, rfl⟩

/-- What a worker's step with the spec it holds does to the log. -/
structure Advances (pool : Pool) (worker index : Nat) (place : Worker) (events : List RunnerEvent) :
    Prop where
  keeps : place.index? = some index ∨ place = .failing
  elsewhere : ∀ other, other ≠ index → Elsewhere other events
  told : place.Told (pool.log ++ events)
  bears : place.Bears pool.input.specs
  twice : (spawnsOf index (pool.log ++ events)).Sublist [.first, .second]
  orderly : Orderly (pool.log ++ events)
  ran : ∀ attempt, pool.workers worker = .running index attempt → .exited index attempt ∈ events
  runs : ∀ attempt, .spawn index attempt ∈ events → place = .running index attempt
  fails : .threw ∈ events → place = .failing

section

variable (kept : pool.Kept) (here : pool.stage = .pooling)

include kept here

theorem Kept.pooling : pool.Pooling := by
  have booked := kept.booked
  simp only [Booked, here] at booked
  exact booked

theorem Kept.moved (moves : Moves pool worker place events next)
    (inside : worker < pool.input.workerCount) (pooling : next.Pooling)
    (twice : ∀ index, (spawnsOf index next.log).Sublist [.first, .second])
    (orderly : Orderly next.log)
    (ran : ∀ index attempt, pool.workers worker = .running index attempt → .exited index attempt ∈ events)
    (runs : ∀ index attempt, .spawn index attempt ∈ events → place = .running index attempt)
    (fails : .threw ∈ events → place = .failing)
    (calm : pool.workers worker = .failing → .abort ∈ events) : next.Kept := by
  have stage : next.stage = .pooling := moves.stage.trans here
  constructor
  case booked =>
    simp only [Booked, stage]
    exact pooling
  case twice => exact twice
  case orderly => exact orderly
  case aborts =>
    intro aborted
    rw [moves.aborted, or_eq_true, decide_eq_true_eq]
    rw [moves.log] at aborted
    rcases mem_append.mp aborted with earlier | now
    · exact .inl (kept.aborts earlier)
    · exact .inr now
  case waits =>
    intro index attempt spawned
    rw [moves.log] at spawned ⊢
    rcases mem_append.mp spawned with earlier | now
    · rcases kept.waits index attempt earlier with exited | ⟨-, holder, within, runs_⟩
      · exact .inl (mem_append_left _ exited)
      · by_cases mine : holder = worker
        · rw [mine] at runs_
          exact .inl (mem_append_right _ (ran index attempt runs_))
        · right
          refine ⟨stage, holder, moves.input ▸ within, ?_⟩
          rw [moves.there mine]
          exact runs_
    · right
      refine ⟨stage, worker, moves.input ▸ inside, ?_⟩
      rw [moves.here]
      exact runs index attempt now
  case stops =>
    intro threw
    rw [moves.aborted, or_eq_true, decide_eq_true_eq]
    rw [moves.log] at threw
    rcases mem_append.mp threw with earlier | now
    · rcases kept.stops earlier with aborted | late | ⟨holder, within, failing⟩
      · exact .inl (.inl aborted)
      · exact absurd here late
      · by_cases mine : holder = worker
        · rw [mine] at failing
          exact .inl (.inr (calm failing))
        · right
          right
          refine ⟨holder, moves.input ▸ within, ?_⟩
          rw [moves.there mine]
          exact failing
    · right
      right
      refine ⟨worker, moves.input ▸ inside, ?_⟩
      rw [moves.here]
      exact fails now

theorem Kept.advance (inside : worker < pool.input.workerCount)
    (holds : (pool.workers worker).index? = some index)
    (advances : Advances pool worker index place events) :
    (pool.advance worker place events).Kept := by
  have moves : Moves pool worker place events (pool.advance worker place events) := advance_moves
  have keeps : ∀ other, place.index? = some other → other = index := by
    intro other taken
    rcases advances.keeps with same | lost
    · rw [same] at taken
      exact (some.inj taken).symm
    · rw [lost] at taken
      cases taken
  have pooling : (pool.advance worker place events).Pooling := by
    apply (kept.pooling here).goes moves inside (le_refl _)
    case own =>
      intro other taken
      rw [keeps other taken]
      obtain ⟨below, empty⟩ := (kept.pooling here).held worker index holds
      exact ⟨below, empty, .inl holds⟩
    case elsewhere =>
      intro other apart
      exact advances.elsewhere other fun same => apart (same ▸ holds)
    case results => exact fun _ _ found => .inl found
    case stays => exact fun _ stored => stored
    case told => exact advances.told
    case bears => exact advances.bears
    case claimed =>
      intro other below bound mine
      right
      rcases mine with later | found | failing | rejected
      · exact absurd below (not_lt.mpr later)
      · rw [holds] at found
        rcases advances.keeps with same | lost
        · exact .inl (same.trans found)
        · exact .inr (.inl lost)
      · rw [failing] at holds
        cases holds
      · rw [rejected] at holds
        cases holds
  apply kept.moved here moves inside pooling
  case twice =>
    intro other
    by_cases same : other = index
    · rw [same]
      exact advances.twice
    · rw [moves.log, spawnsOf_append, (advances.elsewhere other same).spawns, List.append_nil]
      exact kept.twice other
  case orderly => exact advances.orderly
  case ran =>
    intro other attempt running
    have same : other = index := by
      rw [running] at holds
      exact some.inj holds
    rw [same] at running ⊢
    exact advances.ran attempt running
  case runs =>
    intro other attempt spawned
    have same : other = index := by
      by_contra apart
      exact advances.elsewhere other apart _ spawned rfl
    rw [same] at spawned ⊢
    exact advances.runs attempt spawned
  case fails => exact advances.fails
  case calm =>
    intro failing
    rw [failing] at holds
    cases holds

theorem Kept.unthrown (running : pool.aborted = false) (caught : pool.aborted = true ∨
    ∀ worker < pool.input.workerCount, pool.workers worker ≠ .failing) : .threw ∉ pool.log := by
  intro threw
  rcases caught with aborted | calm
  · rw [running] at aborted
    cases aborted
  · rcases kept.stops threw with aborted | late | ⟨worker, within, failing⟩
    · rw [running] at aborted
      cases aborted
    · exact late here
    · exact calm worker within failing

end

theorem Kept.unaborted (kept : pool.Kept) (running : pool.aborted = false) : .abort ∉ pool.log := by
  intro aborted
  rw [kept.aborts aborted] at running
  cases running

inductive Begun (spec : AttemptSpec) (aborted : Bool) (index : Nat) (attempt : Try) :
    Worker → List RunnerEvent → Prop where
  | threw : Begun spec aborted index attempt .failing [.threw]
  | refused (result : AttemptResult) (bears : result.Of spec)
      (final : ∀ aborted, shouldRetry result aborted = false) :
      Begun spec aborted index attempt (.settled index attempt result) []
  | running (running : aborted = false) :
      Begun spec aborted index attempt (.running index attempt) [.spawn index attempt]

theorem goto_advance : pool.goto worker place = pool.advance worker place [] := by
  simp [goto, advance]

theorem throws_advance : pool.throws worker place = pool.advance worker place [.threw] := by
  simp [throws, append, goto, advance]

theorem beginTry_begun (pool : Pool) (worker index : Nat) (spec : AttemptSpec) (attempt : Try) (begun : TryStart) :
    ∃ place events, Begun spec pool.aborted index attempt place events ∧
      pool.beginTry worker index spec attempt begun = pool.advance worker place events := by
  cases begun with
  | threw => exact ⟨_, _, .threw, throws_advance⟩
  | drift message =>
    exact ⟨_, _, .refused (spec.driftAttempt message) ⟨rfl, rfl, rfl, rfl, rfl, rfl⟩
      (shouldRetry_refused rfl rfl), goto_advance⟩
  | launched elapsedMs =>
    cases aborted : pool.aborted with
    | true =>
      refine ⟨_, _, .refused (spec.abortedAttempt elapsedMs) ⟨rfl, rfl, rfl, rfl, rfl, rfl⟩
        (shouldRetry_refused rfl rfl), ?_⟩
      simp only [beginTry, aborted, if_true]
      exact goto_advance
    | false =>
      refine ⟨_, _, .running rfl, ?_⟩
      simp [beginTry, aborted, append, goto, advance]

theorem elsewhere_nil : ∀ other, other ≠ index → Elsewhere other [] := fun _ _ => elsewhere_none

theorem elsewhere_cons {event : RunnerEvent} (about : event.index? = some index ∨ event.index? = none)
    (rest : ∀ other, other ≠ index → Elsewhere other events) :
    ∀ other, other ≠ index → Elsewhere other (event :: events) := by
  intro other apart here member
  rcases mem_cons.mp member with same | later
  · rw [same]
    rcases about with mine | none_
    · rw [mine]
      intro clash
      exact apart (some.inj clash).symm
    · rw [none_]
      simp
  · exact rest other apart here later

variable {spec : AttemptSpec}

section

variable (kept : pool.Kept) (here : pool.stage = .pooling)

include kept here

theorem Kept.holds (stands : pool.workers worker = place) :
    place.Told pool.log ∧ place.Bears pool.input.specs := by
  rw [← stands]
  exact ⟨(kept.pooling here).told worker, (kept.pooling here).bears worker⟩

theorem Kept.retries {first : AttemptResult} (waits : pool.workers worker = .retrying index first)
    (caught : pool.aborted = true ∨ ∀ worker < pool.input.workerCount, pool.workers worker ≠ .failing)
    (found : pool.input.specs[index]? = some spec)
    (begun : Begun spec pool.aborted index .second place events) :
    Advances pool worker index place events := by
  obtain ⟨spawns, numbers, rebuilt⟩ := (kept.holds here waits).1
  have bound : index < pool.input.specs.length := (List.getElem?_eq_some_iff.mp found).1
  have idle : ∀ attempt, pool.workers worker = .running index attempt → .exited index attempt ∈ events := by
    intro attempt running
    rw [waits] at running
    cases running
  cases begun with
  | threw =>
    exact ⟨.inr rfl, elsewhere_cons (.inr rfl) elsewhere_nil, trivial, trivial,
      by simp [spawns, RunnerEvent.spawned],
      kept.orderly.snoc (by simp [RunnerEvent.begins]) (by simp), idle, by simp, fun _ => rfl⟩
  | refused result bears final =>
    refine ⟨.inl rfl, elsewhere_nil, ?_, ⟨spec, found, bears⟩, ?_, ?_, idle, by simp, by simp⟩
    · rw [List.append_nil]
      exact ⟨numbers, .inl spawns⟩
    · rw [List.append_nil]
      exact kept.twice index
    · rw [List.append_nil]
      exact kept.orderly
  | running running =>
    have unthrown := kept.unthrown here running caught
    have both : spawnsOf index (pool.log ++ [.spawn index .second]) = [.first, .second] := by
      simp [spawns, RunnerEvent.spawned]
    refine ⟨.inl rfl, elsewhere_cons (.inl rfl) elsewhere_nil, ⟨both, ?_⟩, bound, ?_, ?_, idle,
      ?_, by simp⟩
    · simp [numbers, RunnerEvent.told]
    · rw [both]
    · apply kept.orderly.snoc fun _ => unthrown
      intro other same
      cases same
      have spawned : Try.first ∈ spawnsOf index pool.log := by simp [spawns]
      exact ⟨kept.unaborted running, mem_spawnsOf.mp spawned, first, rebuilt⟩
    · intro attempt same
      rw [mem_singleton] at same
      cases same
      rfl

theorem Kept.exits {attempt : Try} (runs : pool.workers worker = .running index attempt)
    (goes : (∃ result spec, place = .settled index attempt result ∧ pool.input.specs[index]? = some spec ∧ result.Of spec ∧ events = [.exited index attempt]) ∨ (place = .failing ∧ events = [.exited index attempt, .threw])) :
    Advances pool worker index place events := by
  have told := (kept.holds here runs).1
  have orderly : Orderly (pool.log ++ [.exited index attempt]) :=
    kept.orderly.snoc (by simp [RunnerEvent.begins]) (by simp)
  have ran : ∀ other, pool.workers worker = .running index other →
      RunnerEvent.exited index other = .exited index attempt := by
    intro other running
    rw [runs] at running
    cases running
    rfl
  rcases goes with ⟨result, spec, settled, found, bears, exited⟩ | ⟨failing, exited⟩
  · subst settled exited
    refine ⟨.inl rfl, elsewhere_cons (.inl rfl) elsewhere_nil, ?_, ⟨spec, found, bears⟩, ?_, orderly,
      ?_, by simp, by simp⟩
    · cases attempt with
      | first => simp [Told, told.1, told.2, RunnerEvent.spawned, RunnerEvent.told]
      | second => simp [Told, told.1, told.2, RunnerEvent.spawned, RunnerEvent.told]
    · simpa [RunnerEvent.spawned] using kept.twice index
    · intro other running
      exact mem_singleton.mpr (ran other running)
  · subst failing exited
    refine ⟨.inr rfl, elsewhere_cons (.inl rfl) (elsewhere_cons (.inr rfl) elsewhere_nil), trivial,
      trivial, ?_, ?_, ?_, by simp, fun _ => rfl⟩
    · simpa [RunnerEvent.spawned] using kept.twice index
    · have threw : Orderly (pool.log ++ [.exited index attempt] ++ [.threw]) :=
        orderly.snoc (by simp [RunnerEvent.begins]) (by simp)
      rwa [append_assoc] at threw
    · intro other running
      rw [ran other running]
      exact mem_cons_self

end

/-- The events of a callback: the abort it fires, and then what the worker does. -/
def answered (told : RunnerEvent) (aborts : Bool) (last : List RunnerEvent) : List RunnerEvent :=
  told :: ((if aborts then [.abort] else []) ++ last)

variable {result : AttemptResult} {aborts : Bool} {last : List RunnerEvent}

theorem Kept.finishes (kept : pool.Kept) (idle : ∀ attempt, pool.workers worker ≠ .running index attempt)
    (keeps : place.index? = some index ∨ place = .failing)
    (lasts : (last = [] ∧ place ≠ .failing) ∨ (last = [.threw] ∧ place = .failing) ∨
      (last = [.rebuild index] ∧ place ≠ .failing))
    (told : place.Told (pool.log ++ answered (.finish index result) aborts last))
    (bears : place.Bears pool.input.specs) :
    Advances pool worker index place (answered (.finish index result) aborts last) := by
  have ends : ∀ event ∈ last, event = .threw ∨ event = .rebuild index := by
    intro event member
    rcases lasts with ⟨none_, -⟩ | ⟨threw, -⟩ | ⟨rebuild, -⟩
    · rw [none_] at member
      cases member
    · rw [threw] at member
      exact .inl (mem_singleton.mp member)
    · rw [rebuild] at member
      exact .inr (mem_singleton.mp member)
  have cases_ : ∀ event ∈ answered (.finish index result) aborts last,
      event = .finish index result ∨ event = .abort ∨ event = .threw ∨ event = .rebuild index := by
    intro event member
    rcases mem_cons.mp member with same | more
    · exact .inl same
    · rcases mem_append.mp more with abort | ending
      · cases aborts with
        | false => cases abort
        | true => exact .inr (.inl (mem_singleton.mp abort))
      · exact .inr (.inr (ends event ending))
  have silent : ∀ event ∈ answered (.finish index result) aborts last, event.begins = false := by
    intro event member
    rcases cases_ event member with same | same | same | same <;> rw [same] <;> rfl
  constructor
  case keeps => exact keeps
  case elsewhere =>
    intro other apart event member
    rcases cases_ event member with same | same | same | same <;> rw [same] <;>
      simp [RunnerEvent.index?, Ne.symm apart]
  case told => exact told
  case bears => exact bears
  case twice =>
    rw [spawnsOf_append, silent_spawns silent, List.append_nil]
    exact kept.twice index
  case orderly => exact kept.orderly.silent silent
  case ran =>
    intro attempt running
    exact absurd running (idle attempt)
  case runs =>
    intro attempt spawned
    have quiet := silent _ spawned
    cases quiet
  case fails =>
    intro threw
    rcases mem_cons.mp threw with same | more
    · cases same
    · rcases mem_append.mp more with abort | ending
      · cases aborts <;> simp at abort
      · rcases lasts with ⟨none_, -⟩ | ⟨-, failing⟩ | ⟨rebuild, -⟩
        · rw [none_] at ending
          cases ending
        · exact failing
        · rw [rebuild] at ending
          cases mem_singleton.mp ending

theorem answered_spawns (ends : spawnsOf index last = []) :
    spawnsOf index (pool.log ++ answered (.finish index result) aborts last) = spawnsOf index pool.log := by
  cases aborts <;> simp [answered, RunnerEvent.spawned, ends]

theorem answered_numbers (ends : numbersOf index last = []) :
    numbersOf index (pool.log ++ answered (.finish index result) aborts last) =
      numbersOf index pool.log ++ [result.attemptNumber] := by
  cases aborts <;> simp [answered, RunnerEvent.told, ends]

theorem told_advance {event : RunnerEvent} (plain : event ≠ .abort) (ends : .abort ∉ last) :
    ((((pool.append [event]).abortIf aborts).append last).goto worker place) =
      pool.advance worker place (answered event aborts last) := by
  cases aborts <;> simp [append, abortIf, abort, goto, advance, answered, ends, plain.symm]

theorem append_nil : pool.append [] = pool := by
  simp [append]

section

variable (kept : pool.Kept) (here : pool.stage = .pooling)

include kept here

theorem finishFirst_advances (settled : pool.workers worker = .settled index .first result)
    (answer : CallbackAnswer) : ∃ place events, Advances pool worker index place events ∧
      pool.finishFirst worker index result answer = pool.advance worker place events := by
  obtain ⟨⟨numbers, spawns⟩, spec, found, carries⟩ := kept.holds here settled
  have idle : ∀ attempt, pool.workers worker ≠ .running index attempt := by
    intro attempt running
    rw [settled] at running
    cases running
  unfold finishFirst
  generalize firsts : ({ result with
    attemptNumber := some 1
    willRetry := shouldRetry result pool.aborted } : AttemptResult) = firstResult
  have numbered : firstResult.attemptNumber = some 1 := by
    rw [← firsts]
  have fields : firstResult.Of spec := by
    rw [← firsts]
    exact carries
  have decides : ∀ aborted, shouldRetry firstResult aborted = shouldRetry result aborted := by
    intro aborted
    rw [← firsts]
    rfl
  dsimp only
  split
  · refine ⟨.failing, answered (.finish index firstResult) answer.aborts [.threw], ?_,
      told_advance (by simp) (by simp)⟩
    exact kept.finishes idle (.inr rfl) (.inr (.inl ⟨rfl, rfl⟩)) trivial trivial
  · split
    · rename_i retries
      refine ⟨.rebuilding index firstResult,
        answered (.finish index firstResult) answer.aborts [.rebuild index], ?_,
        told_advance (by simp) (by simp)⟩
      have bears : (rebuilding index firstResult).Bears pool.input.specs :=
        ⟨spec, found, fields⟩
      apply kept.finishes idle (.inl rfl) (.inr (.inr ⟨rfl, by simp⟩)) _ bears
      have spawned : spawnsOf index pool.log = [.first] := by
        rcases spawns with spawned | ⟨-, final⟩
        · exact spawned
        · rw [decides, final] at retries
          cases retries
      refine ⟨?_, ?_, ?_, ?_, numbered, (shouldRetry_transient retries).2⟩
      · rw [answered_spawns (by simp [RunnerEvent.spawned]), spawned]
      · rw [answered_numbers (by simp [RunnerEvent.told]), numbers, numbered]
        rfl
      · simp [answered]
      · simp [answered]
    · refine ⟨.returning index firstResult, answered (.finish index firstResult) answer.aborts [], ?_, ?_⟩
      · have bears : (returning index firstResult).Bears pool.input.specs :=
          ⟨spec, found, fields⟩
        apply kept.finishes idle (.inl rfl) (.inl ⟨rfl, by simp⟩) _ bears
        have one : numbersOf index (pool.log ++
            answered (.finish index firstResult) answer.aborts []) = [some 1] := by
          rw [answered_numbers rfl, numbers, numbered]
          rfl
        rcases spawns with spawned | ⟨nothing, -⟩
        · exact .inr (.inl ⟨(answered_spawns rfl).trans spawned, .inl one⟩)
        · exact .inl ⟨(answered_spawns rfl).trans nothing, by rw [one]; rfl⟩
      · rw [← told_advance (by simp) (by simp), append_nil]

theorem finishSecond_advances (settled : pool.workers worker = .settled index .second result)
    (answer : CallbackAnswer) : ∃ place events, Advances pool worker index place events ∧
      pool.finishSecond worker index result answer = pool.advance worker place events := by
  obtain ⟨⟨numbers, spawns⟩, spec, found, carries⟩ := kept.holds here settled
  have idle : ∀ attempt, pool.workers worker ≠ .running index attempt := by
    intro attempt running
    rw [settled] at running
    cases running
  unfold finishSecond
  generalize seconds : ({ result with attemptNumber := some 2, retryOf := some 1 } : AttemptResult) =
    secondResult
  have numbered : secondResult.attemptNumber = some 2 := by
    rw [← seconds]
  have fields : secondResult.Of spec := by
    rw [← seconds]
    exact carries
  dsimp only
  split
  · refine ⟨.failing, answered (.finish index secondResult) answer.aborts [.threw], ?_,
      told_advance (by simp) (by simp)⟩
    exact kept.finishes idle (.inr rfl) (.inr (.inl ⟨rfl, rfl⟩)) trivial trivial
  · refine ⟨.returning index secondResult, answered (.finish index secondResult) answer.aborts [], ?_, ?_⟩
    · have bears : (returning index secondResult).Bears pool.input.specs :=
        ⟨spec, found, fields⟩
      apply kept.finishes idle (.inl rfl) (.inl ⟨rfl, by simp⟩) _ bears
      have both : numbersOf index (pool.log ++
          answered (.finish index secondResult) answer.aborts []) = [some 1, some 2] := by
        rw [answered_numbers rfl, numbers, numbered]
        rfl
      rcases spawns with spawned | spawned
      · exact .inr (.inl ⟨(answered_spawns rfl).trans spawned, .inr both⟩)
      · exact .inr (.inr ⟨(answered_spawns rfl).trans spawned, both⟩)
    · rw [← told_advance (by simp) (by simp), append_nil]

theorem rebuilt_advances {first : AttemptResult}
    (rebuilding : pool.workers worker = .rebuilding index first)
    (goes : (place = .failing ∧ events = [.threw]) ∨ (place = .returning index first ∧ events = []) ∨ (place = .retrying index first ∧ events = [])) :
    Advances pool worker index place events := by
  obtain ⟨⟨spawns, numbers, rebuilt⟩, bears⟩ := kept.holds here rebuilding
  have idle : ∀ attempt, pool.workers worker = .running index attempt → .exited index attempt ∈ events := by
    intro attempt running
    rw [rebuilding] at running
    cases running
  have twice := kept.twice index
  have orderly := kept.orderly
  rcases goes with ⟨place, events⟩ | ⟨place, events⟩ | ⟨place, events⟩
  · subst place events
    exact ⟨.inr rfl, elsewhere_cons (.inr rfl) elsewhere_nil, trivial, trivial,
      by simpa [RunnerEvent.spawned] using twice, orderly.silent (by simp [RunnerEvent.begins]),
      idle, by simp, fun _ => rfl⟩
  · subst place events
    rw [← List.append_nil pool.log] at spawns numbers twice orderly
    exact ⟨.inl rfl, elsewhere_nil, .inr (.inl ⟨spawns, .inl numbers⟩), bears, twice, orderly, idle,
      by simp, by simp⟩
  · subst place events
    rw [← List.append_nil pool.log] at spawns numbers rebuilt twice orderly
    exact ⟨.inl rfl, elsewhere_nil, ⟨spawns, numbers, rebuilt⟩, bears, twice, orderly, idle,
      by simp, by simp⟩

theorem Kept.stored (inside : worker < pool.input.workerCount)
    (returns : pool.workers worker = .returning index result) :
    ((pool.store index result).goto worker .fresh).Kept := by
  have moves : Moves pool worker .fresh [] ((pool.store index result).goto worker .fresh) :=
    ⟨rfl, rfl, by simp [goto, store], rfl, (List.append_nil _).symm⟩
  have pooling : ((pool.store index result).goto worker .fresh).Pooling := by
    apply (kept.pooling here).goes moves inside (le_refl _)
    case own => nofun
    case elsewhere => exact fun _ _ => elsewhere_none
    case results =>
      intro other found stored
      by_cases same : other = index
      · obtain ⟨told, bears⟩ := kept.holds here returns
        rw [returns]
        simp only [goto, store, same, update_self, some.injEq] at stored
        rw [same, ← stored]
        exact .inr ⟨rfl, told, bears⟩
      · simp only [goto, store, update_of_ne same] at stored
        exact .inl stored
    case stays =>
      intro other stored
      by_cases same : other = index
      · simp [goto, store, same]
      · simpa only [goto, store, update_of_ne same] using stored
    case told => trivial
    case bears => trivial
    case claimed =>
      intro other below bound mine
      rw [returns] at mine
      rcases mine with later | found | failing | rejected
      · exact absurd below (not_lt.mpr later)
      · cases found
        simp [goto, store]
      · cases failing
      · cases rejected
  exact kept.moved here moves inside pooling kept.twice kept.orderly
    (by simp [returns]) (by simp) (by simp) (by simp [returns])

theorem Kept.ends (inside : worker < pool.input.workerCount) (free : pool.workers worker = .fresh)
    {cursor : Nat} (later : pool.cursor ≤ cursor)
    (last : cursor = pool.cursor ∨ pool.input.specs.length ≤ pool.cursor) :
    (({ pool with cursor } : Pool).goto worker .ended).Kept := by
  have moves : Moves pool worker .ended [] (({ pool with cursor } : Pool).goto worker .ended) :=
    ⟨rfl, rfl, by simp [goto], rfl, (List.append_nil _).symm⟩
  have pooling : (({ pool with cursor } : Pool).goto worker .ended).Pooling := by
    apply (kept.pooling here).goes moves inside later
    case own => nofun
    case elsewhere => exact fun _ _ => elsewhere_none
    case results => exact fun _ _ found => .inl found
    case stays => exact fun _ stored => stored
    case told => trivial
    case bears => trivial
    case claimed =>
      intro index below bound mine
      have lower : index < cursor := below
      rw [free] at mine
      rcases mine with later | found | failing | rejected
      · omega
      · cases found
      · cases failing
      · cases rejected
  exact kept.moved here moves inside pooling kept.twice kept.orderly
    (by simp [free]) (by simp) (by simp) (by simp [free])

end

theorem started_advance :
    (((({ pool with cursor := pool.cursor + 1 } : Pool).append [.start index]).abortIf
      aborts).advance worker place events) = ({ pool with cursor := pool.cursor + 1 } : Pool).advance
        worker place (answered (.start index) aborts events) := by
  cases aborts <;> simp [append, abortIf, abort, advance, answered]

def claimed (pool : Pool) (worker : Nat) (spec : AttemptSpec) : Pool :=
  ({ pool with cursor := pool.cursor + 1 } : Pool).goto worker
    (.settled pool.cursor .first (spec.driftAttempt []))

theorem Kept.claimed (kept : pool.Kept) (here : pool.stage = .pooling)
    (inside : worker < pool.input.workerCount) (free : pool.workers worker = .fresh)
    (found : pool.input.specs[pool.cursor]? = some spec) :
    (pool.claimed worker spec).Kept := by
  have moves : Moves pool worker (.settled pool.cursor .first (spec.driftAttempt [])) []
      (pool.claimed worker spec) :=
    ⟨rfl, rfl, by simp [Pool.claimed, goto], rfl, (List.append_nil _).symm⟩
  obtain ⟨spawns, numbers, missing⟩ := (kept.pooling here).unclaimed pool.cursor (le_refl _)
  have pooling : (pool.claimed worker spec).Pooling := by
    apply (kept.pooling here).goes moves inside (le_succ _)
    case own =>
      intro index taken
      cases taken
      exact ⟨lt_succ_self _, missing, .inr (le_refl _)⟩
    case elsewhere => exact fun _ _ => elsewhere_none
    case results => exact fun _ _ found => .inl found
    case stays => exact fun _ stored => stored
    case told => exact ⟨numbers, .inr ⟨spawns, shouldRetry_refused rfl rfl⟩⟩
    case bears => exact ⟨spec, found, rfl, rfl, rfl, rfl, rfl, rfl⟩
    case claimed =>
      intro index below bound mine
      have lower : index < pool.cursor + 1 := below
      rw [free] at mine
      rcases mine with later | found | failing | rejected
      · exact .inr (.inl (congrArg some (by omega)))
      · cases found
      · cases failing
      · cases rejected
  exact kept.moved here moves inside pooling kept.twice kept.orderly
    (by simp [free]) (by simp) (by simp) (by simp [free])

theorem claimed_advance :
    ({ pool with cursor := pool.cursor + 1 } : Pool).advance worker place events =
      (pool.claimed worker spec).advance worker place events := by
  simp [advance, claimed, goto]

theorem Kept.begins (kept : pool.Kept) (here : pool.stage = .pooling)
    (running : pool.aborted = false) (caught : pool.aborted = true ∨
      ∀ worker < pool.input.workerCount, pool.workers worker ≠ .failing) {spec : AttemptSpec}
    (found : pool.input.specs[pool.cursor]? = some spec) {aborts : Bool}
    (begun : Begun spec (pool.aborted || aborts) pool.cursor .first place events) :
    Advances (pool.claimed worker spec) worker pool.cursor place
      (answered (.start pool.cursor) aborts events) := by
  obtain ⟨spawns, numbers, -⟩ := (kept.pooling here).unclaimed pool.cursor (le_refl _)
  have bound : pool.cursor < pool.input.specs.length := (List.getElem?_eq_some_iff.mp found).1
  have unthrown := kept.unthrown here running caught
  have started : Orderly (pool.log ++ [.start pool.cursor]) :=
    kept.orderly.snoc (fun _ => unthrown) (by simp)
  have idle : ∀ attempt, (pool.claimed worker spec).workers worker ≠ .running pool.cursor attempt := by
    simp [Pool.claimed, goto]
  have quiet : ∀ last : List RunnerEvent, (∀ event ∈ last, event.begins = false) →
      ∀ event ∈ (if aborts then [RunnerEvent.abort] else []) ++ last, event.begins = false := by
    intro last silent event member
    rcases mem_append.mp member with abort | ending
    · cases aborts with
      | false => cases abort
      | true => rw [mem_singleton.mp abort]; rfl
    · exact silent event ending
  have elsewhere : ∀ last, (∀ other, other ≠ pool.cursor → Elsewhere other last) →
      ∀ other, other ≠ pool.cursor → Elsewhere other (answered (.start pool.cursor) aborts last) := by
    intro last rest
    cases aborts with
    | false => exact elsewhere_cons (.inl rfl) rest
    | true => exact elsewhere_cons (.inl rfl) (elsewhere_cons (.inr rfl) rest)
  have orderly : ∀ last : List RunnerEvent, (∀ event ∈ last, event.begins = false) →
      Orderly (pool.log ++ answered (.start pool.cursor) aborts last) := by
    intro last silent
    have after := started.silent (quiet last silent)
    rwa [append_assoc] at after
  cases begun with
  | threw =>
    refine ⟨.inr rfl, elsewhere _ (elsewhere_cons (.inr rfl) elsewhere_nil), trivial, trivial, ?_,
      orderly _ (by simp [RunnerEvent.begins]), fun attempt same => absurd same (idle attempt), ?_,
      fun _ => rfl⟩
    · cases aborts <;>
        simp [Pool.claimed, goto, answered, spawns, RunnerEvent.spawned]
    · intro attempt spawned
      cases aborts <;> simp [answered] at spawned
  | refused result bears final =>
    refine ⟨.inl rfl, elsewhere _ elsewhere_nil, ⟨?_, .inr ⟨?_, final⟩⟩, ⟨spec, found, bears⟩, ?_,
      orderly _ (by simp), fun attempt same => absurd same (idle attempt), ?_, ?_⟩
    · cases aborts <;> simp [Pool.claimed, goto, answered, numbers, RunnerEvent.told]
    · cases aborts <;> simp [Pool.claimed, goto, answered, spawns, RunnerEvent.spawned]
    · cases aborts <;> simp [Pool.claimed, goto, answered, spawns, RunnerEvent.spawned]
    · intro attempt spawned
      cases aborts <;> simp [answered] at spawned
    · intro threw
      cases aborts <;> simp [answered] at threw
  | running unfired =>
    rw [running, Bool.false_or] at unfired
    subst unfired
    have spawned : Orderly (pool.log ++ [.start pool.cursor] ++ [.spawn pool.cursor .first]) :=
      started.snoc (fun _ => by simpa using unthrown) (by simp)
    rw [append_assoc] at spawned
    refine ⟨.inl rfl, elsewhere _ (elsewhere_cons (.inl rfl) elsewhere_nil), ⟨?_, ?_⟩, bound, ?_,
      spawned, fun attempt same => absurd same (idle attempt), ?_, ?_⟩
    · simp [Pool.claimed, goto, answered, spawns, RunnerEvent.spawned]
    · simp [Pool.claimed, goto, answered, numbers, RunnerEvent.told]
    · simp [Pool.claimed, goto, answered, spawns, RunnerEvent.spawned]
    · intro attempt member
      simp [answered] at member
      rw [member]
    · intro threw
      simp [answered] at threw

/-- A worker begins an execution only when every exception so far has reached its
worker's `catch`, and `onAttemptStart` does not throw. -/
def Caught (pool : Pool) : PoolLabel → Prop
  | .next _ start _ => start.threw = false ∧ (pool.aborted = true ∨
      ∀ worker < pool.input.workerCount, pool.workers worker ≠ .failing)
  | .retry _ _ => pool.aborted = true ∨
      ∀ worker < pool.input.workerCount, pool.workers worker ≠ .failing
  | _ => True

theorem beginTry_goto (pool : Pool) (worker index : Nat) (place : Worker) (spec : AttemptSpec) (attempt : Try) (begun : TryStart) :
    (pool.goto worker place).beginTry worker index spec attempt begun =
      pool.beginTry worker index spec attempt begun := by
  cases begun with
  | threw => simp [beginTry, throws, append, goto]
  | drift message => simp [beginTry, goto]
  | launched elapsedMs =>
    simp only [beginTry]
    split <;> rename_i aborted <;> simp [goto] at aborted <;> simp [aborted, append, goto]

theorem claim_goto (place : Worker) (start : CallbackAnswer) (begun : TryStart) :
    (pool.goto worker place).claim worker start begun = pool.claim worker start begun := by
  simp only [claim, goto]
  by_cases aborted : pool.aborted = true
  · simp [aborted]
  · simp only [aborted, false_eq_true, if_false]
    cases found : pool.input.specs[pool.cursor]? with
    | none => simp
    | some spec =>
      cases threw : start.threw with
      | true => cases start.aborts <;> simp [throws, append, abortIf, abort, goto]
      | false =>
        have same := beginTry_goto ((({ pool with cursor := pool.cursor + 1 } : Pool).append
          [.start pool.cursor]).abortIf start.aborts) worker pool.cursor place spec .first begun
        cases fires : start.aborts <;>
          simpa [append, abortIf, abort, goto, fires, aborted] using same

theorem Kept.claims (kept : pool.Kept) (here : pool.stage = .pooling)
    (inside : worker < pool.input.workerCount) (free : pool.workers worker = .fresh)
    {start : CallbackAnswer} (silent : start.threw = false) (caught : pool.aborted = true ∨
      ∀ worker < pool.input.workerCount, pool.workers worker ≠ .failing) (begun : TryStart) :
    (pool.claim worker start begun).Kept := by
  unfold claim
  by_cases aborted : pool.aborted = true
  · rw [if_pos aborted]
    exact kept.ends here inside free (le_refl _) (.inl rfl)
  · rw [if_neg aborted]
    have running : pool.aborted = false := by simpa using aborted
    dsimp only
    split
    · rename_i found
      exact kept.ends here inside free (le_succ _) (.inr (List.getElem?_eq_none_iff.mp found))
    · rename_i spec found
      rw [silent, if_neg Bool.false_ne_true]
      obtain ⟨place, events, starts, same⟩ := beginTry_begun
        ((({ pool with cursor := pool.cursor + 1 } : Pool).append
          [.start pool.cursor]).abortIf start.aborts) worker pool.cursor spec .first begun
      rw [same, started_advance, claimed_advance]
      have holds : ((pool.claimed worker spec).workers worker).index? = some pool.cursor := by
        simp [Pool.claimed, goto, index?]
      apply (kept.claimed here inside free found).advance here inside holds
      apply kept.begins here running caught found
      have fired : (((({ pool with cursor := pool.cursor + 1 } : Pool).append
          [.start pool.cursor]).abortIf start.aborts)).aborted =
          (pool.aborted || start.aborts) := by
        cases fires : start.aborts <;> simp [abortIf, abort, append]
      rwa [fired] at starts

theorem elsewhere_abort (index : Nat) : Elsewhere index [.abort] := by
  intro event member
  rw [mem_singleton.mp member]
  simp [RunnerEvent.index?]

section

variable (kept : pool.Kept)

include kept

theorem Kept.aborted (here : pool.stage = .pooling) : pool.abort.Kept := by
  have pooling := kept.pooling here
  have same : ∀ index, spawnsOf index pool.abort.log = spawnsOf index pool.log ∧
      numbersOf index pool.abort.log = numbersOf index pool.log := by
    intro index
    simp [abort, RunnerEvent.spawned, RunnerEvent.told]
  have after : pool.abort.Pooling := by
    constructor
    case held => exact pooling.held
    case apart => exact pooling.apart
    case told =>
      intro worker
      exact (pooling.told worker).grows fun index _ => elsewhere_abort index
    case bears => exact pooling.bears
    case unclaimed =>
      intro index later
      rw [(same index).1, (same index).2]
      exact pooling.unclaimed index later
    case stored =>
      intro index result found
      rw [Over, (same index).1, (same index).2]
      exact pooling.stored index result found
    case claimed => exact pooling.claimed
  constructor
  case booked => simpa only [Booked, abort, here] using after
  case twice =>
    intro index
    rw [(same index).1]
    exact kept.twice index
  case orderly => exact kept.orderly.silent (by simp [RunnerEvent.begins])
  case aborts => exact fun _ => rfl
  case waits =>
    intro index attempt spawned
    have earlier : RunnerEvent.spawn index attempt ∈ pool.log := by
      simpa [abort] using spawned
    rcases kept.waits index attempt earlier with exited | running
    · exact .inl (mem_append_left _ exited)
    · exact .inr running
  case stops => exact fun _ => .inl rfl

theorem Kept.catches (here : pool.stage = .pooling) (inside : worker < pool.input.workerCount)
    (failing : pool.workers worker = .failing) : (pool.abort.goto worker .rejected).Kept := by
  have moves : Moves pool worker .rejected [.abort] (pool.abort.goto worker .rejected) :=
    ⟨rfl, rfl, by simp [goto, abort], rfl, rfl⟩
  have pooling : (pool.abort.goto worker .rejected).Pooling := by
    apply (kept.pooling here).goes moves inside (le_refl _)
    case own => nofun
    case elsewhere => exact fun other _ => elsewhere_abort other
    case results => exact fun _ _ found => .inl found
    case stays => exact fun _ stored => stored
    case told => trivial
    case bears => trivial
    case claimed => exact fun _ _ _ _ => .inr (.inr (.inr rfl))
  have orderly : Orderly (pool.log ++ [.abort]) :=
    kept.orderly.silent (by simp [RunnerEvent.begins])
  apply kept.moved here moves inside pooling _ orderly (by simp [failing]) (by simp) (by simp)
    (by simp)
  intro index
  simpa [goto, abort, RunnerEvent.spawned] using kept.twice index

theorem Kept.late (events : List RunnerEvent) (booked : next.Booked) (stage : next.stage ≠ .pooling)
    (exits : ∀ index attempt, .spawn index attempt ∈ pool.log → .exited index attempt ∈ pool.log)
    (log : next.log = pool.log ++ events) (aborted : next.aborted = pool.aborted)
    (silent : ∀ event ∈ events, event.begins = false ∧ event ≠ .abort) : next.Kept := by
  have quiet : ∀ event ∈ events, event.begins = false := fun event member => (silent event member).1
  constructor
  case booked => exact booked
  case twice =>
    intro index
    rw [log, spawnsOf_append, silent_spawns quiet, List.append_nil]
    exact kept.twice index
  case orderly =>
    rw [log]
    exact kept.orderly.silent quiet
  case aborts =>
    intro fired
    rw [log] at fired
    rw [aborted]
    rcases mem_append.mp fired with earlier | now
    · exact kept.aborts earlier
    · exact absurd rfl (silent _ now).2
  case waits =>
    intro index attempt spawned
    rw [log] at spawned ⊢
    rcases mem_append.mp spawned with earlier | now
    · exact .inl (mem_append_left _ (exits index attempt earlier))
    · cases quiet _ now
  case stops => exact fun _ => .inr (.inl stage)

theorem Kept.restage
    (exits : ∀ index attempt, .spawn index attempt ∈ pool.log → .exited index attempt ∈ pool.log)
    {stage : PoolStage} (late : stage ≠ .pooling) (booked : ({ pool with stage } : Pool).Booked) :
    ({ pool with stage } : Pool).Kept :=
  kept.late [] booked late exits (List.append_nil _).symm rfl (by simp)

theorem Kept.settled (here : pool.stage = .pooling) (allOver : pool.allOver) :
    ({ pool with stage := if pool.rejects then .rejected else .filling 0 } : Pool).Kept := by
  have pooling := kept.pooling here
  have idle : ∀ worker < pool.input.workerCount, (pool.workers worker).index? = none ∧
      pool.workers worker ≠ .failing ∧ ∀ index attempt, pool.workers worker ≠ .running index attempt := by
    intro worker within
    have ended := allOver worker within
    cases place : pool.workers worker <;> simp [isOver, place] at ended <;> simp [index?]
  have exits : ∀ index attempt, .spawn index attempt ∈ pool.log → .exited index attempt ∈ pool.log := by
    intro index attempt spawned
    rcases kept.waits index attempt spawned with exited | ⟨-, worker, within, running⟩
    · exact exited
    · exact absurd running ((idle worker within).2.2 index attempt)
  by_cases rejects : pool.rejects
  · rw [if_pos rejects]
    exact kept.restage exits (by simp) trivial
  · rw [if_neg rejects]
    apply kept.restage exits (by simp)
    constructor
    case stored => exact pooling.stored
    case filled =>
      intro index below
      cases below
    case missing =>
      intro index bound missing
      by_cases later : pool.cursor ≤ index
      · obtain ⟨spawns, numbers, -⟩ := pooling.unclaimed index later
        exact ⟨spawns, numbers⟩
      · rcases pooling.claimed index (by omega) bound with stored | ⟨worker, within, what⟩
        · exact absurd missing stored
        · rcases what with found | failing | rejected
          · rw [(idle worker within).1] at found
            cases found
          · exact absurd failing (idle worker within).2.1
          · exact absurd ⟨worker, within, rejected⟩ rejects

theorem Kept.fills {position : Nat} (here : pool.stage = .filling position) (threw : Bool) :
    (pool.fillAt position threw).Kept := by
  have filling : pool.Filling position := by
    have booked := kept.booked
    simp only [Booked, here] at booked
    exact booked
  have exits : ∀ index attempt, .spawn index attempt ∈ pool.log → .exited index attempt ∈ pool.log := by
    intro index attempt spawned
    rcases kept.waits index attempt spawned with exited | ⟨pooling, -⟩
    · exact exited
    · rw [here] at pooling
      cases pooling
  unfold fillAt
  split
  · rename_i missing
    have bound := List.getElem?_eq_none_iff.mp missing
    apply kept.restage exits (by simp)
    refine ⟨filling.stored, filling.missing, ?_⟩
    intro index below inside
    exact filling.filled index (lt_of_lt_of_le below bound) inside
  · rename_i spec found
    have bound : position < pool.input.specs.length := (List.getElem?_eq_some_iff.mp found).1
    split
    · rename_i result stored
      apply kept.restage exits (by simp)
      refine ⟨filling.stored, filling.missing, ?_⟩
      intro index below inside
      by_cases last : index = position
      · rw [last, stored]
        simp
      · exact filling.filled index (by omega) inside
    · rename_i missing
      obtain ⟨spawns, numbers⟩ := filling.missing position bound missing
      cases threw with
      | true =>
        apply kept.late [.finish position spec.cancelledAttempt, .threw]
        case booked => trivial
        case stage => simp
        case exits => exact exits
        case log => simp [append, store]
        case aborted => rfl
        case silent => simp [RunnerEvent.begins]
      | false =>
        apply kept.late [.finish position spec.cancelledAttempt]
        case stage => simp
        case exits => exact exits
        case log => rfl
        case aborted => rfl
        case silent => simp [RunnerEvent.begins]
        case booked =>
          have elsewhere : ∀ other, other ≠ position →
              Elsewhere other [.finish position spec.cancelledAttempt] :=
            elsewhere_cons (.inl rfl) elsewhere_nil
          constructor
          case stored =>
            intro index result found_
            by_cases last : index = position
            · rw [last] at found_ ⊢
              have same : spec.cancelledAttempt = result := by
                simpa [append, store] using found_
              rw [← same]
              refine ⟨.inl ⟨?_, ?_⟩, spec, found, rfl, rfl, rfl, rfl, rfl, rfl⟩
              · simp [append, store, spawns, RunnerEvent.spawned]
              · simp [append, store, numbers, RunnerEvent.told]
            · have earlier : pool.results index = some result := by
                simpa [append, store, last] using found_
              have filled := filling.stored index result earlier
              have silent := elsewhere index last
              simpa [append, store, Over, silent.spawns, silent.numbers] using filled
          case missing =>
            intro index inside missing_
            by_cases last : index = position
            · rw [last] at missing_
              simp [append, store] at missing_
            · have earlier : pool.results index = none := by
                simpa [append, store, last] using missing_
              have silent := elsewhere index last
              simpa [append, store, silent.spawns, silent.numbers] using
                filling.missing index inside earlier
          case filled =>
            intro index below inside
            by_cases last : index = position
            · simp [append, store, last]
            · have earlier := filling.filled index (by omega) inside
              simpa [append, store, last] using earlier

theorem Kept.stepWorker (here : pool.stage = .pooling) (inside : worker < pool.input.workerCount)
    {reader : DriverReader} {label : PoolLabel} (caught : Caught pool label)
    (stepped : pool.stepWorker reader worker (pool.workers worker) label = some next) :
    next.Kept := by
  unfold Pool.stepWorker at stepped
  split at stepped
  case h_1 start begun free =>
    cases stepped
    exact kept.claims here inside free caught.1 caught.2 begun
  case h_2 index result _ start begun returns =>
    cases stepped
    have stored := kept.stored here inside returns
    rw [← claim_goto .fresh]
    apply stored.claims here inside (by simp [goto]) caught.1
    rcases caught.2 with aborted | calm
    · exact .inl aborted
    · right
      intro other within
      by_cases mine : other = worker
      · simp [mine, goto]
      · simp only [goto, update_of_ne mine]
        exact calm other within
  case h_3 index attempt _ out extracted durationMs running =>
    obtain ⟨spec, found, result⟩ := map_eq_some_iff.mp stepped
    have advanced : (pool.append [.exited index attempt]).goto worker (.settled index attempt
        (spec.spawnResult reader pool.input.timeoutMs out extracted durationMs)) =
        pool.advance worker (.settled index attempt
          (spec.spawnResult reader pool.input.timeoutMs out extracted durationMs))
          [.exited index attempt] := by
      simp [append, goto, Pool.advance]
    rw [← result, advanced]
    apply kept.advance here inside (by rw [running]; rfl)
    exact kept.exits here running
      (.inl ⟨_, spec, rfl, found, ⟨rfl, rfl, rfl, rfl, rfl, rfl⟩, rfl⟩)
  case h_4 index attempt _ running =>
    cases stepped
    have advanced : (pool.append [.exited index attempt]).throws worker .failing =
        pool.advance worker .failing [.exited index attempt, .threw] := by
      simp [append, throws, goto, Pool.advance]
    rw [advanced]
    apply kept.advance here inside (by rw [running]; rfl)
    exact kept.exits here running (.inr ⟨rfl, rfl⟩)
  case h_5 index result _ answer settled =>
    cases stepped
    obtain ⟨place, events, advances, same⟩ := finishFirst_advances kept here settled answer
    rw [same]
    exact kept.advance here inside (by rw [settled]; rfl) advances
  case h_6 index result _ answer settled =>
    cases stepped
    obtain ⟨place, events, advances, same⟩ := finishSecond_advances kept here settled answer
    rw [same]
    exact kept.advance here inside (by rw [settled]; rfl) advances
  case h_7 index first _ threw rebuilding =>
    cases stepped
    have holds : (pool.workers worker).index? = some index := by
      rw [rebuilding]
      rfl
    split
    · rw [throws_advance]
      exact kept.advance here inside holds
        (rebuilt_advances kept here rebuilding (.inl ⟨rfl, rfl⟩))
    · split
      · rw [goto_advance]
        exact kept.advance here inside holds
          (rebuilt_advances kept here rebuilding (.inr (.inl ⟨rfl, rfl⟩)))
      · rw [goto_advance]
        exact kept.advance here inside holds
          (rebuilt_advances kept here rebuilding (.inr (.inr ⟨rfl, rfl⟩)))
  case h_8 index first _ begun waits =>
    obtain ⟨spec, found, result⟩ := map_eq_some_iff.mp stepped
    obtain ⟨place, events, starts, same⟩ :=
      beginTry_begun pool worker index spec .second begun
    rw [← result, same]
    apply kept.advance here inside (by rw [waits]; rfl)
    exact kept.retries here waits caught found starts
  case h_9 failing =>
    cases stepped
    exact kept.catches here inside failing
  case h_10 => cases stepped

theorem Kept.step {reader : DriverReader} {label : PoolLabel} (caught : Caught pool label)
    (stepped : pool.step reader label = some next) : next.Kept := by
  unfold Pool.step at stepped
  split at stepped
  case h_1 here =>
    cases stepped
    exact kept.aborted here
  case h_2 here =>
    split at stepped
    · rename_i allOver
      cases stepped
      exact kept.settled here allOver
    · cases stepped
  case h_3 position threw here =>
    cases stepped
    exact kept.fills here threw
  case h_11 => cases stepped
  all_goals
    rename_i here
    split at stepped
    · rename_i inside
      exact kept.stepWorker here inside caught stepped
    · cases stepped

end

theorem kept_initial (input : PoolInput) (aborted : Bool) : (initial input aborted).Kept := by
  have silent : ∀ event ∈ (initial input aborted).log, event = .abort := by
    cases aborted <;> simp [initial]
  have quiet : ∀ event ∈ (initial input aborted).log, event.begins = false := by
    intro event member
    rw [silent event member]
    rfl
  constructor
  case booked =>
    simp only [Booked, initial]
    constructor
    case held => intro worker index found; cases found
    case apart => intro worker other index found; cases found
    case told => exact fun worker => trivial
    case bears => exact fun worker => trivial
    case unclaimed =>
      intro index later
      cases aborted <;> exact ⟨rfl, rfl, rfl⟩
    case stored => intro index result found; cases found
    case claimed => intro index below; cases below
  case twice =>
    intro index
    rw [silent_spawns quiet]
    exact nil_sublist _
  case orderly =>
    have empty : Orderly [] := by
      constructor
      · intro before after index split
        simp at split
      · intro before after split
        simp at split
    exact empty.silent quiet
  case aborts => cases aborted <;> simp [initial]
  case waits =>
    intro index attempt spawned
    cases quiet _ spawned
  case stops =>
    intro threw
    cases silent _ threw

/-- What a call promises, at every moment and when it returns or rejects. -/
structure Attempted (pool : Pool) : Prop where
  results : pool.stage = .returned → ∀ index spec, pool.input.specs[index]? = some spec →
    ∃ result, pool.results index = some result ∧ result.Of spec
  noMore : pool.stage = .returned → ∀ index, pool.input.specs.length ≤ index → pool.results index = none
  twice : ∀ index, (spawnsOf index pool.log).length ≤ 2
  retried : ∀ before after index, pool.log = before ++ .spawn index .second :: after →
    .abort ∉ before ∧ .spawn index .first ∈ before ∧ ∃ first, Rebuilt index first before
  told : pool.stage = .returned → ∀ index < pool.input.specs.length, ∀ attempt,
    .spawn index attempt ∈ pool.log → (numbersOf index pool.log).count (some attempt.number) = 1
  unstarted : pool.stage = .returned → ∀ index < pool.input.specs.length,
    (∀ attempt, .spawn index attempt ∉ pool.log) → (numbersOf index pool.log).length = 1
  stopped : ∀ before after, pool.log = before ++ .threw :: after → ∀ event ∈ after, event.begins = false
  waited : pool.stage = .rejected → ∀ index attempt, .spawn index attempt ∈ pool.log →
    .exited index attempt ∈ pool.log

theorem over_told {log : List RunnerEvent} (ended : Over index log) {attempt : Try}
    (spawned : .spawn index attempt ∈ log) :
    (numbersOf index log).count (some attempt.number) = 1 := by
  have found := mem_spawnsOf.mpr spawned
  rcases ended with ⟨spawns, -⟩ | ⟨spawns, numbers | numbers⟩ | ⟨spawns, numbers⟩
  · rw [spawns] at found
    cases found
  · rw [spawns, mem_singleton] at found
    rw [numbers, found]
    rfl
  · rw [spawns, mem_singleton] at found
    rw [numbers, found]
    rfl
  · rw [numbers]
    cases attempt <;> rfl

theorem over_unstarted {log : List RunnerEvent} (ended : Over index log)
    (unspawned : ∀ attempt, .spawn index attempt ∉ log) : (numbersOf index log).length = 1 := by
  have absent : ∀ attempt, attempt ∉ spawnsOf index log :=
    fun attempt member => unspawned attempt (mem_spawnsOf.mp member)
  rcases ended with ⟨-, numbers⟩ | ⟨spawns, -⟩ | ⟨spawns, -⟩
  · exact numbers
  · exact absurd (by rw [spawns]; exact mem_cons_self) (absent .first)
  · exact absurd (by rw [spawns]; exact mem_cons_self) (absent .first)

theorem Kept.attempted (kept : pool.Kept) : Attempted pool := by
  have whole : pool.stage = .returned → ∀ index < pool.input.specs.length,
      ∃ result, pool.results index = some result ∧ Over index pool.log ∧
        ∃ spec, pool.input.specs[index]? = some spec ∧ result.Of spec := by
    intro returned index bound
    have booked := kept.booked
    simp only [Booked, returned] at booked
    obtain ⟨result, stored⟩ := ne_none_iff_exists'.mp (booked.filled index bound bound)
    exact ⟨result, stored, booked.stored index result stored⟩
  constructor
  case results =>
    intro returned index spec found
    obtain ⟨result, stored, -, other, same, bears⟩ :=
      whole returned index (List.getElem?_eq_some_iff.mp found).1
    rw [found] at same
    cases same
    exact ⟨result, stored, bears⟩
  case noMore =>
    intro returned index later
    have booked := kept.booked
    simp only [Booked, returned] at booked
    cases stored : pool.results index with
    | none => rfl
    | some result =>
      obtain ⟨-, spec, found, -⟩ := booked.stored index result stored
      rw [List.getElem?_eq_none later] at found
      cases found
  case twice =>
    intro index
    exact (kept.twice index).length_le
  case retried => exact kept.orderly.retried
  case told =>
    intro returned index bound attempt spawned
    obtain ⟨result, -, done, -⟩ := whole returned index bound
    exact over_told done spawned
  case unstarted =>
    intro returned index bound unspawned
    obtain ⟨result, -, done, -⟩ := whole returned index bound
    exact over_unstarted done unspawned
  case stopped => exact kept.orderly.stopped
  case waited =>
    intro rejected index attempt spawned
    rcases kept.waits index attempt spawned with exited | ⟨pooling, -⟩
    · exact exited
    · rw [rejected] at pooling
      cases pooling

theorem attempts_held {reader : DriverReader} {labels : List PoolLabel} {final : Pool}
    (input : PoolInput) (aborted : Bool)
    (ran : Run (Pool.step reader) Caught (initial input aborted) labels final) : Attempted final :=
  (ran.invariant (fun kept caught stepped => Kept.step kept caught stepped)
    (kept_initial input aborted)).attempted

instance (pool : Pool) (label : PoolLabel) : Decidable (Caught pool label) :=
  match label with
  | .next _ start _ => inferInstanceAs (Decidable (start.threw = false ∧ (pool.aborted = true ∨
      ∀ worker < pool.input.workerCount, pool.workers worker ≠ .failing)))
  | .retry _ _ => inferInstanceAs (Decidable (pool.aborted = true ∨
      ∀ worker < pool.input.workerCount, pool.workers worker ≠ .failing))
  | .abort | .exit .. | .crash _ | .finish .. | .rebuilt .. | .caught _ | .settle | .fill _ =>
    .isTrue trivial

def plainReader : DriverReader where
  classifyDriverTerminal _ := none
  isCodexReconnectDiagnostic _ := false
  formatExitFailure _ _ := js "non-zero exit"
  withLoginHint message _ := message

def sampleSpec (attemptId : JsString) : AttemptSpec :=
  ⟨attemptId, js "ada", js "Ada", js "codex-app-server", js "m1", js "/w", none⟩

def flakyInput : PoolInput := ⟨[sampleSpec (js "a1")], 10, 1800000⟩

/-- The first execution exits with 1 after 50 ms, and the second succeeds. -/
def retriedRun : List PoolLabel :=
  [.next 0 {} (.launched 0), .exit 0 { stdout := [], exitCode := some 1 } none 50, .finish 0 {},
    .rebuilt 0 false, .retry 0 (.launched 0),
    .exit 0 { stdout := js "ok", exitCode := some 0 } (some (js "ok")) 60, .finish 0 {},
    .next 0 {} (.launched 0), .settle, .fill false, .fill false]

theorem attempts_held_retried : ∃ final,
    execute (guarded (Pool.step plainReader) Caught) (initial flakyInput false) retriedRun =
      some final ∧ final.stage = .returned ∧ spawnsOf 0 final.log = [.first, .second] ∧
        Attempted final := by
  have known : (execute (guarded (Pool.step plainReader) Caught) (initial flakyInput false)
      retriedRun).any (fun pool =>
        decide (pool.stage = .returned ∧ spawnsOf 0 pool.log = [.first, .second])) = true := by
    decide +kernel
  obtain ⟨final, ended, outcome⟩ := (any_eq_true _ _).mp known
  obtain ⟨returned, spawns⟩ := of_decide_eq_true outcome
  exact ⟨final, ended, returned, spawns, attempts_held flakyInput false (execute_guarded ended)⟩

/-- `onAttemptStart` throws for the first spec, and another worker goes on. -/
def thrownStartRun : List PoolLabel :=
  [.next 0 { threw := true } (.launched 0), .next 1 {} (.launched 0)]

def pairInput : PoolInput := ⟨[sampleSpec (js "a1"), sampleSpec (js "a2")], 2, 1800000⟩

theorem thrownStart_goes_on : ∃ final,
    Run (Pool.step plainReader) anyStep (initial pairInput false) thrownStartRun final ∧
      final.log = [.start 0, .threw, .start 1, .spawn 1 .first] ∧ ¬ Attempted final := by
  have logged : (execute (Pool.step plainReader) (initial pairInput false) thrownStartRun).map
      (·.log) = some [.start 0, .threw, .start 1, .spawn 1 .first] := by
    decide +kernel
  obtain ⟨final, ended, log⟩ := map_eq_some_iff.mp logged
  refine ⟨final, execute_run ended (fun _ _ _ => trivial), log, ?_⟩
  intro attempted
  have begun := attempted.stopped [.start 0] [.start 1, .spawn 1 .first] log (.start 1) mem_cons_self
  cases begun

end Pool

end CouncilKit.Auto
