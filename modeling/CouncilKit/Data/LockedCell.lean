import Mathlib
import CouncilKit.Data.Transition

namespace CouncilKit.Data

open Function Option

/-! Any number of actors change one cell.  Each takes the lock, loads the cell,
stores what its request makes of the load and lets the lock go; before the store
it may give up at any point.  The log lists the requests stored, in order: the
cell is what they make of it one after another.
-/

universe u v w x

/-- How a cell is read and what a request makes of it; either may be refused. -/
structure Editing (σ : Type u) (ρ : Type v) (κ : Type w) where
  load : σ → Option ρ
  change : ρ → κ → Option σ

def Editing.apply {σ : Type u} {ρ : Type v} {κ : Type w} (editing : Editing σ ρ κ) (cell : σ)
    (request : κ) : Option σ :=
  (editing.load cell).bind fun loaded => editing.change loaded request

inductive EditStage (ρ : Type v) (κ : Type w) where
  | idle
  | waiting (request : κ)
  | locked (request : κ)
  | loaded (request : κ) (value : ρ)

namespace EditStage

variable {ρ : Type v} {κ : Type w}

def request : EditStage ρ κ → Option κ
  | .idle => none
  | .waiting request | .locked request | .loaded request _ => some request

def holds : EditStage ρ κ → Bool
  | .idle | .waiting _ => false
  | .locked _ | .loaded _ _ => true

end EditStage

structure LockedCell (σ : Type u) (ρ : Type v) (κ : Type w) (ω : Type x) where
  cell : σ
  lock : Option ω
  stage : ω → EditStage ρ κ
  log : List κ

inductive EditAction (κ : Type w) (ω : Type x) where
  | call (actor : ω) (request : κ)
  | acquire (actor : ω)
  | load (actor : ω)
  | store (actor : ω)
  | fail (actor : ω)

def EditAction.Asks {κ : Type w} {ω : Type x} (meets : κ → Prop) : EditAction κ ω → Prop
  | .call _ request => meets request
  | _ => True

namespace LockedCell

variable {σ : Type u} {ρ : Type v} {κ : Type w} {ω : Type x} [DecidableEq ω]

def start (cell : σ) : LockedCell σ ρ κ ω := ⟨cell, none, fun _ => .idle, []⟩

variable (editing : Editing σ ρ κ) (system : LockedCell σ ρ κ ω)

def goto (actor : ω) (stage : EditStage ρ κ) : LockedCell σ ρ κ ω :=
  { system with stage := update system.stage actor stage }

def released (actor : ω) : Option ω := if system.lock = some actor then none else system.lock

def step : EditAction κ ω → Option (LockedCell σ ρ κ ω)
  | .call actor request =>
    match system.stage actor with
    | .idle => some (system.goto actor (.waiting request))
    | _ => none
  | .acquire actor =>
    match system.stage actor, system.lock with
    | .waiting request, none => some { system.goto actor (.locked request) with lock := some actor }
    | _, _ => none
  | .load actor =>
    match system.stage actor with
    | .locked request =>
      (editing.load system.cell).map fun value => system.goto actor (.loaded request value)
    | _ => none
  | .store actor =>
    match system.stage actor with
    | .loaded request value =>
      (editing.change value request).map fun cell =>
        { system.goto actor .idle with
          cell, lock := system.released actor, log := system.log ++ [request] }
    | _ => none
  | .fail actor =>
    match system.stage actor with
    | .idle => none
    | _ => some { system.goto actor .idle with lock := system.released actor }

variable {editing} {system} {next final : LockedCell σ ρ κ ω} {action : EditAction κ ω}

inductive Steps (editing : Editing σ ρ κ) (system next : LockedCell σ ρ κ ω) :
    EditAction κ ω → Prop where
  | call {actor : ω} {request : κ} (idle : system.stage actor = .idle)
      (after : next = system.goto actor (.waiting request)) : Steps editing system next (.call actor request)
  | acquire {actor : ω} {request : κ} (waited : system.stage actor = .waiting request)
      (free : system.lock = none)
      (after : next = { system.goto actor (.locked request) with lock := some actor }) :
      Steps editing system next (.acquire actor)
  | load {actor : ω} {request : κ} {value : ρ} (locked : system.stage actor = .locked request)
      (read : editing.load system.cell = some value)
      (after : next = system.goto actor (.loaded request value)) :
      Steps editing system next (.load actor)
  | store {actor : ω} {request : κ} {value : ρ} {cell : σ}
      (loaded : system.stage actor = .loaded request value)
      (changed : editing.change value request = some cell)
      (after : next = { system.goto actor .idle with
        cell, lock := system.released actor, log := system.log ++ [request] }) :
      Steps editing system next (.store actor)
  | fail {actor : ω} (after : next = { system.goto actor .idle with lock := system.released actor }) :
      Steps editing system next (.fail actor)

theorem steps_of_step (stepped : system.step editing action = some next) :
    Steps editing system next action := by
  cases action with
  | call actor request =>
    simp only [step] at stepped
    split at stepped
    · rename_i idle
      exact .call idle (some.inj stepped).symm
    · contradiction
  | acquire actor =>
    simp only [step] at stepped
    split at stepped
    · rename_i waited free
      exact .acquire waited free (some.inj stepped).symm
    · contradiction
  | load actor =>
    simp only [step] at stepped
    split at stepped
    · rename_i locked
      obtain ⟨value, read, after⟩ := map_eq_some_iff.mp stepped
      exact .load locked read after.symm
    · contradiction
  | store actor =>
    simp only [step] at stepped
    split at stepped
    · rename_i loaded
      obtain ⟨cell, changed, after⟩ := map_eq_some_iff.mp stepped
      exact .store loaded changed after.symm
    · contradiction
  | fail actor =>
    simp only [step] at stepped
    split at stepped
    · contradiction
    · exact .fail (some.inj stepped).symm

/-- The cell is what the log makes of the first one; whoever is past the lock has
it, and what it loaded is still there. -/
structure Serial (editing : Editing σ ρ κ) (cell : σ) (system : LockedCell σ ρ κ ω) : Prop where
  ran : Run editing.apply anyStep cell system.log system.cell
  exclusive : ∀ actor, (system.stage actor).holds = true → system.lock = some actor
  current : ∀ actor request value, system.stage actor = .loaded request value →
    editing.load system.cell = some value

namespace Serial

variable {cell : σ}

omit [DecidableEq ω] in
theorem start (cell : σ) : Serial editing cell (.start cell : LockedCell σ ρ κ ω) := by
  refine ⟨.done cell, ?_, ?_⟩
  · intro actor held
    cases held
  · intro actor request value loaded
    cases loaded

variable {actor : ω}

omit [DecidableEq ω] in
theorem alone (serial : Serial editing cell system) {other : ω}
    (held : (system.stage actor).holds = true) (also : (system.stage other).holds = true) :
    other = actor := by
  have first := serial.exclusive actor held
  have second := serial.exclusive other also
  rw [first] at second
  exact (some.inj second).symm

variable (serial : Serial editing cell system)

include serial

theorem moves {stage : EditStage ρ κ} {lock : Option ω}
    (mine : stage.holds = true → lock = some actor)
    (theirs : ∀ other, other ≠ actor → (system.stage other).holds = true → lock = some other)
    (read : ∀ request value, stage = .loaded request value → editing.load system.cell = some value) :
    Serial editing cell { system.goto actor stage with lock } := by
  refine ⟨serial.ran, ?_, ?_⟩
  · intro other held
    by_cases same : other = actor
    · subst same
      simp only [goto, update_self] at held
      exact mine held
    · simp only [goto, update_of_ne same] at held
      exact theirs other same held
  · intro other request value loaded
    by_cases same : other = actor
    · subst same
      simp only [goto, update_self] at loaded
      exact read request value loaded
    · simp only [goto, update_of_ne same] at loaded
      exact serial.current other request value loaded

theorem released_others {other : ω} (different : other ≠ actor)
    (held : (system.stage other).holds = true) : system.released actor = some other := by
  have mine := serial.exclusive other held
  have apart : system.lock ≠ some actor := by
    rw [mine]
    exact fun same => different (some.inj same)
  rw [released, if_neg apart, mine]

theorem step (stepped : system.step editing action = some next) : Serial editing cell next := by
  cases steps_of_step stepped with
  | @call actor request idle after =>
    subst after
    apply serial.moves
    · intro held
      cases held
    · exact fun other _ held => serial.exclusive other held
    · intro other value loaded
      cases loaded
  | @acquire actor request waited free after =>
    subst after
    apply serial.moves
    · exact fun _ => rfl
    · intro other _ held
      have mine := serial.exclusive other held
      rw [free] at mine
      cases mine
    · intro other value loaded
      cases loaded
  | @load actor request value locked read after =>
    subst after
    have held : (system.stage actor).holds = true := by rw [locked]; rfl
    apply serial.moves
    · exact fun _ => serial.exclusive actor held
    · exact fun other _ also => serial.exclusive other also
    · intro other current loaded
      cases loaded
      exact read
  | @store actor request value stored loaded changed after =>
    subst after
    have held : (system.stage actor).holds = true := by rw [loaded]; rfl
    have applied : editing.apply system.cell request = some stored := by
      rw [Editing.apply, serial.current actor request value loaded]
      exact changed
    refine ⟨serial.ran.append (.next trivial applied (.done stored)), ?_, ?_⟩
    · intro other also
      by_cases same : other = actor
      · subst same
        simp [goto, EditStage.holds] at also
      · simp only [goto, update_of_ne same] at also
        exact absurd (serial.alone held also) same
    · intro other request value kept
      by_cases same : other = actor
      · subst same
        simp [goto] at kept
      · simp only [goto, update_of_ne same] at kept
        have also : (system.stage other).holds = true := by rw [kept]; rfl
        exact absurd (serial.alone held also) same
  | @fail actor after =>
    subst after
    apply serial.moves
    · intro held
      cases held
    · exact fun other different held => serial.released_others different held
    · intro other value loaded
      cases loaded

end Serial

theorem run_serial {meets : LockedCell σ ρ κ ω → EditAction κ ω → Prop} {cell : σ}
    {actions : List (EditAction κ ω)} (run : Run (step editing) meets (.start cell) actions final) :
    Serial editing cell final :=
  run.invariant (fun serial _ stepped => Serial.step serial stepped) (Serial.start cell)

theorem step_quiet (stepped : system.step editing action = some next)
    (quiet : ∀ actor, action ≠ .store actor) : next.cell = system.cell ∧ next.log = system.log := by
  cases steps_of_step stepped with
  | call _ after => exact after ▸ ⟨rfl, rfl⟩
  | acquire _ _ after => exact after ▸ ⟨rfl, rfl⟩
  | load _ _ after => exact after ▸ ⟨rfl, rfl⟩
  | @store actor => exact absurd rfl (quiet actor)
  | fail after => exact after ▸ ⟨rfl, rfl⟩

/-- What is asked of every request holds of those pending and of those stored. -/
structure Asked (meets : κ → Prop) (system : LockedCell σ ρ κ ω) : Prop where
  pending : ∀ actor request, (system.stage actor).request = some request → meets request
  stored : ∀ request ∈ system.log, meets request

namespace Asked

variable {meets : κ → Prop}

theorem moves (asked : Asked meets system) {actor : ω} {stage : EditStage ρ κ}
    (mine : ∀ request, stage.request = some request → meets request) (other : ω) (request : κ)
    (named : ((system.goto actor stage).stage other).request = some request) : meets request := by
  by_cases same : other = actor
  · subst same
    simp only [goto, update_self] at named
    exact mine request named
  · simp only [goto, update_of_ne same] at named
    exact asked.pending other request named

theorem step (asked : Asked meets system) (asks : action.Asks meets)
    (stepped : system.step editing action = some next) : Asked meets next := by
  cases steps_of_step stepped with
  | @call actor request _ after =>
    subst after
    refine ⟨asked.moves ?_, asked.stored⟩
    intro other same
    cases same
    exact asks
  | @acquire actor request waited _ after =>
    subst after
    refine ⟨asked.moves ?_, asked.stored⟩
    intro other same
    exact asked.pending actor other (by rw [waited]; exact same)
  | @load actor request value locked _ after =>
    subst after
    refine ⟨asked.moves ?_, asked.stored⟩
    intro other same
    exact asked.pending actor other (by rw [locked]; exact same)
  | @store actor request value stored loaded _ after =>
    subst after
    refine ⟨asked.moves (by intro other same; cases same), ?_⟩
    intro other member
    rcases List.mem_append.mp member with old | new
    · exact asked.stored other old
    · rw [List.mem_singleton.mp new]
      exact asked.pending actor request (by rw [loaded]; rfl)
  | fail after =>
    subst after
    exact ⟨asked.moves (by intro other same; cases same), asked.stored⟩

end Asked

theorem run_asked {meets : κ → Prop} {cell : σ} {actions : List (EditAction κ ω)}
    (run : Run (step editing) (fun _ action => action.Asks meets) (.start cell) actions final) :
    ∀ request ∈ final.log, meets request := by
  have base : Asked meets (.start cell : LockedCell σ ρ κ ω) := by
    refine ⟨?_, ?_⟩
    · intro actor request named
      cases named
    · intro request member
      cases member
  have kept : Asked meets final :=
    run.invariant (fun asked asks stepped => Asked.step asked asks stepped) base
  exact kept.stored

end LockedCell

end CouncilKit.Data
