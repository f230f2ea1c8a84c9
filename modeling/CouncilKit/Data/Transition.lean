import Mathlib

namespace CouncilKit.Data

open List

universe u v

variable {σ : Type u} {α : Type v}

inductive Run (step : σ → α → Option σ) (meets : σ → α → Prop) : σ → List α → σ → Prop where
  | done (state : σ) : Run step meets state [] state
  | next {state middle final : σ} {action : α} {rest : List α} (met : meets state action)
      (stepped : step state action = some middle) (remaining : Run step meets middle rest final) :
      Run step meets state (action :: rest) final

def anyStep (_ : σ) (_ : α) : Prop := True

variable {step : σ → α → Option σ} {meets : σ → α → Prop} {start middle final : σ} {actions : List α}

variable {holds : σ → Prop}

theorem Run.invariant (keep : ∀ {state action next}, holds state → meets state action →
      step state action = some next → holds next)
    (run : Run step meets start actions final) (base : holds start) : holds final := by
  induction run with
  | done => exact base
  | next met stepped _ ih => exact ih (keep base met stepped)

/-- A reflexive and transitive relation between the ends of every step from an
invariant state relates the ends of every run from one. -/
theorem Run.relates {relates : σ → σ → Prop} (refl : ∀ state, relates state state)
    (trans : ∀ {first second third}, relates first second → relates second third →
      relates first third) (keep : ∀ {state action next}, holds state → meets state action →
      step state action = some next → holds next ∧ relates state next)
    (run : Run step meets start actions final) (base : holds start) : relates start final := by
  induction run with
  | done => exact refl _
  | next met stepped _ ih =>
    obtain ⟨kept, related⟩ := keep base met stepped
    exact trans related (ih kept)

theorem Run.append {more : List α} (first : Run step meets start actions middle)
    (second : Run step meets middle more final) : Run step meets start (actions ++ more) final := by
  induction first with
  | done => exact second
  | next met stepped _ ih => exact .next met stepped (ih second)

theorem Run.any (run : Run step meets start actions final) : Run step anyStep start actions final := by
  induction run with
  | done => exact .done _
  | next _ stepped _ ih => exact .next trivial stepped ih

/-- The steps of a run may meet another condition, when each does that comes from
an invariant state. -/
theorem Run.transfer {other : σ → α → Prop}
    (keep : ∀ {state action next}, holds state → meets state action →
      step state action = some next → other state action ∧ holds next)
    (run : Run step meets start actions final) (base : holds start) :
    Run step other start actions final := by
  induction run with
  | done => exact .done _
  | next met stepped _ ih =>
    obtain ⟨also, kept⟩ := keep base met stepped
    exact .next also stepped (ih kept)

theorem Run.first {early late : List α} {reached : σ} (run : Run step meets start (early ++ late) final)
    (part : Run step anyStep start early reached) : Run step meets start early reached := by
  induction part with
  | done => exact .done _
  | next _ stepped _ ih =>
    cases run with
    | next met also remaining =>
      rw [stepped, Option.some_inj] at also
      subst also
      exact .next met stepped (ih remaining)

/-- A condition on steps that the state behind each shows is met when all the states
of a run are good. -/
theorem Run.meets_of_reached {good : σ → Prop}
    (shows_ : ∀ {state action next}, step state action = some next → good next →
      meets state action)
    (run : Run step anyStep start actions final)
    (reach : ∀ early late reached, actions = early ++ late → Run step anyStep start early reached →
      good reached) : Run step meets start actions final := by
  induction run with
  | done => exact .done _
  | @next state middle final action rest met stepped remaining ih =>
    have here := reach [action] rest middle rfl (.next met stepped (.done _))
    refine .next (shows_ stepped here) stepped (ih fun early late reached split part => ?_)
    exact reach (action :: early) late reached (by rw [split]; rfl) (.next met stepped part)

def execute (step : σ → α → Option σ) : σ → List α → Option σ
  | state, [] => some state
  | state, action :: rest => (step state action).bind fun next => execute step next rest

theorem execute_run (ended : execute step start actions = some final)
    (met : ∀ state, ∀ action ∈ actions, meets state action) :
    Run step meets start actions final := by
  induction actions generalizing start with
  | nil =>
    cases ended
    exact .done _
  | cons action rest ih =>
    simp only [execute, Option.bind_eq_some_iff] at ended
    obtain ⟨next, stepped, remaining⟩ := ended
    exact .next (met start action List.mem_cons_self) stepped
      (ih remaining fun state other member => met state other (List.mem_cons_of_mem _ member))

def guarded (step : σ → α → Option σ) (meets : σ → α → Prop)
    [∀ state action, Decidable (meets state action)] (state : σ) (action : α) : Option σ :=
  if meets state action then step state action else none

theorem execute_guarded [∀ state action, Decidable (meets state action)]
    (ended : execute (guarded step meets) start actions = some final) :
    Run step meets start actions final := by
  induction actions generalizing start with
  | nil =>
    cases ended
    exact .done _
  | cons action rest ih =>
    simp only [execute, Option.bind_eq_some_iff] at ended
    obtain ⟨next, stepped, remaining⟩ := ended
    simp only [guarded] at stepped
    split at stepped
    · rename_i met
      exact .next met stepped (ih remaining)
    · contradiction

variable {α : Type*}

def Obeys (allowed : List α → α → Prop) (trace : List α) : Prop :=
  ∀ front entry back, trace = front ++ entry :: back → allowed front entry

variable {allowed : List α → α → Prop} {trace : List α}

theorem Obeys.nil : Obeys allowed [] := fun front entry back split => by
  cases front <;> cases split

theorem Obeys.concat (obeys : Obeys allowed trace) {entry : α} (next : allowed trace entry) :
    Obeys allowed (trace ++ [entry]) := by
  intro front other back split
  obtain last | ⟨rest, final, last⟩ := eq_nil_or_concat back
  · subst last
    obtain ⟨same, single⟩ := append_inj' split rfl
    cases single
    rw [← same]
    exact next
  · subst last
    rw [concat_eq_append, ← cons_append, ← append_assoc] at split
    exact obeys front other rest (append_inj' split rfl).1

end CouncilKit.Data
