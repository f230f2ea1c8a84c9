import Mathlib

namespace CouncilKit.Data

open List

universe u

variable {ε : Type*} {α β σ : Type u}

theorem except_bind_ok {first : Except ε α} {next : α → Except ε β} {result : β} :
    (first >>= next) = .ok result ↔ ∃ value, first = .ok value ∧ next value = .ok result := by
  cases first with
  | error reason => simp [bind, Except.bind]
  | ok value => simp [bind, Except.bind]

def require (condition : Prop) [Decidable condition] (failure : ε) : Except ε Unit :=
  if condition then .ok () else .error failure

def fetch (found : Option α) (failure : ε) : Except ε α :=
  match found with
  | some value => .ok value
  | none => .error failure

@[simp] theorem require_ok {condition : Prop} [Decidable condition] {failure : ε} {done : Unit} :
    require condition failure = .ok done ↔ condition := by
  rw [require]
  split <;> simp_all

@[simp] theorem fetch_ok {found : Option α} {failure : ε} {value : α} :
    fetch found failure = .ok value ↔ found = some value := by
  cases found <;> simp [fetch]

variable {turns : List α} {body : σ → α → Except ε σ}

section

variable (holds : List α → σ → Prop)
  (keep : ∀ {done state turn next}, holds done state → body state turn = .ok next → holds (done ++ [turn]) next)

include holds keep

theorem foldlM_invariant_from {done : List α} {start final : σ} (base : holds done start)
    (folded : turns.foldlM body start = .ok final) : holds (done ++ turns) final := by
  induction turns generalizing done start with
  | nil =>
    cases folded
    rwa [append_nil]
  | cons turn rest ih =>
    rw [foldlM_cons, except_bind_ok] at folded
    obtain ⟨next, stepped, ended⟩ := folded
    simpa using ih (keep base stepped) ended

/-- What each successful turn keeps, as a relation between the turns taken and
the state, holds after the whole loop when it succeeds. -/
theorem foldlM_invariant {start final : σ} (base : holds [] start)
    (folded : turns.foldlM body start = .ok final) : holds turns final :=
  foldlM_invariant_from holds keep base folded

end

variable {body : α → Except ε PUnit}

theorem forM_ok
    (ended : turns.forM body = .ok ⟨⟩) : ∀ turn ∈ turns, body turn = .ok ⟨⟩ := by
  induction turns with
  | nil => simp
  | cons turn rest ih =>
    change (body turn >>= fun _ => rest.forM body) = .ok ⟨⟩ at ended
    rw [except_bind_ok] at ended
    obtain ⟨⟨⟩, first, restEnded⟩ := ended
    intro other member
    rcases mem_cons.mp member with rfl | later
    · exact first
    · exact ih restEnded other later

theorem forM_succeeds
    (every : ∀ turn ∈ turns, body turn = .ok ⟨⟩) : turns.forM body = .ok ⟨⟩ := by
  induction turns with
  | nil => rfl
  | cons turn rest ih =>
    rw [forall_mem_cons] at every
    change (body turn >>= fun _ => rest.forM body) = .ok ⟨⟩
    rw [except_bind_ok]
    exact ⟨⟨⟩, every.1, ih every.2⟩

theorem mapM_some_iff {α β : Type*} {body : α → Option β} {items : List α} {results : List β} :
    items.mapM body = some results ↔
      List.Forall₂ (fun item result => body item = some result) items results := by
  induction items generalizing results with
  | nil => simp [eq_comm]
  | cons item rest ih =>
    rw [mapM_cons, forall₂_cons_left_iff]
    constructor
    · intro mapped
      obtain ⟨result, made, others⟩ := Option.bind_eq_some_iff.mp mapped
      obtain ⟨later, mappedLater, same⟩ := Option.bind_eq_some_iff.mp others
      exact ⟨result, later, made, ih.mp mappedLater, (Option.some.inj same).symm⟩
    · rintro ⟨result, later, made, mappedLater, rfl⟩
      rw [made, ih.mpr mappedLater]
      rfl

theorem find?_forall₂ {α β : Type*} {relates : α → β → Prop} {test : α → Bool} {other : β → Bool}
    {items : List α} {results : List β} (related : List.Forall₂ relates items results)
    (agree : ∀ item result, relates item result → test item = other result) :
    items.find? test = none ∧ results.find? other = none ∨
      ∃ item result, items.find? test = some item ∧ results.find? other = some result ∧
        relates item result := by
  induction related with
  | nil => exact .inl ⟨rfl, rfl⟩
  | @cons item result rest later here _ ih =>
    rw [find?_cons, find?_cons, ← agree item result here]
    cases test item with
    | true => exact .inr ⟨item, result, rfl, rfl, here⟩
    | false => exact ih

end CouncilKit.Data
