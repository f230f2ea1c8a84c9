import CouncilKit.Data.Fallible

namespace CouncilKit.Data

inductive Dialogue (Question : Type) (Answer : Question → Type) (ε α : Type) where
  | done (outcome : Except ε α)
  | ask (question : Question) (next : Except ε (Answer question) → Dialogue Question Answer ε α)

namespace Dialogue

variable {Question : Type} {Answer : Question → Type} {ε α β : Type}

def bind : Dialogue Question Answer ε α → (α → Dialogue Question Answer ε β) →
    Dialogue Question Answer ε β
  | .done (.error failure), _ => .done (.error failure)
  | .done (.ok value), rest => rest value
  | .ask question next, rest => .ask question fun reply => (next reply).bind rest

instance : Monad (Dialogue Question Answer ε) where
  pure value := .done (.ok value)
  bind := Dialogue.bind

def perform (question : Question) : Dialogue Question Answer ε (Answer question) :=
  .ask question .done

def raise (failure : ε) : Dialogue Question Answer ε α := .done (.error failure)

/-- `try`, `catch` -/
def recover : Dialogue Question Answer ε α → (ε → Dialogue Question Answer ε α) →
    Dialogue Question Answer ε α
  | .done (.error failure), handler => handler failure
  | .done (.ok value), _ => .done (.ok value)
  | .ask question next, handler => .ask question fun reply => (next reply).recover handler

structure Exchange (Answer : Question → Type) (ε : Type) where
  question : Question
  reply : Except ε (Answer question)

/-- The exchanges of one way through a dialogue, and its outcome. -/
inductive Plays : Dialogue Question Answer ε α → List (Exchange Answer ε) → Except ε α → Prop where
  | done (outcome : Except ε α) : Plays (.done outcome) [] outcome
  | ask {question : Question} {next : Except ε (Answer question) → Dialogue Question Answer ε α}
      {reply : Except ε (Answer question)} {rest : List (Exchange Answer ε)}
      {outcome : Except ε α} (played : Plays (next reply) rest outcome) :
      Plays (.ask question next) (⟨question, reply⟩ :: rest) outcome

variable {dialogue : Dialogue Question Answer ε α} {rest : α → Dialogue Question Answer ε β}
  {trace : List (Exchange Answer ε)}

variable {outcome : Except ε α}

@[simp] theorem plays_done {ended : Except ε α} :
    (Dialogue.done ended : Dialogue Question Answer ε α).Plays trace outcome ↔
      trace = [] ∧ outcome = ended := by
  constructor
  · intro played
    cases played
    exact ⟨rfl, rfl⟩
  · intro ends
    obtain ⟨noTrace, same⟩ := ends
    subst noTrace same
    exact .done _

variable {question : Question}

theorem plays_ask {next : Except ε (Answer question) → Dialogue Question Answer ε α} :
    (Dialogue.ask question next).Plays trace outcome ↔
      ∃ reply later, trace = ⟨question, reply⟩ :: later ∧ (next reply).Plays later outcome := by
  constructor
  · intro played
    cases played with
    | ask played => exact ⟨_, _, rfl, played⟩
  · intro asked
    obtain ⟨reply, later, split, played⟩ := asked
    subst split
    exact .ask played

@[simp] theorem plays_raise {failure : ε} :
    (raise failure : Dialogue Question Answer ε α).Plays trace outcome ↔
      trace = [] ∧ outcome = .error failure :=
  plays_done

theorem plays_bind {outcome : Except ε β} :
    (dialogue >>= rest).Plays trace outcome ↔
      (∃ failure, dialogue.Plays trace (.error failure) ∧ outcome = .error failure) ∨
      ∃ value before after, trace = before ++ after ∧ dialogue.Plays before (.ok value) ∧
        (rest value).Plays after outcome := by
  change (dialogue.bind rest).Plays trace outcome ↔ _
  induction dialogue generalizing trace with
  | done ended =>
    cases ended with
    | error failure => simp [Dialogue.bind]
    | ok value => simp [Dialogue.bind]
  | ask question next ih =>
    rw [Dialogue.bind, plays_ask]
    constructor
    · intro asked
      obtain ⟨reply, later, split, played⟩ := asked
      subst split
      rcases (ih reply).mp played with failed | went
      · obtain ⟨failure, stopped, same⟩ := failed
        exact .inl ⟨failure, .ask stopped, same⟩
      · obtain ⟨value, before, after, split, first, second⟩ := went
        subst split
        exact .inr ⟨value, _ :: before, after, rfl, .ask first, second⟩
    · intro parts
      rcases parts with failed | went
      · obtain ⟨failure, stopped, same⟩ := failed
        obtain ⟨reply, later, split, played⟩ := plays_ask.mp stopped
        exact ⟨reply, later, split, (ih reply).mpr (.inl ⟨failure, played, same⟩)⟩
      · obtain ⟨value, before, after, split, first, second⟩ := went
        obtain ⟨reply, later, split', played⟩ := plays_ask.mp first
        subst split split'
        exact ⟨reply, later ++ after, rfl, (ih reply).mpr (.inr ⟨value, later, after, rfl, played, second⟩)⟩

def Asks (allowed : Question → Prop) : Dialogue Question Answer ε α → Prop
  | .done _ => True
  | .ask question next => allowed question ∧ ∀ reply, (next reply).Asks allowed

variable {allowed : Question → Prop}

theorem Asks.bind (first : dialogue.Asks allowed) (later : ∀ value, (rest value).Asks allowed) :
    (dialogue >>= rest).Asks allowed := by
  change (dialogue.bind rest).Asks allowed
  induction dialogue with
  | done ended =>
    cases ended with
    | error failure => trivial
    | ok value => exact later value
  | ask question next ih => exact ⟨first.1, fun reply => ih reply (first.2 reply)⟩

theorem Asks.recover {handler : ε → Dialogue Question Answer ε α} (first : dialogue.Asks allowed)
    (handled : ∀ failure, (handler failure).Asks allowed) : (dialogue.recover handler).Asks allowed := by
  induction dialogue with
  | done ended =>
    cases ended with
    | error failure => exact handled failure
    | ok value => trivial
  | ask question next ih => exact ⟨first.1, fun reply => ih reply (first.2 reply)⟩

theorem Plays.asks (played : dialogue.Plays trace outcome)
    (asks : dialogue.Asks allowed) : ∀ exchange ∈ trace, allowed exchange.question := by
  induction played with
  | done => simp
  | ask played ih =>
    intro exchange member
    rcases List.mem_cons.mp member with here | later
    · subst here
      exact asks.1
    · exact ih (asks.2 _) exchange later

/-- The exchanges with a world that always gives a question the same reply. -/
def run (world : ∀ question, Except ε (Answer question)) :
    Dialogue Question Answer ε α → List (Exchange Answer ε) × Except ε α
  | .done outcome => ([], outcome)
  | .ask question next =>
    let later := (next (world question)).run world
    (⟨question, world question⟩ :: later.1, later.2)

end Dialogue

end CouncilKit.Data
