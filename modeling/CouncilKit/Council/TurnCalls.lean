import CouncilKit.Council.ExecuteTurn

namespace CouncilKit.Council

open Option

inductive TurnProgress where
  | unsent | open_ | closed

namespace TurnPhase

def progress : TurnPhase → TurnProgress
  | .connecting => .unsent
  | .executing | .probing _ | .cancelling _ | .observing .. | .following .. | .checking ..
  | .persisting _ => .open_
  | .cleaning _ | .acking .. | .finished _ | .rejected => .closed

def claimsCompleted : TurnPhase → Bool
  | .acking verdict _ _ => verdict = .completed
  | .finished result => result.verdict = .completed
  | _ => false

end TurnPhase

namespace Turn

variable {turn next settled : Turn} {label : TurnLabel} {calls : List HostCall}

/-- A step that sends nothing: the turn goes on as it was or ends, and claims no
completion of its own. -/
structure Silent (turn next : Turn) : Prop where
  same : next.executionId = turn.executionId
  progress : next.phase.progress = turn.phase.progress ∨ next.phase.progress = .closed
  claims : next.phase.claimsCompleted = true → turn.phase.claimsCompleted = true

structure Acks (turn : Turn) (label : TurnLabel) (next : Turn) (disposition : AckDisposition) :
    Prop where
  same : next.executionId = turn.executionId
  before : turn.phase.progress = .open_
  after : next.phase.progress = .closed
  persisted : disposition = .committed → label = .persisted none
  claims : next.phase.claimsCompleted = true → disposition = .committed

inductive Sends (turn : Turn) (label : TurnLabel) (next : Turn) : List HostCall → Prop where
  | nothing (silent : Silent turn next) : Sends turn label next []
  | execute (same : next.executionId = turn.executionId) (before : turn.phase.progress = .unsent)
      (after : next.phase.progress = .open_) (claims : next.phase.claimsCompleted = false) :
      Sends turn label next [.execute]
  | cancel (same : next.executionId = turn.executionId) (before : turn.phase.progress = .open_)
      (after : next.phase.progress = .open_) (claims : next.phase.claimsCompleted = false) :
      Sends turn label next [.cancel]
  | ack (disposition : AckDisposition) (finalSeq : Nat) (acks : Acks turn label next disposition) :
      Sends turn label next [.ack disposition finalSeq]

theorem abortVerdict_ne : turn.abortVerdict ≠ .completed := by
  unfold abortVerdict
  split <;> simp

variable {verdict : TurnVerdict} {error : Option TurnError} {terminal : Option TerminalEvidence}

section

variable (same : settled.executionId = turn.executionId)

include same

theorem finish_silent (claims : verdict = .completed → turn.phase.claimsCompleted = true) :
    Silent turn (settled.finish verdict error terminal) where
  same := same
  progress := .inr rfl
  claims claimed := claims (by simpa [finish, goto, make, TurnPhase.claimsCompleted] using claimed)

theorem finishCleanup_silent {cause : CleanupCause} :
    Silent turn (settled.finishCleanup cause) := by
  unfold finishCleanup
  split
  · exact finish_silent same (by simp)
  · exact finish_silent same fun claimed => absurd claimed abortVerdict_ne

theorem finishAcked_silent (claims : verdict = .completed → turn.phase.claimsCompleted = true) :
    Silent turn (settled.finishAcked verdict terminal error) := by
  unfold finishAcked
  split
  · exact finish_silent same fun claimed => absurd claimed abortVerdict_ne
  · exact finish_silent same claims

end

theorem settleAck_same (turn : Turn) (answer : AckAnswer) :
    (turn.settleAck answer).1.executionId = turn.executionId := by
  cases answer with
  | acknowledged => rfl
  | refused => rfl
  | threw abortError =>
    simp only [settleAck]
    split <;> rfl

theorem goto_silent {phase : TurnPhase} (same : settled.executionId = turn.executionId)
    (progress : phase.progress = turn.phase.progress ∨ phase.progress = .closed)
    (claims : phase.claimsCompleted = false) : Silent turn (settled.goto phase) where
  same := same
  progress := progress
  claims claimed := by
    rw [goto] at claimed
    rw [claims] at claimed
    cases claimed

theorem sendAck_sends (turn : Turn) {disposition : AckDisposition} {finalSeq : Nat}
    (sent : settled.sendAck disposition finalSeq verdict terminal error = (next, calls))
    (same : settled.executionId = turn.executionId) (before : turn.phase.progress = .open_)
    (persisted : disposition = .committed → label = .persisted none)
    (claims : verdict = .completed → disposition = .committed) : Sends turn label next calls := by
  cases sent
  exact .ack _ _ ⟨same, before, rfl, persisted, fun claimed => claims (by
    simpa [goto, TurnPhase.claimsCompleted] using claimed)⟩

theorem startCleanup_sends {cause : CleanupCause} (sent : settled.startCleanup cause = (next, calls))
    (same : settled.executionId = turn.executionId) (before : turn.phase.progress = .open_) :
    Sends turn label next calls := by
  cases sent
  exact .cancel same before rfl rfl

theorem onTerminal_sends {event : TerminalEvent} (sent : turn.onTerminal event = (next, calls))
    (before : turn.phase.progress = .open_) : Sends turn label next calls := by
  cases event with
  | completed evidence =>
    rw [onTerminal] at sent
    split at sent
    · exact sendAck_sends turn sent rfl before (by simp) (by simp)
    · cases sent
      exact .nothing (goto_silent rfl (.inl before.symm) rfl)
  | failed dispatchState error seq =>
    exact sendAck_sends turn sent rfl before (by simp) (by simp)
  | interrupted dispatchState error seq =>
    exact sendAck_sends turn sent rfl before (by simp) (by simp)

theorem step_sends (stepped : turn.step label = some (next, calls)) : Sends turn label next calls := by
  have opened {phase : TurnPhase} (here : turn.phase = phase) (is : phase.progress = .open_) :
      turn.phase.progress = .open_ := by rw [here, is]
  unfold step at stepped
  split at stepped
  case h_1 | h_2 | h_24 => cases stepped
  case h_3 =>
    -- an abort
    cases stepped
    exact .nothing ⟨rfl, .inl rfl, id⟩
  case h_4 here =>
    cases stepped
    exact .execute rfl (by rw [here]; rfl) rfl rfl
  case h_5 => 
      cases stepped
      exact .nothing (goto_silent rfl (.inr rfl) rfl)
  case h_6 here =>
    cases stepped
    exact .nothing ⟨rfl, .inl (opened here rfl).symm, fun claimed => by cases claimed⟩
  case h_7 here | h_11 here =>
    cases stepped
    exact .nothing (goto_silent rfl (.inl (opened here rfl).symm) rfl)
  case h_8 | h_14 =>
    cases stepped
    exact .nothing (finishCleanup_silent rfl)
  case h_9 here | h_10 here =>
    exact startCleanup_sends (some.inj stepped) rfl (opened here rfl)
  case h_12 here =>
    cases stepped
    exact .ack _ _ ⟨rfl, opened here rfl, rfl, by simp, fun claimed => by cases claimed⟩
  case h_13 here =>
    split at stepped
    · cases stepped
      exact .nothing (goto_silent rfl (.inl (opened here rfl).symm) rfl)
    · cases stepped
      exact .nothing (finishCleanup_silent rfl)
  case h_15 answer _ =>
    have same := settleAck_same turn answer
    generalize turn.settleAck answer = pair at same stepped
    obtain ⟨settled, fine⟩ := pair
    cases stepped
    cases fine with
    | true => exact .nothing (finishCleanup_silent same)
    | false => exact .nothing (finish_silent same (by simp))
  case h_16 here => exact onTerminal_sends (some.inj stepped) (opened here rfl)
  case h_17 here =>
    split at stepped
    · exact startCleanup_sends (some.inj stepped) rfl (opened here rfl)
    · cases stepped
  case h_18 here =>
    cases stepped
    exact .nothing (goto_silent rfl (.inl (opened here rfl).symm) rfl)
  case h_19 =>
    cases stepped
    split
    · exact .nothing (finish_silent rfl fun claimed => absurd claimed abortVerdict_ne)
    · exact .nothing (finish_silent rfl (by simp))
  case h_20 here =>
    split at stepped
    · exact startCleanup_sends (some.inj stepped) rfl (opened here rfl)
    · split at stepped
      · cases stepped
        exact .nothing (goto_silent rfl (.inl (opened here rfl).symm) rfl)
      · cases stepped
        exact .nothing (finish_silent rfl (by simp))
  case h_21 here =>
    exact sendAck_sends turn (some.inj stepped) rfl (opened here rfl) (fun _ => rfl) fun _ => rfl
  case h_22 here =>
    exact sendAck_sends turn (some.inj stepped) rfl (opened here rfl) (by simp) (by simp)
  case h_23 verdict _ _ answer here =>
    have same := settleAck_same turn answer
    have claims : verdict = .completed → turn.phase.claimsCompleted = true := by
      intro completed
      rw [here]
      simpa [TurnPhase.claimsCompleted] using completed
    generalize turn.settleAck answer = pair at same stepped
    obtain ⟨settled, fine⟩ := pair
    cases stepped
    cases fine with
    | true => exact .nothing (finishAcked_silent same claims)
    | false => exact .nothing (finishAcked_silent same (by simp))

end Turn

end CouncilKit.Council
