import CouncilKit.Auto.RequestPublish

namespace CouncilKit.Auto

open Data Repair Review Dialogue List Except

section

variable {taskId : JsString} {identity expected : FrozenIntegrateIdentity} {trace : BridgeTrace}
  {outcome : Except JsString SquadBridgePublishResult}

def isPush : Question → Bool
  | .squadctl (command :: verb :: _) => command = js "integrate" && verb = js "push-remote"
  | _ => false

def NotPush (question : Question) : Prop := isPush question = false

def Quiet (trace : BridgeTrace) : Prop := ∀ exchange ∈ trace, NotPush exchange.question

theorem Quiet.append {first rest : BridgeTrace} (before : Quiet first) (after : Quiet rest) :
    Quiet (first ++ rest) := by
  intro exchange member
  rcases mem_append.mp member with early | late
  · exact before exchange early
  · exact after exchange late

variable {argv : List JsString}

variable [Unicode]

variable [BridgeText]

def Receives (reply : Except JsString Output) (expected : FrozenIntegrateIdentity) : Prop :=
  ∃ output row, reply = .ok output ∧ output.succeeded = true ∧
    jsonParseEmbedded output.stdout = .object row ∧ ReceiptBinds row expected .pushRemote

def Refuses (outcome : Except JsString SquadBridgePublishResult) : Prop :=
  ∀ receipt, outcome ≠ .ok (.published receipt)

/-- A part of the publish: it pushes not at all, or with its last question, and
then what came before was good. -/
inductive PushesLast (good : BridgeTrace → FrozenIntegrateIdentity → Prop) :
    BridgeTrace → Except JsString SquadBridgePublishResult → Prop where
  | quiet {trace : BridgeTrace} {outcome : Except JsString SquadBridgePublishResult}
      (calm : Quiet trace) (refused : Refuses outcome) : PushesLast good trace outcome
  | pushes {before : BridgeTrace} {argv : List JsString} {reply : Except JsString Output}
      {outcome : Except JsString SquadBridgePublishResult} {expected : FrozenIntegrateIdentity}
      (push : isPush (.squadctl argv) = true) (calm : Quiet before) (met : good before expected)
      (received : ∀ receipt, outcome = .ok (.published receipt) → Receives reply expected) :
      PushesLast good (before ++ [⟨.squadctl argv, reply⟩]) outcome

variable {good : BridgeTrace → FrozenIntegrateIdentity → Prop}

theorem PushesLast.after {first : BridgeTrace} (calm : Quiet first)
    (pushes : PushesLast (fun before expected => good (first ++ before) expected) trace outcome) :
    PushesLast good (first ++ trace) outcome := by
  cases pushes with
  | quiet rest refused => exact .quiet (calm.append rest) refused
  | pushes push rest met received =>
    rw [← append_assoc]
    exact .pushes push (calm.append rest) met received

theorem PushesLast.bind {α : Type} {dialogue : Bridge α}
    {rest : α → Bridge SquadBridgePublishResult} (calm : dialogue.Asks NotPush)
    (later : ∀ value first trace, dialogue.Plays first (.ok value) → (rest value).Plays trace outcome →
      PushesLast (fun before expected => good (first ++ before) expected) trace outcome)
    (played : (dialogue >>= rest).Plays trace outcome) : PushesLast good trace outcome := by
  rcases plays_bind.mp played with failed | went
  · obtain ⟨failure, stopped, same⟩ := failed
    subst same
    exact .quiet (stopped.asks calm) nofun
  · obtain ⟨value, first, after, split, before, ends⟩ := went
    subst split
    exact .after (before.asks calm) (later value first after before ends)

variable {output : Output}

variable {taskDir workspace : JsString}

variable {event : SquadEvent} {delivery : SquadBridgeDelivery} {frozen : SquadPrProfile}

section

omit [Unicode] [BridgeText]

end

omit [Unicode] [BridgeText] in
theorem quiet_count {trace : BridgeTrace} (calm : Quiet trace) :
    trace.countP (fun exchange => isPush exchange.question) = 0 := by
  rw [countP_eq_zero]
  intro exchange member
  rw [calm exchange member]
  exact Bool.false_ne_true

section

variable (pushes : PushesLast good trace outcome)

include pushes

theorem PushesLast.count : trace.countP (fun exchange => isPush exchange.question) ≤ 1 := by
  cases pushes with
  | quiet calm => rw [quiet_count calm]; omega
  | pushes push calm =>
    rw [countP_append, quiet_count calm]
    exact (Nat.zero_add _).le.trans countP_le_length

theorem PushesLast.met {before after : BridgeTrace} {exchange : Exchange Answer JsString}
    (split : trace = before ++ exchange :: after) (push : isPush exchange.question = true) :
    ∃ expected, good before expected := by
  have loud {calmed : BridgeTrace} (calm : Quiet calmed) (member : exchange ∈ calmed) : False := by
    have quiet := calm exchange member
    rw [NotPush, push] at quiet
    cases quiet
  cases pushes with
  | quiet calm => exact (loud calm (by simp [split])).elim
  | pushes _ calm met =>
    rcases append_eq_append_iff.mp split with inside | beyond
    · obtain ⟨more, longer, last⟩ := inside
      cases more with
      | nil =>
        rw [longer, append_nil]
        exact ⟨_, met⟩
      | cons head tail => simp at last
    · obtain ⟨more, longer, shorter⟩ := beyond
      cases more with
      | nil =>
        rw [append_nil] at longer
        exact ⟨_, longer ▸ met⟩
      | cons head tail =>
        have here : exchange = head := (cons.inj shorter).1
        exact (loud calm (by simp [longer, here])).elim

theorem PushesLast.received {receipt : PublishReceipt}
    (published : outcome = .ok (.published receipt)) :
    ∃ before argv reply expected, trace = before ++ [⟨.squadctl argv, reply⟩] ∧
      isPush (.squadctl argv) = true ∧ good before expected ∧ Receives reply expected := by
  cases pushes with
  | quiet _ refused => exact absurd published (refused receipt)
  | pushes push calm met received =>
    exact ⟨_, _, _, _, rfl, push, met, received receipt published⟩

end

end

end CouncilKit.Auto
