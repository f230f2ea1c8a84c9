import CouncilKit.Data.Transition
import CouncilKit.Host.CodexCalm

namespace CouncilKit.Host.Codex

open Data List Option

/-- The record of the turn at a place; `owns` asks that its frames are its own. -/
structure Recorded (owns : Bool) (place : Nat) (settled : Bool) (emitted : List Emission)
    (texts : List (Option Nat × JsString)) : Prop where
  unended : settled = false → ∀ emission ∈ emitted, emission.event.isTerminalEvent = false
  ended : settled = true → ∃ front last, emitted = front ++ [last] ∧
    ∀ emission ∈ front, emission.event.isTerminalEvent = false
  deltas : ∀ emission ∈ emitted, ∀ text, emission.event = .outputDelta text →
    emission.frame.isSome
  outputs : ∀ emission ∈ emitted, ∀ output modelId tools details,
    emission.event = .completed output modelId tools details →
      emission.frame.isSome ∧ output = texts.flatMap (·.2)
  frames : owns = true → ∀ emission ∈ emitted, ∀ origin, emission.frame = some origin → origin = some place
  texts : owns = true → ∀ piece ∈ texts, piece.2 ≠ [] → piece.1 = some place

namespace ActiveTurn

def Sound (owns : Bool) (place : Nat) (turn : ActiveTurn) : Prop :=
  Recorded owns place turn.settled turn.emitted turn.agentTexts

variable {owns : Bool} {place : Nat} {turn : ActiveTurn}

theorem emitted_snoc {holds : Emission → Prop} {event : DriverEvent} {frame : Option (Option Nat)}
    (before : ∀ emission ∈ turn.emitted, holds emission) (new : holds ⟨event, frame⟩) :
    ∀ emission ∈ (turn.emit event frame).emitted, holds emission := by
  intro emission member
  rcases mem_append.mp member with old | last
  · exact before emission old
  · rwa [mem_singleton.mp last]

variable (sound : turn.Sound owns place) (open_ : turn.settled = false)

include sound open_

theorem sound_emit {event : DriverEvent} {frame : Option (Option Nat)}
    (going : event.isTerminalEvent = false)
    (framed : ∀ text, event = .outputDelta text → frame.isSome)
    (own : owns = true → ∀ origin, frame = some origin → origin = some place) :
    (turn.emit event frame).Sound owns place := by
  constructor
  · exact fun _ => emitted_snoc (sound.unended open_) going
  · intro settled
    have same : turn.settled = true := settled
    rw [open_] at same
    contradiction
  · exact emitted_snoc sound.deltas framed
  · refine emitted_snoc sound.outputs fun output modelId tools details completes => ?_
    have event_ : event = .completed output modelId tools details := completes
    rw [event_] at going
    contradiction
  · exact fun owned => emitted_snoc (sound.frames owned) (own owned)
  · exact sound.texts

theorem sound_addText {origin : Option Nat} {text : JsString}
    (own : owns = true → text ≠ [] → origin = some place) :
    ActiveTurn.Sound owns place { turn with agentTexts := turn.agentTexts ++ [(origin, text)] } := by
  refine ⟨sound.unended, sound.ended, sound.deltas, ?_, sound.frames, ?_⟩
  · intro emission member output modelId tools details completes
    have going := sound.unended open_ emission member
    rw [completes] at going
    contradiction
  · intro owned piece member written
    rw [mem_append, mem_singleton] at member
    cases member with
    | inl old => exact sound.texts owned piece old written
    | inr new =>
      rw [new] at written ⊢
      exact own owned written

theorem sound_settle {event : DriverEvent} {frame : Option (Option Nat)}
    (ends : event.isTerminalEvent = true)
    (completes : ∀ output modelId tools details, event = .completed output modelId tools details → frame.isSome ∧ output = turn.agentText)
    (own : owns = true → ∀ origin, frame = some origin → origin = some place) :
    ({ turn.clearTurnTimers with settled := true }.emit event frame).Sound owns place := by
  constructor
  · exact nofun
  · intro _
    exact ⟨turn.emitted, ⟨event, frame⟩, rfl, sound.unended open_⟩
  · refine emitted_snoc sound.deltas fun text isDelta => ?_
    have event_ : event = .outputDelta text := isDelta
    rw [event_] at ends
    contradiction
  · exact emitted_snoc sound.outputs completes
  · exact fun owned => emitted_snoc (sound.frames owned) (own owned)
  · exact sound.texts

end ActiveTurn

namespace CodexDriver

/-- The turns are sound, and the active one has not ended. -/
structure Sound (owns : Bool) (driver : CodexDriver) : Prop where
  turns : ∀ {place : Nat} {turn : ActiveTurn}, driver.turns[place]? = some turn → turn.Sound owns place
  active : ∀ {place : Nat}, driver.activeTurn = some place →
    ∃ turn, driver.turns[place]? = some turn ∧ turn.settled = false

variable {owns : Bool} {driver next : CodexDriver} {place : Nat} {turn old : ActiveTurn}

section

variable (sound : driver.Sound owns)

include sound

theorem Sound.same (turns : next.turns = driver.turns)
    (activeTurn : next.activeTurn = driver.activeTurn) : next.Sound owns := by
  constructor
  · intro place turn found
    rw [turns] at found
    exact sound.turns found
  · intro place active
    rw [activeTurn] at active
    rw [turns]
    exact sound.active active

theorem Sound.calm (calm : Calm driver next) : next.Sound owns :=
  sound.same calm.turns calm.activeTurn

section

variable (found : driver.turns[place]? = some old)

include found

theorem Sound.turns_set {other : Nat} {stands : ActiveTurn} (sounds : turn.Sound owns place)
    (there : (driver.turns.set place turn)[other]? = some stands) : stands.Sound owns other := by
  by_cases same : other = place
  · subst same
    rw [List.getElem?_set_self (List.getElem?_eq_some_iff.mp found).1, some_inj] at there
    exact there ▸ sounds
  · rw [List.getElem?_set_ne (Ne.symm same)] at there
    exact sound.turns there

theorem Sound.setTurn (settled : turn.settled = old.settled) (sounds : turn.Sound owns place) :
    (driver.setTurn place turn).Sound owns := by
  constructor
  · intro other stands there
    exact sound.turns_set found sounds there
  · intro other active
    obtain ⟨stands, there, open_⟩ := sound.active active
    by_cases same : other = place
    · subst same
      rw [found, some_inj] at there
      refine ⟨turn, List.getElem?_set_self (List.getElem?_eq_some_iff.mp found).1, ?_⟩
      rw [settled, there, open_]
    · exact ⟨stands, (List.getElem?_set_ne (Ne.symm same)).trans there, open_⟩

theorem Sound.retouch (settled : turn.settled = old.settled) (emitted : turn.emitted = old.emitted)
    (texts : turn.agentTexts = old.agentTexts) : (driver.setTurn place turn).Sound owns := by
  refine sound.setTurn found settled ?_
  rw [ActiveTurn.Sound, settled, emitted, texts]
  exact sound.turns found

end

theorem Sound.onActive {change : ActiveTurn → ActiveTurn}
    (changes : ∀ {place turn}, driver.activeTurn = some place → driver.turns[place]? = some turn → turn.settled = false → turn.Sound owns place → (change turn).settled = false ∧ (change turn).Sound owns place) :
    (driver.onActive change).Sound owns := by
  rw [CodexDriver.onActive]
  split
  · exact sound
  · rename_i place active
    split
    · exact sound
    · rename_i turn found
      obtain ⟨stands, there, open_⟩ := sound.active active
      rw [found, some_inj] at there
      subst there
      obtain ⟨stillOpen, sounds⟩ := changes active found open_ (sound.turns found)
      exact sound.setTurn found (stillOpen.trans open_.symm) sounds

end

variable {frame : Option (Option Nat)}

section

variable (sound : driver.Sound owns)

include sound

theorem Sound.emitTerminal {event : ActiveTurn → DriverEvent}
    (ends : ∀ turn, (event turn).isTerminalEvent = true)
    (completes : ∀ turn output modelId tools details, event turn = .completed output modelId tools details → frame.isSome ∧ output = turn.agentText)
    (own : owns = true → ∀ origin, frame = some origin → origin = some place) :
    (driver.emitTerminal place event frame).Sound owns := by
  rw [CodexDriver.emitTerminal]
  split
  · exact sound
  · rename_i turn found
    split
    · exact sound
    · rename_i unsettled
      have open_ : turn.settled = false := eq_false_of_ne_true unsettled
      have sounds := ActiveTurn.sound_settle (sound.turns found) open_ (ends turn) (completes turn) own
      constructor
      · intro other stands there
        exact sound.turns_set found sounds there
      · intro other active
        simp only [CodexDriver.setTurn] at active ⊢
        split at active
        · contradiction
        · rename_i apart
          have different : place ≠ other := by
            intro same
            exact apart (same ▸ active)
          obtain ⟨stands, there, stillOpen⟩ := sound.active active
          exact ⟨stands, (List.getElem?_set_ne different).trans there, stillOpen⟩

theorem Sound.failTurn {error : ActiveTurn → RuntimeError}
    (own : owns = true → ∀ origin, frame = some origin → origin = some place) :
    (driver.failTurn place error frame).Sound owns :=
  sound.emitTerminal (fun _ => rfl) (fun _ _ _ _ _ completed => by cases completed) own

theorem Sound.failWith {code message : JsString} {phase : ErrorPhase}
    (own : owns = true → ∀ origin, frame = some origin → origin = some place) :
    (driver.failWith place code phase message frame).Sound owns :=
  sound.failTurn own

theorem Sound.interruptTurn {reason : JsString}
    (own : owns = true → ∀ origin, frame = some origin → origin = some place) :
    (driver.interruptTurn place reason frame).Sound owns :=
  sound.emitTerminal (fun _ => rfl) (fun _ _ _ _ _ completed => by cases completed) own

end

theorem Sound.failedBeside {error : ActiveTurn → RuntimeError} (sound : driver.Sound owns) :
    (driver.failTurn place error none).Sound owns := sound.failTurn nofun

theorem Sound.interruptedBeside {reason : JsString} (sound : driver.Sound owns) :
    (driver.interruptTurn place reason none).Sound owns := sound.interruptTurn nofun

variable {origin : Option Nat} {params : Json}

section

variable (sound : driver.Sound owns)

include sound

theorem Sound.handleTurnCompleted (own : owns = true → origin = some place) :
    (driver.handleTurnCompleted place origin params).Sound owns := by
  have framed : owns = true → ∀ source, some origin = some source → source = some place := by
    intro owned source same
    rw [← some_inj.mp same]
    exact own owned
  rw [CodexDriver.handleTurnCompleted]
  split
  · exact sound
  · simp only
    split
    · exact sound.interruptTurn framed
    · split
      · split
        · exact sound
        · exact sound.failWith framed
      · split
        · exact sound.failWith framed
        · refine sound.emitTerminal (fun _ => rfl) ?_ framed
          intro turn output modelId tools details completed
          simp only [completedEvent, DriverEvent.completed.injEq] at completed
          exact ⟨rfl, completed.1.symm⟩

theorem Sound.compacted : driver.compacted.Sound owns := by
  have drops {settled : CodexDriver} (sounds : settled.Sound owns) :
      CodexDriver.Sound owns { settled with
        sessionEpoch := settled.sessionEpoch + 1, threadId := none } :=
    sounds.same rfl rfl
  simp only [CodexDriver.compacted]
  split
  · split
    · exact drops sound.failedBeside
    · exact drops sound
  · exact drops sound

theorem Sound.serverError : (driver.serverError params).Sound owns := by
  simp only [CodexDriver.serverError]
  split
  · split
    · exact sound.failedBeside
    · exact sound
  · exact sound

theorem Sound.tokenUsage : (driver.tokenUsage params).Sound owns := by
  have notes : (driver.onActive fun turn =>
      turn.noteUsage (memberAt (memberOf params (js "tokenUsage")) (js "last"))).Sound owns := by
    refine sound.onActive fun _ _ open_ sounds => ?_
    rw [ActiveTurn.noteUsage]
    split
    · exact ⟨open_, sounds⟩
    · exact ⟨open_, sounds⟩
  simp only [CodexDriver.tokenUsage]
  split
  · split
    · exact notes.same rfl rfl
    · exact notes
  · split
    · exact notes
    · exact notes.same rfl rfl
  · exact notes

end

theorem sound_noteToolActivity {kind itemType : JsString} (sound : turn.Sound owns place)
    (open_ : turn.settled = false) : (turn.noteToolActivity kind itemType).Sound owns place := by
  have noted : ({ turn with
      sawToolActivity := true
      toolState := if turn.toolState = ToolState.none then .active else turn.toolState } :
        ActiveTurn).Sound owns place := sound
  refine ActiveTurn.sound_emit noted open_ rfl ?_ ?_
  · intro text isDelta
    cases isDelta
  · exact nofun

def speaks (turn : ActiveTurn) (method : JsString) (params : Json) : Bool :=
  if method = js "item/agentMessage/delta" then
    (stringOrNull (memberOf params (js "delta"))).any (· ≠ [])
  else if method = js "item/completed" then
    (stringOrNull (memberAt (memberOf params (js "item")) (js "type"))).any TEXT_ITEM_TYPES &&
      (stringOrNull (memberAt (memberOf params (js "item")) (js "text"))).any (· ≠ [])
  else if method = js "turn/completed" then completionMatches turn params
  else false

theorem onActive_activeTurn (change : ActiveTurn → ActiveTurn) :
    (driver.onActive change).activeTurn = driver.activeTurn := by
  rw [onActive]
  split
  · rfl
  · split <;> rfl

theorem onActive_found {change : ActiveTurn → ActiveTurn} (active : driver.activeTurn = some place)
    (found : driver.turns[place]? = some turn) :
    (driver.onActive change).turns[place]? = some (change turn) := by
  simp only [onActive, active, found, setTurn]
  exact List.getElem?_set_self (List.getElem?_eq_some_iff.mp found).1

/-- The frames a notification that speaks of the active turn may come with. -/
def Speaks (driver : CodexDriver) (origin : Option Nat) (method : JsString) (params : Json) : Prop :=
  ∀ place turn, driver.activeTurn = some place → driver.turns[place]? = some turn →
    speaks turn method params = true → origin = some place

theorem Sound.armed (sound : driver.Sound owns) : (driver.onActive (·.armIdleTimer)).Sound owns := by
  refine sound.onActive fun _ _ open_ sounds => ?_
  rw [ActiveTurn.armIdleTimer]
  split
  · exact ⟨open_, sounds⟩
  · exact ⟨open_, sounds⟩

theorem speaks_armed (method : JsString) (params : Json) :
    speaks turn.armIdleTimer method params = speaks turn method params := by
  have same : completionMatches turn.armIdleTimer params = completionMatches turn params := by
    rw [ActiveTurn.armIdleTimer]
    split <;> rfl
  simp only [speaks, same]

variable {method : JsString}

section

variable (sound : driver.Sound owns)

include sound

theorem Speaks.armed (spoken : driver.Speaks origin method params) :
    (driver.onActive (·.armIdleTimer)).Speaks origin method params := by
  intro place turn active found speaking
  rw [onActive_activeTurn] at active
  obtain ⟨old, there, -⟩ := sound.active active
  rw [onActive_found active there, some_inj] at found
  rw [← found, speaks_armed] at speaking
  exact spoken place old active there speaking

theorem Sound.delta {delta : JsString} (written : delta ≠ [])
    (named : method = js "item/agentMessage/delta")
    (read : stringOrNull (memberOf params (js "delta")) = some delta)
    (spoken : owns = true → driver.Speaks origin method params) :
    (driver.onActive fun turn => turn.emit (.outputDelta delta) (some origin)).Sound owns := by
  refine sound.onActive fun active found open_ sounds => ⟨open_, ?_⟩
  refine ActiveTurn.sound_emit sounds open_ rfl (fun _ _ => rfl) ?_
  intro owned source same
  rw [← some_inj.mp same]
  refine spoken owned _ _ active found ?_
  simp [speaks, named, read, written]

theorem Sound.itemCompleted (named : method = js "item/completed")
    (spoken : owns = true → driver.Speaks origin method params) :
    (driver.onActive fun turn => turn.handleItemCompleted origin params).Sound owns := by
  refine sound.onActive fun active found open_ sounds => ?_
  simp only [ActiveTurn.handleItemCompleted]
  split
  · exact ⟨open_, sounds⟩
  · rename_i itemType typed
    split
    · rename_i isText
      split
      · rename_i text read
        refine ⟨open_, ActiveTurn.sound_addText sounds open_ fun owned written => ?_⟩
        refine spoken owned _ _ active found ?_
        have other : method ≠ js "item/agentMessage/delta" := by
          rw [named]
          decide
        rw [speaks, if_neg other, if_pos named, typed, read]
        simp [isText, written]
      · exact ⟨open_, sounds⟩
    · split
      · exact ⟨open_, sound_noteToolActivity sounds open_⟩
      · exact ⟨open_, sounds⟩

theorem Sound.turnCompleted (named : method = js "turn/completed")
    (active : driver.activeTurn = some place)
    (accepted : driver.turns[place]?.any (completionMatches · params) = true)
    (spoken : owns = true → driver.Speaks origin method params) :
    (driver.handleTurnCompleted place origin params).Sound owns := by
  refine sound.handleTurnCompleted fun owned => ?_
  obtain ⟨turn, found, -⟩ := sound.active active
  rw [found, any_some] at accepted
  refine spoken owned place turn active found ?_
  have notDelta : method ≠ js "item/agentMessage/delta" := by
    rw [named]
    decide
  have notItem : method ≠ js "item/completed" := by
    rw [named]
    decide
  rw [speaks, if_neg notDelta, if_neg notItem, if_pos named, accepted]

theorem Sound.handleNotification (spoken : owns = true → driver.Speaks origin method params) :
    (driver.handleNotification origin method params).Sound owns := by
  have armed := sound.armed
  have speaking : owns = true → (driver.onActive (·.armIdleTimer)).Speaks origin method params :=
    fun owned => (spoken owned).armed sound
  simp only [CodexDriver.handleNotification]
  split
  · rename_i isDelta
    split
    · rename_i delta read
      split
      · exact armed
      · rename_i written
        exact armed.delta written isDelta read speaking
    · exact armed
  · split
    · split
      · split
        · refine armed.onActive fun _ _ open_ sounds => ?_
          exact ⟨open_, sound_noteToolActivity sounds open_⟩
        · exact armed
      · exact armed
    · split
      · rename_i isItem
        exact armed.itemCompleted isItem speaking
      · split
        · exact armed.onActive fun _ _ open_ sounds => ⟨open_, sounds⟩
        · split
          · exact armed.tokenUsage
          · split
            · rename_i isCompletion
              split
              · rename_i place active
                split
                · rename_i accepted
                  exact armed.turnCompleted isCompletion active accepted speaking
                · exact armed
              · exact armed
            · split
              · exact armed.compacted
              · split
                · exact armed.serverError
                · exact armed

theorem Sound.resolve {result : Option Json} {who : PendingRequest} :
    (driver.resolve result who).Sound owns := by
  cases who with
  | turnStart place =>
    rw [CodexDriver.resolve]
    split
    · exact sound
    · rename_i turn found
      exact sound.retouch found rfl rfl rfl
  | boot place => exact sound.calm (calm_resolve rfl result)
  | cancel place => exact sound.calm (calm_resolve rfl result)
  | forgotten => exact sound.calm (calm_resolve rfl result)

theorem Sound.reject {failure : Failure} {who : PendingRequest} :
    (driver.reject failure who).Sound owns := by
  cases who with
  | turnStart place =>
    rw [CodexDriver.reject]
    split
    · exact sound.failedBeside
    · exact sound
  | boot place => exact sound.calm (calm_reject rfl failure)
  | cancel place => exact sound.calm (calm_reject rfl failure)
  | forgotten => exact sound.calm (calm_reject rfl failure)

theorem Sound.failAllPending {failure : Failure} : (driver.failAllPending failure).Sound owns := by
  have rejects (entries : List (JsString × PendingRequest)) {start : CodexDriver}
      (sound : start.Sound owns) :
      (entries.foldl (fun driver entry => driver.reject failure entry.2) start).Sound owns := by
    induction entries generalizing start with
    | nil => exact sound
    | cons entry rest ih => exact ih sound.reject
  exact (rejects driver.pending sound).same rfl rfl

theorem Sound.onFrame {message : Json}
    (spoken : owns = true → ∀ method params, driver.route message = .notification method params → driver.Speaks origin method params) :
    (driver.onFrame origin message).Sound owns := by
  simp only [CodexDriver.onFrame]
  split
  · rename_i key who _
    have taken : CodexDriver.Sound owns { driver with
        pending := driver.pending.filter (·.1 ≠ key) } := sound.same rfl rfl
    split
    · exact taken.reject
    · exact taken.resolve
  · exact sound.calm (calm_write _)
  · rename_i method params routed
    exact sound.handleNotification fun owned => spoken owned method params routed
  · exact sound

theorem Sound.onProcessExit : driver.onProcessExit.Sound owns := by
  have gone : CodexDriver.Sound owns { driver with process := none, threadId := none } :=
    sound.same rfl rfl
  simp only [CodexDriver.onProcessExit]
  generalize failedIs : CodexDriver.failAllPending _ _ = failed
  have failedSound : failed.Sound owns := by
    rw [← failedIs]
    apply Sound.failAllPending
    split
    · exact gone
    · exact gone.same rfl rfl
  split
  · exact failedSound
  · split
    · exact failedSound
    · rename_i place _ _ turn found
      split
      · exact failedSound.interruptedBeside
      · have marked (toolState : ToolState) : (failed.setTurn place { turn with toolState }).Sound owns :=
          failedSound.retouch found rfl rfl rfl
        exact (marked _).interruptedBeside

theorem Sound.respawn : driver.respawn.Sound owns := by
  simp only [CodexDriver.respawn]
  split
  · exact sound.same rfl rfl
  · split
    · exact sound.same rfl rfl
    · exact sound.same rfl rfl

theorem Sound.limitExceeded : driver.limitExceeded.Sound owns := by
  rw [CodexDriver.limitExceeded]
  split
  · exact sound.respawn
  · split
    · exact sound
    · exact (sound.failedBeside).respawn

end

theorem Sound.spawned {failure : Option Failure} (sound : driver.Sound owns) :
    (driver.spawned place failure).Sound owns := by
  cases failure with
  | some failure => exact sound.calm ((calm_clearSpawn place).trans (calm_failBoot place failure))
  | none =>
    have cleared := sound.calm (calm_clearSpawn place)
    rw [CodexDriver.spawned]
    split
    · exact sound.calm (calm_setStage place _)
    · have adopted : CodexDriver.Sound owns { driver.clearSpawn place with
          servers := (driver.clearSpawn place).servers ++ [AppServer.mk false false]
          process := some (driver.clearSpawn place).servers.length } := cleared.same rfl rfl
      exact adopted.calm (calm_setStage place _)

theorem Sound.threadAnswered {modelId : JsString} {thread : Option Json} (sound : driver.Sound owns) :
    (driver.threadAnswered place modelId thread).Sound owns := by
  have ready (threadId : Option Json) (threadModel : Option JsString) :
      CodexDriver.Sound owns { driver with threadId, threadModel, state := .ready } :=
    sound.same rfl rfl
  simp only [CodexDriver.threadAnswered]
  split
  · exact sound.calm (calm_failBoot place _)
  · exact (ready _ _).calm (calm_setStage place _)

theorem Sound.goOn {request : Request} {modelId : JsString} {answer : Answer}
    (sound : driver.Sound owns) : (driver.goOn place request modelId answer).Sound owns := by
  by_cases early : request = .thread
  · subst early
    cases answer with
    | waiting => exact sound
    | rejected failure => exact sound.calm (calm_failBoot place failure)
    | resolved value => exact sound.threadAnswered
  · exact sound.calm (calm_goOn early place modelId answer)

theorem Sound.append (sound : driver.Sound owns) (turns : next.turns = driver.turns ++ [turn])
    (sounds : turn.Sound owns driver.turns.length)
    (active : next.activeTurn = driver.activeTurn ∨
      next.activeTurn = some driver.turns.length ∧ turn.settled = false) : next.Sound owns := by
  constructor
  · intro other stands there
    rw [turns] at there
    by_cases isOld : other < driver.turns.length
    · rw [List.getElem?_append_left isOld] at there
      exact sound.turns there
    · have bound := (List.getElem?_eq_some_iff.mp there).1
      have isNew : other = driver.turns.length := by
        rw [length_append, length_singleton] at bound
        omega
      subst isNew
      rw [List.getElem?_concat_length, some_inj] at there
      exact there ▸ sounds
  · intro other isActive
    rw [turns]
    cases active with
    | inl same =>
      rw [same] at isActive
      obtain ⟨stands, there, open_⟩ := sound.active isActive
      have bound := (List.getElem?_eq_some_iff.mp there).1
      exact ⟨stands, (List.getElem?_append_left bound).trans there, open_⟩
    | inr fresh =>
      rw [fresh.1, some_inj] at isActive
      subst isActive
      exact ⟨turn, List.getElem?_concat_length, fresh.2⟩

theorem recorded_single {event : DriverEvent} {settled : Bool} (ends : event.isTerminalEvent = settled)
    (quiet : ∀ text, event ≠ .outputDelta text)
    (apart : ∀ output modelId tools details, event ≠ .completed output modelId tools details) :
    Recorded owns place settled [⟨event, none⟩] [] := by
  refine ⟨?_, ?_, ?_, ?_, ?_, ?_⟩
  · intro open_ emission member
    rw [mem_singleton.mp member]
    exact ends.trans open_
  · intro _
    exact ⟨[], ⟨event, none⟩, rfl, fun _ member => absurd member not_mem_nil⟩
  · intro emission member text isDelta
    rw [mem_singleton.mp member] at isDelta
    exact absurd isDelta (quiet text)
  · intro emission member output modelId tools details completed
    rw [mem_singleton.mp member] at completed
    exact absurd completed (apart output modelId tools details)
  · intro _ emission member origin isFrame
    rw [mem_singleton.mp member] at isFrame
    cases isFrame
  · exact fun _ _ member => absurd member not_mem_nil

section

variable (sound : driver.Sound owns)

include sound

theorem Sound.execute {input : ExecuteInput} : (driver.execute input).Sound owns := by
  rw [CodexDriver.execute]
  split
  · exact sound
  · split
    · have started : Recorded owns driver.turns.length false [⟨.started input.modelId, none⟩] [] :=
        recorded_single rfl nofun nofun
      refine Sound.calm ?_ (calm_request _ _ _)
      exact sound.append rfl started (.inr ⟨rfl, rfl⟩)
    · have refused (error : RuntimeError) : Recorded owns driver.turns.length true
          [⟨.failed error .not_dispatched .none true, none⟩] [] :=
        recorded_single rfl nofun nofun
      exact sound.append rfl (refused _) (.inl rfl)

theorem Sound.latch (found : driver.turns[place]? = some turn) :
    (driver.latch place turn).Sound owns :=
  sound.retouch found rfl rfl rfl

theorem Sound.cancel {executionId : JsString} : (driver.cancel executionId).Sound owns := by
  rw [CodexDriver.cancel]
  split
  · exact sound
  · split
    · exact sound
    · rename_i turn found
      have latched := sound.latch found
      simp only
      split
      · exact sound
      · split
        · refine Sound.calm ?_ (calm_sendRequest rfl _ _)
          exact latched.same rfl rfl
        · exact latched.same rfl rfl

theorem Sound.poll {cancelled : Nat} {expired : Bool} :
    (driver.poll place cancelled expired).Sound owns := by
  have stopped := sound.calm (calm_setCancel place .finished)
  simp only [CodexDriver.poll]
  split
  · exact stopped
  · split
    · refine Sound.respawn (Sound.interruptedBeside (Sound.calm ?_ (calm_setCancel place _)))
      split
      · exact sound.same rfl rfl
      · exact sound
    · exact sound

theorem Sound.tearDown : (driver.tearDown place).Sound owns := by
  simp only [CodexDriver.tearDown]
  split
  · exact sound.same rfl rfl
  · exact sound.same rfl rfl

theorem Sound.latchActive : driver.latchActive.Sound owns := by
  rw [CodexDriver.latchActive]
  split
  · exact sound
  · split
    · exact sound
    · rename_i turn found
      have latched := sound.latch found
      split
      · exact latched.calm (calm_sendRequest rfl _ _)
      · exact latched

theorem Sound.close : driver.close.Sound owns := by
  have closing : CodexDriver.Sound owns { driver with state := .closing } := sound.same rfl rfl
  have latched := closing.latchActive
  simp only [CodexDriver.close]
  split
  · exact latched.same rfl rfl
  · refine Sound.tearDown ?_
    exact latched.same rfl rfl

theorem Sound.turnWritten {failed : Option (JsString × JsString)} :
    (driver.turnWritten place failed).Sound owns := by
  rw [CodexDriver.turnWritten]
  split
  · exact sound
  · rename_i turn found
    split
    · have written : CodexDriver.Sound owns (driver.setTurn place { turn with writing := false }) :=
        sound.retouch found rfl rfl rfl
      simp only
      split
      · exact Sound.failedBeside (written.same rfl rfl)
      · exact written.same rfl rfl
    · exact sound.retouch found rfl rfl rfl

theorem Sound.idleTimeout : (driver.idleTimeout place).Sound owns := by
  rw [CodexDriver.idleTimeout]
  split
  · exact sound.failedBeside
  · exact sound

theorem Sound.turnTimeout : (driver.turnTimeout place).Sound owns := by
  rw [CodexDriver.turnTimeout]
  split
  · exact sound.interruptedBeside.respawn
  · exact sound

theorem Sound.dispatchTimeout : (driver.dispatchTimeout place).Sound owns := by
  rw [CodexDriver.dispatchTimeout]
  split
  · exact sound.failedBeside
  · exact sound

theorem Sound.timerStep {timer : ActiveTurn → Bool} {fired : ActiveTurn → ActiveTurn}
    {callback : CodexDriver → CodexDriver}
    (stepped : driver.timerStep place timer fired callback = some next)
    (fires : ∀ turn : ActiveTurn, (fired turn).settled = turn.settled ∧ (fired turn).emitted = turn.emitted ∧ (fired turn).agentTexts = turn.agentTexts)
    (calls : ∀ {driver : CodexDriver}, driver.Sound owns → (callback driver).Sound owns) :
    next.Sound owns := by
  rw [CodexDriver.timerStep] at stepped
  split at stepped
  · rename_i turn found
    split at stepped
    · cases stepped
      obtain ⟨settled, emitted, texts⟩ := fires turn
      exact calls (sound.retouch found settled emitted texts)
    · contradiction
  · contradiction

theorem Sound.bootStep {stands : Stage → Bool} {after : CodexDriver → CodexDriver}
    (stepped : driver.bootStep place stands after = some next)
    (moves : ∀ {driver : CodexDriver}, driver.Sound owns → (after driver).Sound owns) :
    next.Sound owns := by
  rw [CodexDriver.bootStep] at stepped
  split at stepped
  · split at stepped
    · cases stepped
      exact moves sound
    · contradiction
  · contradiction

end

def ownFrame (driver : CodexDriver) : Event → Bool
  | .frame server origin message =>
    match driver.servers[server]?, driver.route message, driver.activeTurn with
    | some adopted, .notification method params, some place =>
      adopted.overflow || driver.turns[place]?.all fun turn =>
        !speaks turn method params || origin = some place
    | _, _, _ => true
  | _ => true

def OwnFrame (driver : CodexDriver) (event : Event) : Prop := driver.ownFrame event = true

instance (driver : CodexDriver) (event : Event) : Decidable (driver.OwnFrame event) :=
  inferInstanceAs (Decidable (_ = _))

theorem OwnFrame.speaks {server : Nat} {adopted : AppServer} {message : Json}
    (own : driver.OwnFrame (.frame server origin message))
    (there : driver.servers[server]? = some adopted) (fits : adopted.overflow = false)
    (routed : driver.route message = .notification method params) :
    driver.Speaks origin method params := by
  intro place turn active found speaking
  rw [OwnFrame, ownFrame, there, routed, active] at own
  simp only [fits, Bool.false_or, found, all_some, speaking, Bool.not_true, decide_eq_true_eq] at own
  exact own

theorem Sound.step {event : Event} (sound : driver.Sound owns)
    (safe : owns = true → driver.OwnFrame event) (stepped : driver.step event = some next) :
    next.Sound owns := by
  cases event with
  | prewarm input =>
    cases stepped
    exact sound.calm (calm_prewarm input)
  | execute input =>
    cases stepped
    exact sound.execute
  | cancel executionId =>
    cases stepped
    exact sound.cancel
  | close =>
    cases stepped
    exact sound.close
  | idleTimer place =>
    rw [CodexDriver.step] at stepped
    exact sound.timerStep stepped (fun _ => ⟨rfl, rfl, rfl⟩) Sound.idleTimeout
  | turnTimer place =>
    rw [CodexDriver.step] at stepped
    exact sound.timerStep stepped (fun _ => ⟨rfl, rfl, rfl⟩) Sound.turnTimeout
  | dispatchTimer place =>
    rw [CodexDriver.step] at stepped
    exact sound.timerStep stepped (fun _ => ⟨rfl, rfl, rfl⟩) Sound.dispatchTimeout
  | turnWritten place failed =>
    rw [CodexDriver.step] at stepped
    split at stepped
    · cases stepped
      exact sound.turnWritten
    · contradiction
  | frame place origin message =>
    rw [CodexDriver.step, serverStep, map_eq_some_iff] at stepped
    obtain ⟨server, adopted, rfl⟩ := stepped
    split
    · exact sound
    · rename_i fits
      exact sound.onFrame fun owned method params routed =>
        (safe owned).speaks adopted (eq_false_of_ne_true fits) routed
  | limitExceeded place =>
    rw [CodexDriver.step, serverStep, map_eq_some_iff] at stepped
    obtain ⟨server, -, rfl⟩ := stepped
    split
    · exact sound
    · exact Sound.limitExceeded (sound.same rfl rfl)
  | processExit place =>
    rw [CodexDriver.step, serverStep, map_eq_some_iff] at stepped
    obtain ⟨server, -, rfl⟩ := stepped
    split
    · exact sound
    · exact Sound.onProcessExit (sound.same rfl rfl)
  | oldShutDown boot =>
    rw [CodexDriver.step] at stepped
    exact sound.bootStep stepped fun sound => sound.calm (calm_oldShutDown boot)
  | madeDir boot failure =>
    rw [CodexDriver.step] at stepped
    exact sound.bootStep stepped fun sound => sound.calm (calm_madeDir boot failure)
  | spawned boot failure =>
    rw [CodexDriver.step] at stepped
    exact sound.bootStep stepped Sound.spawned
  | reaped boot =>
    rw [CodexDriver.step] at stepped
    exact sound.bootStep stepped fun sound => sound.calm (calm_reaped boot)
  | supervised boot failure =>
    rw [CodexDriver.step] at stepped
    exact sound.bootStep stepped fun sound => sound.calm (calm_supervised boot failure)
  | requestFailed boot written failure =>
    rw [CodexDriver.step] at stepped
    exact sound.bootStep stepped fun sound => sound.calm ((calm_dropRequest written).trans
      (calm_answerBoot boot _))
  | goOn boot =>
    rw [CodexDriver.step] at stepped
    split at stepped
    · contradiction
    · cases stepped
      exact sound.goOn
    · contradiction
  | interruptFailed place written failure =>
    rw [CodexDriver.step] at stepped
    split at stepped
    · cases stepped
      exact sound.calm ((calm_dropRequest written).trans (calm_answerCancel place _))
    · contradiction
  | interruptEnded place =>
    rw [CodexDriver.step] at stepped
    split at stepped
    · contradiction
    · cases stepped
      exact sound.calm (calm_setCancel place _)
    · contradiction
  | poll place expired =>
    rw [CodexDriver.step] at stepped
    split at stepped
    · cases stepped
      exact sound.poll
    · contradiction
  | spawnSettled place =>
    rw [CodexDriver.step] at stepped
    split at stepped
    · split at stepped
      · contradiction
      · contradiction
      · cases stepped
        refine Sound.tearDown ?_
        exact sound.same rfl rfl
    · contradiction
  | closeShutDown place =>
    rw [CodexDriver.step] at stepped
    split at stepped
    · cases stepped
      exact sound.calm (calm_closed place)
    · contradiction

structure Clean (place : Nat) (turn : ActiveTurn) : Prop where
  oneEnd : ∀ front last back, turn.emitted = front ++ last :: back →
    last.event.isTerminalEvent = true → back = []
  ownDeltas : ∀ emission ∈ turn.emitted, ∀ text, emission.event = .outputDelta text →
    emission.frame = some (some place)
  ownOutput : ∀ emission ∈ turn.emitted, ∀ output modelId tools details,
    emission.event = .completed output modelId tools details →
      emission.frame = some (some place) ∧ output = turn.agentText
  ownTexts : ∀ piece ∈ turn.agentTexts, piece.2 ≠ [] → piece.1 = some place
  /-- A completion frame that ended the turn was its own. -/
  ownEnd : ∀ emission ∈ turn.emitted, ∀ origin, emission.frame = some origin →
    origin = some place

theorem ends_once (sound : turn.Sound owns place) {front back : List Emission} {last : Emission}
    (emitted : turn.emitted = front ++ last :: back) (ends : last.event.isTerminalEvent = true) :
    back = [] := by
  cases settled : turn.settled with
  | false =>
    have member : last ∈ turn.emitted := by
      rw [emitted]
      exact mem_append_right front mem_cons_self
    rw [sound.unended settled last member] at ends
    contradiction
  | true =>
    obtain ⟨start, final, same, quiet⟩ := sound.ended settled
    rw [emitted] at same
    cases eq_nil_or_concat back with
    | inl empty => exact empty
    | inr grown =>
      obtain ⟨later, other, rfl⟩ := grown
      have split : front ++ last :: later = start := by
        have halves := congrArg List.dropLast same
        rw [concat_eq_append, ← cons_append, ← append_assoc, dropLast_concat, dropLast_concat] at halves
        exact halves
      have member : last ∈ start := by
        rw [← split]
        exact mem_append_right front mem_cons_self
      rw [quiet last member] at ends
      contradiction

theorem clean_of_sound (sound : turn.Sound true place) : Clean place turn := by
  refine ⟨fun _ _ _ emitted ends => ends_once sound emitted ends, ?_, ?_, sound.texts rfl, sound.frames rfl⟩
  · intro emission member text isDelta
    obtain ⟨origin, isFrame⟩ := isSome_iff_exists.mp (sound.deltas emission member text isDelta)
    rw [isFrame, sound.frames rfl emission member origin isFrame]
  · intro emission member output modelId tools details completed
    obtain ⟨framed, text⟩ := sound.outputs emission member output modelId tools details completed
    obtain ⟨origin, isFrame⟩ := isSome_iff_exists.mp framed
    refine ⟨?_, text⟩
    rw [isFrame, sound.frames rfl emission member origin isFrame]

def cold (participantId cwd : JsString) (streamIdleMs : Nat) : CodexDriver :=
  { participantId, cwd, streamIdleMs }

theorem sound_cold (participantId cwd : JsString) (streamIdleMs : Nat) :
    (cold participantId cwd streamIdleMs).Sound owns := by
  constructor
  · intro place turn found
    cases found
  · intro place active
    cases active

/-- In every order of calls, timers, frames and answers, executions are clean while no
frame that speaks of the active turn was written for another one. -/
theorem executions_clean {participantId cwd : JsString} {streamIdleMs : Nat} {events : List Event}
    {driver : CodexDriver} (run : Run step OwnFrame (cold participantId cwd streamIdleMs) events driver)
    {place : Nat} {turn : ActiveTurn} (found : driver.turns[place]? = some turn) :
    Clean place turn := by
  have sound : driver.Sound true :=
    run.invariant (fun sound own stepped => sound.step (fun _ => own) stepped) (sound_cold _ _ _)
  exact clean_of_sound (sound.turns found)

def exampleInput (executionId : String) : ExecuteInput where
  executionId := js executionId
  prompt := js "review"
  modelId := js "m"
  coldStart := true

def answer (id : String) (members : List (JsString × Json)) : Json :=
  .object [(js "id", .string (js id)), (js "result", .object members)]

def prewarmed : List Event :=
  [.prewarm ⟨js "codex-app-server", js "m", none, none⟩, .madeDir 0 none, .spawned 0 none,
    .supervised 0 none, .frame 0 none (answer "ck-p-1" []), .goOn 0,
    .frame 0 none (answer "ck-p-2" [(js "account", .object [])]), .goOn 0,
    .frame 0 none (answer "ck-p-3" [(js "data", .array [.object [(js "model", .string (js "m"))]])]),
    .goOn 0,
    .frame 0 none (answer "ck-p-4" [(js "thread", .object [(js "id", .string (js "t"))])]), .goOn 0]

def finishes (origin : Nat) (turnId : String) : List Event :=
  [.frame 0 (some origin) (.object [(js "method", .string (js "item/completed")),
      (js "params", .object [(js "item", .object [(js "type", .string (js "agentMessage")),
        (js "text", .string (js "first"))])])]),
    .frame 0 (some origin) (.object [(js "method", .string (js "turn/completed")),
      (js "params", .object [(js "turn", .object [(js "id", .string (js turnId)),
        (js "status", .string (js "completed"))])])])]

def completedRun : List Event := prewarmed ++ [.execute (exampleInput "e1")] ++ finishes 0 "t1"

theorem completed_clean : ∃ driver turn,
    Run step OwnFrame (cold (js "p") (js "/work/p") 1000) completedRun driver ∧
      driver.turns[0]? = some turn ∧ turn.agentText = js "first" ∧ Clean 0 turn := by
  have defined : ((Data.execute (guarded step OwnFrame) (cold (js "p") (js "/work/p") 1000)
      completedRun).bind (·.turns[0]?)).map (·.agentText) = some (js "first") := by
    decide +kernel
  obtain ⟨turn, reached, text⟩ := map_eq_some_iff.mp defined
  obtain ⟨driver, ended, found⟩ := bind_eq_some_iff.mp reached
  have run := execute_guarded ended
  exact ⟨driver, turn, run, found, text, executions_clean run found⟩

/-- The first turn goes idle here and is not stopped on the server: what it still
says completes the second one, whose id is not known yet. -/
def lateRun : List Event :=
  prewarmed ++ [.execute (exampleInput "e1"), .idleTimer 0, .execute (exampleInput "e2")] ++ finishes 0 "t1"

theorem late_frames_complete : ¬ ∀ events driver,
    Run step anyStep (cold (js "p") (js "/work/p") 1000) events driver →
      ∀ place turn, driver.turns[place]? = some turn → Clean place turn := by
  intro clean
  have late : ((Data.execute step (cold (js "p") (js "/work/p") 1000) lateRun).bind
      (·.turns[1]?)).map (fun turn => turn.emitted.any fun emission =>
        emission.event.isTerminalEvent && emission.frame = some (some 0)) = some true := by
    decide +kernel
  obtain ⟨turn, reached, foreign⟩ := map_eq_some_iff.mp late
  obtain ⟨driver, ended, found⟩ := bind_eq_some_iff.mp reached
  obtain ⟨emission, member, ends⟩ := any_eq_true.mp foreign
  rw [Bool.and_eq_true, decide_eq_true_eq] at ends
  have run : Run step anyStep (cold (js "p") (js "/work/p") 1000) lateRun driver :=
    execute_run ended fun _ _ _ => trivial
  have own := (clean lateRun driver run 1 turn found).ownEnd emission member (some 0) ends.2
  exact absurd own (by decide)

end CodexDriver

end CouncilKit.Host.Codex
