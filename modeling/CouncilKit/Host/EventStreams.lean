import CouncilKit.Data.MergedLog
import CouncilKit.Data.Transition
import CouncilKit.Host.ExecutionRegistry

namespace CouncilKit.Host

open Data RuntimeEvent List Option

namespace RuntimeEvent

def text (event : RuntimeEvent) : JsString := event.body.preview.getD []

end RuntimeEvent

namespace ExecutionRecord

variable {record buffered : ExecutionRecord} {event : RuntimeEvent} {now : JsString}

def presses (record : ExecutionRecord) (event : RuntimeEvent) : Bool :=
  !event.body.isTerminalEvent && decide (executionBufferBytes < record.bufferedBytes + event.eventBytes)

def drops (record : ExecutionRecord) (event : RuntimeEvent) (now : JsString) : Bool :=
  record.presses event &&
    decide (executionBufferBytes < (record.coalesce now).bufferedBytes + event.eventBytes)

/-- The three ways out of `bufferEvent`. -/
inductive Buffers (record : ExecutionRecord) (event : RuntimeEvent) (now : JsString) :
    ExecutionRecord → Prop where
  | fits (room : record.presses event = false) : Buffers record event now (record.push event)
  | coalesced (full : record.presses event = true) (room : record.drops event now = false) :
      Buffers record event now ((record.coalesce now).push event)
  | dropped (full : record.drops event now = true) :
      Buffers record event now { record.coalesce now with lastSeq := event.seq }

theorem presses_eq_false : record.presses event = false ↔
    (event.body.isTerminalEvent = true ∨
      record.bufferedBytes + event.eventBytes ≤ executionBufferBytes) := by
  cases terminal : event.body.isTerminalEvent <;> simp [presses, terminal]

theorem bufferEvent_cases (stored : record.bufferEvent event now = some buffered) :
    Buffers record event now buffered := by
  simp only [bufferEvent] at stored
  split at stored
  · rename_i room
    cases stored
    exact .fits (presses_eq_false.mpr room)
  · rename_i crowded
    have full : record.presses event = true := by
      rw [← Bool.not_eq_false, presses_eq_false]
      exact crowded
    split at stored
    · contradiction
    · split at stored
      · rename_i past
        cases stored
        exact .dropped (by simpa [drops, full] using past)
      · rename_i room
        cases stored
        exact .coalesced full (by simpa [drops, full] using room)

def snapshot (record : ExecutionRecord) (now : JsString) (first : RuntimeEvent)
    (rest : List RuntimeEvent) : RuntimeEvent where
  executionId := record.executionId
  seq := first.seq
  «at» := now
  body := .outputSnapshot ((first :: rest).flatMap text)

variable {events : List RuntimeEvent}

theorem flatten_previews :
    (events.filterMap (·.body.preview)).flatten = events.flatMap text := by
  induction events with
  | nil => rfl
  | cons event rest ih =>
    cases preview : event.body.preview <;>
      simp [text, preview, ih]

theorem text_of_not_preview (event : RuntimeEvent) (unmarked : isPreview event = false) :
    event.text = [] := by
  have none : event.body.preview = none := by simpa [isPreview] using unmarked
  simp [text, none]

theorem takeWhile_filter_length :
    (events.filter fun event => !isPreview event).take
        (events.takeWhile fun event => !isPreview event).length =
      events.takeWhile (fun event => !isPreview event) ∧
    (events.filter fun event => !isPreview event).drop
        (events.takeWhile fun event => !isPreview event).length =
      (events.dropWhile fun event => !isPreview event).filter fun event => !isPreview event := by
  induction events with
  | nil => exact ⟨rfl, rfl⟩
  | cons event rest ih =>
    cases preview : isPreview event with
    | true => simp [preview]
    | false => simp [preview, ih]

theorem events_coalesce : (record.coalesce now).events =
    mergeMarked isPreview (record.snapshot now) record.events := by
  cases found : record.events.filter isPreview with
  | nil =>
    have unmarked : ∀ event ∈ record.events, (!isPreview event) = true := by
      intro event member
      simpa using filter_eq_nil_iff.mp found event member
    simp only [coalesce, mergeMarked, found]
    exact filter_eq_self.mpr unmarked
  | cons first rest =>
    simp only [coalesce, mergeMarked, found, takeWhile_filter_length, flatten_previews, snapshot]

theorem executionId_coalesce : (record.coalesce now).executionId = record.executionId := by
  simp only [ExecutionRecord.coalesce]
  split <;> rfl

theorem lastSeq_coalesce : (record.coalesce now).lastSeq = record.lastSeq := by
  simp only [ExecutionRecord.coalesce]
  split <;> rfl

theorem bytes_coalesce (counted : record.bufferedBytes = bytes record.events) :
    (record.coalesce now).bufferedBytes = bytes (record.coalesce now).events := by
  have shared := @sum_mergeMarked _ isPreview (record.snapshot now) record.events (·.eventBytes)
  rw [events_coalesce]
  cases found : record.events.filter isPreview with
  | nil =>
    rw [mergeMarked, found]
    simp only [coalesce, found, counted]
  | cons first rest =>
    rw [found] at shared
    have weight : (record.coalesce now).bufferedBytes = record.bufferedBytes -
        bytes (first :: rest) + (record.snapshot now first rest).eventBytes := by
      simp only [coalesce, found, flatten_previews, snapshot]
    have within : bytes (first :: rest) ≤ bytes record.events := by
      have parts := sum_marked_add_unmarked isPreview (·.eventBytes) record.events
      rw [found] at parts
      simp only [bytes]
      omega
    rw [weight, counted]
    simp only [bytes] at shared within ⊢
    omega

end ExecutionRecord

open ExecutionRecord

/-- The life of a record: every event that `emit` gave a number, those whose text
the buffer holds, whole or merged, the event that coalesced it last, and whether
an acknowledgement released it. -/
structure Stream where
  executionId : JsString
  emitted : List RuntimeEvent
  kept : List RuntimeEvent
  mergedAt : Nat
  released : Bool

namespace Stream

def fresh (executionId : JsString) : Stream := ⟨executionId, [], [], 0, false⟩

def take (stream : Stream) (record : ExecutionRecord) (event : RuntimeEvent) (now : JsString) : Stream :=
  { stream with
    emitted := stream.emitted ++ [event]
    kept := if record.drops event now then stream.kept else stream.kept ++ [event]
    mergedAt := if record.presses event then event.seq else stream.mergedAt }

def release (stream : Stream) : Stream := { stream with kept := [], released := true }

/-- The number under which the buffer holds the text of an event: its own, or
once it was merged that of the first preview. -/
def position (stream : Stream) (event : RuntimeEvent) : Nat :=
  if event.seq < stream.mergedAt then ((stream.kept.find? isPreview).map (·.seq)).getD 0
  else event.seq

def textAfter (stream : Stream) (afterSeq : Nat) : JsString :=
  (stream.kept.filter fun event => afterSeq < stream.position event).flatMap text

end Stream

structure Numbered (record : ExecutionRecord) (emitted : List RuntimeEvent) : Prop where
  numbers : emitted.map (·.seq) = List.range' 1 emitted.length
  last : record.lastSeq = emitted.length
  final : ∀ before event after, emitted = before ++ event :: after →
    event.body.isTerminalEvent = true → after = []
  terminal : ∀ event, record.terminal = some event ↔ event ∈ emitted ∧ event.body.isTerminalEvent = true
  running : record.state = .running ↔ record.terminal = none
  lastSeq : ∀ event, record.terminal = some event → record.lastSeq = event.seq

structure Buffered (record : ExecutionRecord) (stream : Stream) : Prop where
  id : stream.executionId = record.executionId
  ordered : record.events.Pairwise fun left right => left.seq < right.seq
  within : ∀ event ∈ record.events, 0 < event.seq ∧ event.seq ≤ record.lastSeq
  bytes : record.bufferedBytes = bytes record.events
  keptWithin : ∀ event ∈ stream.kept, 0 < event.seq ∧ event.seq ≤ record.lastSeq
  merged : stream.mergedAt ≤ record.lastSeq + 1
  first : (record.events.find? isPreview).map (·.seq) = (stream.kept.find? isPreview).map (·.seq)
  texts : ∀ afterSeq, (record.events.filter fun event => afterSeq < event.seq).flatMap
    text = stream.textAfter afterSeq
  sublist : stream.kept.Sublist stream.emitted

section Buffering

variable {record : ExecutionRecord} {stream : Stream} {event : RuntimeEvent} {now : JsString}

variable {events : List RuntimeEvent}

theorem flatMap_text_congr {left right : RuntimeEvent → Bool}
    (same : ∀ event ∈ events, isPreview event = true → left event = right event) :
    (events.filter left).flatMap text =
      (events.filter right).flatMap text := by
  induction events with
  | nil => rfl
  | cons event rest ih =>
    have tail := ih fun other member => same other (mem_cons_of_mem _ member)
    cases preview : isPreview event with
    | true =>
      have here := same event mem_cons_self preview
      rw [filter_cons, filter_cons, here]
      split
      · rw [flatMap_cons, flatMap_cons, tail]
      · exact tail
    | false =>
      have silent := text_of_not_preview event preview
      have skip (passes : RuntimeEvent → Bool) : ((event :: rest).filter passes).flatMap
          text = (rest.filter passes).flatMap text := by
        rw [filter_cons]
        split
        · rw [flatMap_cons, silent, nil_append]
        · rfl
      rw [skip, skip, tail]

theorem find_preview_append :
    ((events ++ [event]).find? isPreview).map (·.seq) =
      ((events.find? isPreview).map (·.seq)).or (([event].find? isPreview).map (·.seq)) := by
  rw [List.find?_append, map_or]

section

variable (held : Buffered record stream)

include held

theorem Buffered.push (numbered : event.seq = record.lastSeq + 1) :
    Buffered (record.push event) { stream with
      emitted := stream.emitted ++ [event], kept := stream.kept ++ [event] } where
  id := held.id
  ordered := by
    refine pairwise_append.mpr ⟨held.ordered, pairwise_singleton _ _, ?_⟩
    intro old member new single
    have below := (held.within old member).2
    rw [mem_singleton.mp single]
    omega
  within other member := by
    simp only [ExecutionRecord.push]
    rcases mem_append.mp member with old | new
    · have below := held.within other old
      omega
    · rw [mem_singleton.mp new]
      omega
  bytes := by simp [ExecutionRecord.push, held.bytes, ExecutionRecord.bytes]
  keptWithin other member := by
    simp only [ExecutionRecord.push]
    rcases mem_append.mp member with old | new
    · have below := held.keptWithin other old
      omega
    · rw [mem_singleton.mp new]
      omega
  merged := by
    have below := held.merged
    simp only [ExecutionRecord.push]
    omega
  first := by
    simp only [ExecutionRecord.push]
    rw [find_preview_append, find_preview_append, held.first]
  texts afterSeq := by
    have own : ¬ event.seq < stream.mergedAt := by
      have below := held.merged
      omega
    -- The first preview stays the first, unless there was none.
    have old : (stream.kept.filter fun other => afterSeq < Stream.position { stream with
          emitted := stream.emitted ++ [event], kept := stream.kept ++ [event] } other).flatMap
          text = stream.textAfter afterSeq := by
      apply flatMap_text_congr
      intro other member preview
      cases found : stream.kept.find? isPreview with
      | none => exact absurd preview (List.find?_eq_none.mp found other member)
      | some first => simp [Stream.position, List.find?_append, found]
    have new : Stream.position { stream with
        emitted := stream.emitted ++ [event], kept := stream.kept ++ [event] } event = event.seq := by
      rw [Stream.position, if_neg own]
    simp only [ExecutionRecord.push, Stream.textAfter, filter_append, flatMap_append, filter_singleton, new]
    rw [held.texts, old]
  sublist := held.sublist.append (List.Sublist.refl _)

theorem Buffered.textAfter_zero : stream.textAfter 0 = stream.kept.flatMap text := by
  rw [Stream.textAfter]
  conv => rhs; rw [← filter_true stream.kept]
  apply flatMap_text_congr
  intro other member preview
  have positive : 0 < stream.position other := by
    simp only [Stream.position]
    split
    · cases found : stream.kept.find? isPreview with
      | none => exact absurd preview (List.find?_eq_none.mp found other member)
      | some first => exact (held.keptWithin first (mem_of_find?_eq_some found)).1
    · exact (held.keptWithin other member).1
  simpa using positive

theorem Buffered.coalesce :
    Buffered (record.coalesce now) { stream with mergedAt := record.lastSeq + 1 } := by
  have lastSeq : (record.coalesce now).lastSeq = record.lastSeq := lastSeq_coalesce
  have keeps : ∀ first rest, (record.snapshot now first rest).seq = first.seq := fun _ _ => rfl
  have events := @events_coalesce record now
  have whole : record.events.flatMap text =
      stream.kept.flatMap text := by
    have all := held.texts 0
    rw [filter_eq_self.mpr fun other member => by
      simpa using (held.within other member).1] at all
    rw [all, held.textAfter_zero]
  constructor
  · exact held.id.trans executionId_coalesce.symm
  · rw [events]
    exact pairwise_mergeMarked keeps held.ordered
  · intro event member
    rw [events] at member
    obtain ⟨old, present, same⟩ := exists_of_mem_mergeMarked keeps member
    rw [lastSeq, same]
    exact held.within old present
  · exact bytes_coalesce held.bytes
  · rw [lastSeq]
    exact held.keptWithin
  · rw [lastSeq]
  · rw [events, find_mergeMarked keeps fun _ _ _ => rfl]
    exact held.first
  · intro afterSeq
    rw [events, flatMap_mergeMarked_after text_of_not_preview keeps (fun _ _ => rfl), whole]
    -- Everything kept so far now stands where the first preview does.
    have moved : ∀ event ∈ stream.kept, Stream.position { stream with
        mergedAt := record.lastSeq + 1 } event = ((stream.kept.find? isPreview).map (·.seq)).getD 0 := by
      intro event member
      have below := (held.keptWithin event member).2
      rw [Stream.position, if_pos (show event.seq < record.lastSeq + 1 by omega)]
    have same : (record.events.find? isPreview).any (fun first => afterSeq < first.seq) =
        decide (afterSeq < ((stream.kept.find? isPreview).map (·.seq)).getD 0) := by
      rw [← held.first]
      cases record.events.find? isPreview <;> simp
    rw [same, Stream.textAfter, filter_congr fun event member => by rw [moved event member]]
    split <;> simp_all
  · exact held.sublist

theorem Buffered.drop (numbered : event.seq = record.lastSeq + 1) :
    Buffered { record with lastSeq := event.seq } { stream with
      emitted := stream.emitted ++ [event] } where
  id := held.id
  ordered := held.ordered
  within other member := by
    have below := held.within other member
    exact ⟨below.1, by simp only; omega⟩
  bytes := held.bytes
  keptWithin other member := by
    have below := held.keptWithin other member
    exact ⟨below.1, by simp only; omega⟩
  merged := by
    have below := held.merged
    simp only
    omega
  first := held.first
  texts := held.texts
  sublist := held.sublist.trans (sublist_append_left _ _)

theorem Buffered.take {buffered : ExecutionRecord} (numbered : event.seq = record.lastSeq + 1)
    (buffers : Buffers record event now buffered) :
    Buffered buffered (stream.take record event now) := by
  have same : stream.take record event now = { stream with
      emitted := stream.emitted ++ [event]
      kept := if record.drops event now then stream.kept else stream.kept ++ [event]
      mergedAt := if record.presses event then event.seq else stream.mergedAt } := rfl
  have after : event.seq = (record.coalesce now).lastSeq + 1 := numbered.trans
    (congrArg (· + 1) lastSeq_coalesce.symm)
  rw [same]
  cases buffers with
  | fits room =>
    have kept : record.drops event now = false := by simp [drops, room]
    simp only [room, kept, Bool.false_eq_true, if_false]
    exact held.push numbered
  | coalesced full room =>
    simp only [full, room, if_true, Bool.false_eq_true, if_false]
    rw [numbered]
    exact held.coalesce.push after
  | dropped full =>
    have pressed : record.presses event = true := by
      simp only [drops, Bool.and_eq_true] at full
      exact full.1
    simp only [full, pressed, if_true]
    rw [numbered]
    have merged : Buffered (record.coalesce now) { stream with mergedAt := record.lastSeq + 1 } :=
      held.coalesce
    exact numbered ▸ merged.drop after

end

theorem ordered_of_pairwise : ∀ {events : List RuntimeEvent},
    (events.Pairwise fun left right => left.seq < right.seq) → ordered events = true
  | [], _ => rfl
  | [_], _ => rfl
  | first :: second :: rest, sorted => by
    obtain ⟨below, tail⟩ := pairwise_cons.mp sorted
    have next := below second mem_cons_self
    simp only [ordered, Bool.and_eq_true, decide_eq_true_eq]
    exact ⟨next.le, ordered_of_pairwise tail⟩

end Buffering

namespace ExecutionRecord

def marked (record : ExecutionRecord) (event : RuntimeEvent) : ExecutionRecord :=
  if event.body.isTerminalEvent then
    { record with state := terminalState event.body, terminal := some event }
  else record

structure SameExecution (record other : ExecutionRecord) : Prop where
  executionId : other.executionId = record.executionId
  participantId : other.participantId = record.participantId
  scopeId : other.scopeId = record.scopeId
  ackState : other.ackState = record.ackState
  disposition : other.disposition = record.disposition
  tombstone : other.tombstone = record.tombstone

structure SameState (record other : ExecutionRecord) : Prop extends SameExecution record other where
  state : other.state = record.state
  terminal : other.terminal = record.terminal

variable {record buffered : ExecutionRecord} {stream : Stream} {event : RuntimeEvent} {now : JsString}

theorem sameState_coalesce : SameState record (record.coalesce now) := by
  simp only [coalesce]
  split <;> exact ⟨⟨rfl, rfl, rfl, rfl, rfl, rfl⟩, rfl, rfl⟩

theorem Buffers.same (buffers : Buffers record event now buffered) : SameState record buffered := by
  have merged : SameState record (record.coalesce now) := sameState_coalesce
  cases buffers with
  | fits => exact ⟨⟨rfl, rfl, rfl, rfl, rfl, rfl⟩, rfl, rfl⟩
  | coalesced => exact ⟨⟨merged.1.1, merged.1.2, merged.1.3, merged.1.4, merged.1.5, merged.1.6⟩,
      merged.2, merged.3⟩
  | dropped => exact ⟨⟨merged.1.1, merged.1.2, merged.1.3, merged.1.4, merged.1.5, merged.1.6⟩,
      merged.2, merged.3⟩

theorem Buffers.lastSeq (buffers : Buffers record event now buffered) : buffered.lastSeq = event.seq := by
  cases buffers <;> rfl

theorem marked_same : SameExecution record (record.marked event) := by
  simp only [marked]
  split <;> exact ⟨rfl, rfl, rfl, rfl, rfl, rfl⟩

theorem Buffers.terminal_mem (buffers : Buffers record event now buffered)
    (terminal : event.body.isTerminalEvent = true) : event ∈ buffered.events := by
  have room : record.presses event = false := presses_eq_false.mpr (.inl terminal)
  cases buffers with
  | fits => exact mem_append_right _ (mem_singleton_self event)
  | coalesced full =>
    rw [room] at full
    contradiction
  | dropped full => simp [drops, room] at full

theorem marked_buffered (held : Buffered record stream) : Buffered (record.marked event) stream := by
  simp only [marked]
  split
  · exact ⟨held.id, held.ordered, held.within, held.bytes, held.keptWithin, held.merged, held.first,
      held.texts, held.sublist⟩
  · exact held

theorem take_marked : stream.take (record.marked event) event now = stream.take record event now := by
  cases terminal : event.body.isTerminalEvent <;>
    simp [Stream.take, drops, presses, marked, terminal]

theorem marked_lastSeq : (record.marked event).lastSeq = record.lastSeq := by
  simp only [marked]
  split <;> rfl

theorem emitEvent_buffers {proto : DriverEvent}
    (emitted : record.emitEvent proto now = some (buffered, event)) :
    event.executionId = record.executionId ∧ event.seq = record.lastSeq + 1 ∧
      Buffers (record.marked event) event now buffered := by
  simp only [emitEvent, map_eq_some_iff, Prod.mk.injEq] at emitted
  obtain ⟨stored, buffer, rfl, rfl⟩ := emitted
  exact ⟨rfl, rfl, bufferEvent_cases buffer⟩

theorem emitEvent_some (held : Buffered record stream) (proto : DriverEvent) (now : JsString) :
    ∃ buffered event, record.emitEvent proto now = some (buffered, event) := by
  let body := if record.executionId ≠ [] && now ≠ [] && proto.accept then proto
    else protocolViolation
  let event : RuntimeEvent := ⟨record.executionId, record.lastSeq + 1, now, body⟩
  have same : record.emitEvent proto now =
      ((record.marked event).bufferEvent event now).map fun buffered => (buffered, event) := rfl
  cases stored : (record.marked event).bufferEvent event now with
  | none =>
    have merged : Buffered ((record.marked event).coalesce now) _ :=
      Buffered.coalesce (marked_buffered held)
    have sorted := ordered_of_pairwise merged.ordered
    simp only [bufferEvent, sorted] at stored
    split at stored
    · contradiction
    · simp only [Bool.not_true, Bool.false_eq_true, if_false] at stored
      split at stored <;> contradiction
  | some buffered => exact ⟨buffered, event, by rw [same, stored, map_some]⟩

theorem state_terminal : terminalState event.body ≠ .running := by
  cases event.body <;> simp [terminalState]

end ExecutionRecord

theorem Numbered.next {record buffered : ExecutionRecord} {emitted : List RuntimeEvent}
    {event : RuntimeEvent} {now : JsString} (held : Numbered record emitted)
    (live : record.terminal = none) (numbered : event.seq = record.lastSeq + 1)
    (buffers : Buffers (record.marked event) event now buffered) :
    Numbered buffered (emitted ++ [event]) := by
  have next : event.seq = emitted.length + 1 := by rw [numbered, held.last]
  have none : ∀ old ∈ emitted, old.body.isTerminalEvent = false := by
    intro old member
    cases ends : old.body.isTerminalEvent with
    | false => rfl
    | true =>
      have terminal := (held.terminal old).mpr ⟨member, ends⟩
      rw [live] at terminal
      contradiction
  have same := buffers.same
  constructor
  · rw [map_append, held.numbers, length_append, length_singleton, range'_concat, map_singleton, next]
    simp [Nat.add_comm]
  · rw [buffers.lastSeq, next, length_append, length_singleton]
  · intro before other after split ends
    cases eq_nil_or_concat after with
    | inl empty => exact empty
    | inr more =>
      obtain ⟨initial, final, rfl⟩ := more
      have parts : emitted ++ [event] = (before ++ other :: initial) ++ [final] := by
        rw [split]
        simp
      have early := (append_inj' parts rfl).1
      have member : other ∈ emitted := by
        rw [early]
        simp
      rw [none other member] at ends
      contradiction
  · intro other
    rw [same.terminal, mem_append, mem_singleton, or_and_right]
    have old : ¬ (other ∈ emitted ∧ other.body.isTerminalEvent = true) := by
      intro present
      rw [none other present.1] at present
      simp at present
    cases ends : event.body.isTerminalEvent with
    | true =>
      simp only [marked, ends, if_true, some.injEq, old, false_or]
      constructor
      · intro here
        exact ⟨here.symm, here ▸ ends⟩
      · intro here
        exact here.1.symm
    | false =>
      simp only [marked, ends, Bool.false_eq_true, if_false, live, reduceCtorEq, old, false_or, false_iff]
      intro here
      rw [here.1, ends] at here
      simp at here
  · rw [same.state, same.terminal]
    cases ends : event.body.isTerminalEvent with
    | true => simp [marked, ends, state_terminal]
    | false => simpa [marked, ends] using held.running
  · intro other terminal
    rw [same.terminal] at terminal
    cases ends : event.body.isTerminalEvent with
    | true =>
      simp only [marked, ends, if_true, some.injEq] at terminal
      rw [buffers.lastSeq, terminal]
    | false =>
      simp only [marked, ends, Bool.false_eq_true, if_false, live, reduceCtorEq] at terminal

/-- What holds between a record and its stream at all times. -/
structure Streamed (record : ExecutionRecord) (stream : Stream) : Prop where
  numbered : Numbered record stream.emitted
  buffered : Buffered record stream
  tombstone : record.tombstone = true ↔ record.ackState = .acknowledged
  terminal : ∀ event, record.terminal = some event → record.ackState ≠ .acknowledged → event ∈ record.events
  unpressed : stream.mergedAt = 0 → stream.released = false → stream.kept = stream.emitted

namespace Streamed

variable {record : ExecutionRecord} {stream : Stream}

theorem fresh {executionId participantId scopeId now : JsString} :
    Streamed (.fresh executionId participantId scopeId now) (.fresh executionId) := by
  refine ⟨⟨rfl, rfl, ?_, ?_, by simp [ExecutionRecord.fresh], ?_⟩,
    ⟨rfl, .nil, ?_, rfl, ?_, Nat.zero_le _, rfl, fun _ => rfl, .refl _⟩, ?_, ?_, fun _ _ => rfl⟩
  · intro before event after split
    simp [Stream.fresh] at split
  all_goals simp [ExecutionRecord.fresh, Stream.fresh]

theorem next (held : Streamed record stream) (live : record.terminal = none) (proto : DriverEvent)
    (now : JsString) : ∃ buffered event, record.emitEvent proto now = some (buffered, event) ∧
      event.executionId = record.executionId ∧ SameExecution record buffered ∧
      Streamed buffered (stream.take record event now) := by
  obtain ⟨buffered, event, emitted⟩ := emitEvent_some held.buffered proto now
  obtain ⟨own, numbered, buffers⟩ := emitEvent_buffers emitted
  have kept : SameExecution (record.marked event) buffered := buffers.same.toSameExecution
  have same : SameExecution record buffered := by
    have mark : SameExecution record (record.marked event) := marked_same
    exact ⟨kept.1.trans mark.1, kept.2.trans mark.2, kept.3.trans mark.3, kept.4.trans mark.4,
      kept.5.trans mark.5, kept.6.trans mark.6⟩
  refine ⟨buffered, event, emitted, own, same, held.numbered.next live numbered buffers, ?_, ?_, ?_, ?_⟩
  · rw [← take_marked]
    exact (marked_buffered held.buffered).take (by rw [marked_lastSeq, numbered]) buffers
  · rw [same.tombstone, same.ackState]
    exact held.tombstone
  · intro other terminal _
    rw [buffers.same.terminal] at terminal
    cases ends : event.body.isTerminalEvent with
    | true =>
      simp only [marked, ends, if_true, some.injEq] at terminal
      rw [← terminal]
      exact buffers.terminal_mem ends
    | false =>
      simp only [marked, ends, Bool.false_eq_true, if_false, live, reduceCtorEq] at terminal
  · intro unmerged retained
    simp only [Stream.take] at unmerged retained ⊢
    cases full : record.presses event with
    | true =>
      simp only [full, if_true] at unmerged
      omega
    | false =>
      simp only [full, Bool.false_eq_true, if_false] at unmerged
      simp [drops, full, held.unpressed unmerged retained]

theorem acknowledged (held : Streamed record stream) (disposition : AckDisposition) :
    Streamed { record with
      ackState := .acknowledged
      disposition := some disposition
      events := []
      bufferedBytes := 0
      tombstone := true } stream.release where
  numbered := ⟨held.numbered.numbers, held.numbered.last, held.numbered.final,
    held.numbered.terminal, held.numbered.running, held.numbered.lastSeq⟩
  buffered := by
    refine ⟨held.buffered.id, .nil, ?_, rfl, ?_, held.buffered.merged, rfl, fun _ => rfl, nil_sublist _⟩
    all_goals simp [Stream.release]
  tombstone := by simp
  terminal := by simp
  unpressed := by simp [Stream.release]

end Streamed

end CouncilKit.Host
