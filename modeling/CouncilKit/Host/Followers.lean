import CouncilKit.Host.EventStreams

namespace CouncilKit.Host

open Data List Json Table
open ExecutionRecord

/-- One `follow` call: what it replayed, and what its listener heard since. -/
structure Follower where
  executionId : JsString
  afterSeq : Nat
  joined : Stream
  replayed : List RuntimeEvent
  heard : List RuntimeEvent
  attached : Bool

namespace Follower

def detach (follower : Follower) : Follower := { follower with attached := false }

def hear (follower : Follower) (event : RuntimeEvent) : Follower :=
  if follower.attached = true ∧ follower.executionId = event.executionId then
    { follower with heard := follower.heard ++ [event] }
  else follower

end Follower

structure Registry where
  records : Records
  streams : Table Stream.executionId
  followers : List Follower

inductive RegistryAction where
  | begin (executionId participantId scopeId now : JsString)
  | emit (executionId : JsString) (proto : DriverEvent) (now : JsString)
  | follow (executionId : JsString) (afterSeq : Nat)
  /-- A follower calls the function that `follow` returned. -/
  | unfollow (index : Nat)
  | ack (executionId : JsString) (finalSeq : Nat) (disposition : AckDisposition)
  | releaseScope (scopeId : JsString)

namespace Registry

def empty : Registry := ⟨Table.empty, Table.empty, []⟩

variable (registry : Registry)

def «begin» (executionId participantId scopeId now : JsString) : Registry :=
  match registry.records.begin executionId participantId scopeId now with
  | (records, _, true) =>
    { registry with records, streams := registry.streams.put (.fresh executionId) }
  | (_, _, false) => registry

def emit (executionId : JsString) (proto : DriverEvent) (now : JsString) : Registry :=
  match registry.records.get executionId, registry.streams.get executionId,
      registry.records.emit executionId proto now with
  | some record, some stream, (records, some event) =>
    { records
      streams := registry.streams.put (stream.take record event now)
      followers := registry.followers.map (·.hear event) }
  | _, _, (records, _) => { registry with records }

def follow (executionId : JsString) (afterSeq : Nat) : Registry :=
  match registry.records.get executionId, registry.streams.get executionId,
      registry.records.replay executionId afterSeq with
  | some record, some joined, some replayed =>
    { registry with followers := registry.followers ++ [{
        executionId, afterSeq, joined, replayed, heard := []
        -- Tombstoned or terminal executions have no future events.
        attached := !(record.tombstone || record.terminal.isSome) }] }
  | _, _, _ => registry

def unfollow (index : Nat) : Registry :=
  { registry with followers := registry.followers.modify index Follower.detach }

def ack (executionId : JsString) (finalSeq : Nat) (disposition : AckDisposition) : Registry :=
  match registry.records.get executionId, registry.streams.get executionId,
      registry.records.ack executionId finalSeq disposition with
  | some record, some stream, (records, ⟨some .acknowledged, _, _⟩) =>
    if record.tombstone then registry
    else {
      records
      streams := registry.streams.put stream.release
      followers := registry.followers.map fun follower =>
        if follower.executionId = executionId then follower.detach else follower }
  | _, _, _ => registry

def releaseScope (scopeId : JsString) : Registry :=
  let gone (executionId : JsString) :=
    (registry.records.get executionId).any (·.scopeId = scopeId)
  { records := registry.records.releaseScope scopeId
    streams := registry.streams.filter fun stream => !gone stream.executionId
    followers := registry.followers.map fun follower =>
      if gone follower.executionId then follower.detach else follower }

def step : RegistryAction → Registry
  | .begin executionId participantId scopeId now =>
    registry.begin executionId participantId scopeId now
  | .emit executionId proto now => registry.emit executionId proto now
  | .follow executionId afterSeq => registry.follow executionId afterSeq
  | .unfollow index => registry.unfollow index
  | .ack executionId finalSeq disposition => registry.ack executionId finalSeq disposition
  | .releaseScope scopeId => registry.releaseScope scopeId

def run (actions : List RegistryAction) : Registry := actions.foldl step registry

end Registry

/-- The replay is the text that the buffer held after the follower's number. -/
structure Joined (follower : Follower) : Prop where
  text : follower.replayed.flatMap RuntimeEvent.text = follower.joined.textAfter follower.afterSeq
  whole : follower.afterSeq = 0 →
    follower.replayed.flatMap RuntimeEvent.text = follower.joined.kept.flatMap RuntimeEvent.text
  sublist : follower.joined.kept.Sublist follower.joined.emitted
  unpressed : follower.joined.mergedAt = 0 → follower.joined.released = false →
    follower.replayed.flatMap RuntimeEvent.text =
      (follower.joined.emitted.filter fun event => follower.afterSeq < event.seq).flatMap RuntimeEvent.text

def Live (registry : Registry) (follower : Follower) : Prop :=
  ∃ record stream, registry.records.get follower.executionId = some record ∧
    registry.streams.get follower.executionId = some stream ∧
    stream.emitted = follower.joined.emitted ++ follower.heard

structure Tracked (registry : Registry) : Prop where
  streamed : ∀ {executionId record}, registry.records.get executionId = some record →
    ∃ stream, registry.streams.get executionId = some stream ∧ Streamed record stream
  joined : ∀ follower ∈ registry.followers, Joined follower
  live : ∀ follower ∈ registry.followers, follower.attached = true → Live registry follower

namespace Streamed

variable {record : ExecutionRecord} {stream : Stream}

theorem replays (held : Streamed record stream) (executionId : JsString) (afterSeq : Nat)
    (attached : Bool) : Joined ⟨executionId, afterSeq, stream,
      record.events.filter (·.seq > afterSeq), [], attached⟩ where
  text := held.buffered.texts afterSeq
  whole start := by
    simp only at start
    subst start
    rw [← held.buffered.textAfter_zero]
    exact held.buffered.texts 0
  sublist := held.buffered.sublist
  unpressed unmerged retained := by
    simp only at unmerged retained ⊢
    have own : ∀ event, stream.position event = event.seq := by
      intro event
      rw [Stream.position, unmerged, if_neg (Nat.not_lt_zero _)]
    have texts := held.buffered.texts afterSeq
    simp only [Stream.textAfter, own, held.unpressed unmerged retained] at texts
    exact texts

end Streamed

namespace Tracked

variable {registry : Registry} {changed : ExecutionRecord} {stream : Stream}

theorem streamed_put (tracked : Tracked registry) (streamed : Streamed changed stream)
    {executionId : JsString} {record : ExecutionRecord}
    (present : (registry.records.put changed).get executionId = some record) :
    ∃ other, (registry.streams.put stream).get executionId = some other ∧ Streamed record other := by
  rw [get_put] at present ⊢
  rw [streamed.buffered.id]
  split at present
  · rename_i same
    cases present
    exact ⟨stream, if_pos same, streamed⟩
  · rename_i different
    obtain ⟨other, tracks, holds⟩ := tracked.streamed present
    exact ⟨other, (if_neg different).trans tracks, holds⟩

variable {followers : List Follower}

theorem live_put {follower : Follower} (streamed : Streamed changed stream)
    (different : follower.executionId ≠ changed.executionId) (live : Live registry follower) :
    Live ⟨registry.records.put changed, registry.streams.put stream, followers⟩ follower := by
  obtain ⟨record, other, known, tracks, heard⟩ := live
  refine ⟨record, other, ?_, ?_, heard⟩
  · exact (get_put_other different).trans known
  · exact (get_put_other (streamed.buffered.id ▸ different)).trans tracks

section

variable (tracked : Tracked registry)

include tracked

theorem «begin» (executionId participantId scopeId now : JsString) :
    Tracked (registry.begin executionId participantId scopeId now) := by
  cases found : registry.records.get executionId with
  | some existing =>
    have same : registry.begin executionId participantId scopeId now = registry := by
      simp only [Registry.begin, Records.begin, found]
    rw [same]
    exact tracked
  | none =>
    have started : registry.begin executionId participantId scopeId now =
        { registry with
          records := registry.records.put (.fresh executionId participantId scopeId now)
          streams := registry.streams.put (.fresh executionId) } := by
      simp only [Registry.begin, Records.begin, found]
    rw [started]
    have streamed : Streamed (ExecutionRecord.fresh executionId participantId scopeId now)
        (.fresh executionId) := .fresh
    refine ⟨tracked.streamed_put streamed, tracked.joined, ?_⟩
    intro follower member attached
    have live := tracked.live follower member attached
    refine live_put streamed ?_ live
    intro same
    obtain ⟨record, -, known, -⟩ := live
    rw [same] at known
    exact absurd (found.symm.trans known) (by simp)

theorem emit_cases (executionId : JsString) (proto : DriverEvent) (now : JsString) :
    registry.emit executionId proto now = registry ∨
      ∃ record stream buffered event, registry.records.get executionId = some record ∧
        registry.streams.get executionId = some stream ∧ event.executionId = executionId ∧
        SameExecution record buffered ∧ Streamed buffered (stream.take record event now) ∧
        registry.emit executionId proto now = {
          records := registry.records.put buffered
          streams := registry.streams.put (stream.take record event now)
          followers := registry.followers.map (·.hear event) } := by
  cases found : registry.records.get executionId with
  | none => exact .inl (by simp only [Registry.emit, Records.emit, found])
  | some record =>
    obtain ⟨stream, tracks, streamed⟩ := tracked.streamed found
    by_cases ended : record.tombstone = true ∨ record.terminal.isSome = true
    · exact .inl (by simp only [Registry.emit, Records.emit, found, tracks, ended, if_true])
    · have live : record.terminal = none := by
        cases terminal : record.terminal with
        | none => rfl
        | some event => simp [terminal] at ended
      obtain ⟨buffered, event, emitted, own, same, next⟩ := streamed.next live proto now
      refine .inr ⟨record, stream, buffered, event, rfl, tracks, ?_, same, next, ?_⟩
      · rw [own, (get_mem found).2]
      · simp only [Registry.emit, Records.emit, found, tracks, ended, if_false, emitted]

theorem emit (executionId : JsString) (proto : DriverEvent) (now : JsString) :
    Tracked (registry.emit executionId proto now) := by
  rcases tracked.emit_cases executionId proto now with same |
    ⟨record, stream, buffered, event, found, tracks, own, kept, streamed, emitted⟩
  · rw [same]
    exact tracked
  rw [emitted]
  have recordId : buffered.executionId = executionId :=
    kept.executionId.trans (get_mem found).2
  have streamId : (stream.take record event now).executionId = executionId :=
    streamed.buffered.id.trans recordId
  refine ⟨tracked.streamed_put streamed, ?_, ?_⟩
  · intro follower member
    obtain ⟨old, oldMember, rfl⟩ := mem_map.mp member
    have joined := tracked.joined old oldMember
    simp only [Follower.hear]
    split
    · exact ⟨joined.1, joined.2, joined.3, joined.4⟩
    · exact joined
  · intro follower member attached
    obtain ⟨old, oldMember, rfl⟩ := mem_map.mp member
    by_cases hears : old.attached = true ∧ old.executionId = event.executionId
    · have id : old.executionId = executionId := hears.2.trans own
      obtain ⟨_, before, -, oldTracks, heard⟩ := tracked.live old oldMember hears.1
      rw [id, tracks] at oldTracks
      cases oldTracks
      rw [Follower.hear, if_pos hears]
      refine ⟨buffered, stream.take record event now, ?_, ?_, ?_⟩
      · exact get_put.trans (if_pos (id.trans recordId.symm))
      · exact get_put.trans (if_pos (id.trans streamId.symm))
      · simp only [Stream.take, heard, append_assoc]
    · rw [Follower.hear, if_neg hears] at attached ⊢
      have different : old.executionId ≠ executionId := fun same =>
        hears ⟨attached, same.trans own.symm⟩
      exact live_put streamed (recordId ▸ different) (tracked.live old oldMember attached)

theorem follow (executionId : JsString) (afterSeq : Nat) :
    Tracked (registry.follow executionId afterSeq) := by
  cases found : registry.records.get executionId with
  | none =>
    have same : registry.follow executionId afterSeq = registry := by
      simp only [Registry.follow, found]
    rw [same]
    exact tracked
  | some record =>
    obtain ⟨joined, tracks, streamed⟩ := tracked.streamed found
    simp only [Registry.follow, Records.replay, found, tracks, Option.map_some]
    refine ⟨tracked.streamed, ?_, ?_⟩
    · intro follower member
      rcases mem_append.mp member with old | new
      · exact tracked.joined follower old
      · rw [mem_singleton.mp new]
        exact streamed.replays executionId afterSeq _
    · intro follower member attached
      rcases mem_append.mp member with old | new
      · exact tracked.live follower old attached
      · rw [mem_singleton.mp new]
        exact ⟨record, joined, found, tracks, by rw [append_nil]⟩

theorem detached
    (from_ : ∀ follower ∈ followers, ∃ old ∈ registry.followers, follower = old ∨ follower = old.detach) :
    Tracked { registry with followers } where
  streamed := tracked.streamed
  joined follower member := by
    obtain ⟨old, oldMember, same⟩ := from_ follower member
    have joined := tracked.joined old oldMember
    cases same with
    | inl same => exact same ▸ joined
    | inr left => exact left ▸ ⟨joined.1, joined.2, joined.3, joined.4⟩
  live follower member attached := by
    obtain ⟨old, oldMember, same⟩ := from_ follower member
    cases same with
    | inl same => exact same ▸ tracked.live old oldMember (same ▸ attached)
    | inr left =>
      rw [left] at attached
      contradiction

end

theorem detach_if {old : Follower} (gone : Bool) : (if gone then old.detach else old) = old ∨
    (if gone then old.detach else old) = old.detach := by
  cases gone with
  | true => exact .inr rfl
  | false => exact .inl rfl

section

variable (tracked : Tracked registry)

include tracked

theorem unfollow (index : Nat) : Tracked (registry.unfollow index) := by
  refine tracked.detached fun follower member => ?_
  obtain ⟨place, bound, rfl⟩ := mem_iff_getElem.mp member
  have within : place < registry.followers.length := by simpa using bound
  refine ⟨registry.followers[place], getElem_mem within, ?_⟩
  rw [getElem_modify]
  split
  · exact .inr rfl
  · exact .inl rfl

theorem ack_cases (executionId : JsString) (finalSeq : Nat) (disposition : AckDisposition) :
    registry.ack executionId finalSeq disposition = registry ∨
      ∃ record stream acked, registry.records.get executionId = some record ∧
        registry.streams.get executionId = some stream ∧ acked.executionId = executionId ∧
        Streamed acked stream.release ∧
        registry.ack executionId finalSeq disposition = {
          records := registry.records.put acked
          streams := registry.streams.put stream.release
          followers := registry.followers.map fun follower =>
            if follower.executionId = executionId then follower.detach else follower } := by
  cases found : registry.records.get executionId with
  | none => exact .inl (by simp only [Registry.ack, found])
  | some record =>
    obtain ⟨stream, tracks, streamed⟩ := tracked.streamed found
    by_cases before : record.tombstone = true
    · refine .inl ?_
      by_cases same : record.disposition = some disposition
      · simp only [Registry.ack, Records.ack, found, tracks, before, same, if_true, true_or]
      · simp only [Registry.ack, Records.ack, found, tracks, before, same, if_true, if_false, true_or]
    · have pending : ¬ record.ackState = .acknowledged := fun acked =>
        before (streamed.tombstone.mpr acked)
      cases terminal : record.terminal with
      | none =>
        exact .inl (by
          simp [Registry.ack, Records.ack, found, tracks, before, pending, terminal])
      | some event =>
        by_cases final : event.seq = finalSeq
        · refine .inr ⟨record, stream, _, rfl, tracks, ?_, streamed.acknowledged disposition, ?_⟩
          · exact (get_mem found).2
          · simp only [Registry.ack, Records.ack, found, tracks, before, pending, terminal,
              final, or_self, if_false, ne_eq, not_true_eq_false, Bool.false_eq_true]
        · exact .inl (by
            simp [Registry.ack, Records.ack, found, tracks, before, pending, terminal, final])

theorem ack (executionId : JsString) (finalSeq : Nat) (disposition : AckDisposition) :
    Tracked (registry.ack executionId finalSeq disposition) := by
  rcases tracked.ack_cases executionId finalSeq disposition with same |
    ⟨record, stream, acked, found, tracks, recordId, streamed, ended⟩
  · rw [same]
    exact tracked
  rw [ended]
  have streamId : stream.release.executionId = executionId := streamed.buffered.id.trans recordId
  have left : Tracked { registry with followers := registry.followers.map fun follower =>
      if follower.executionId = executionId then follower.detach else follower } :=
    tracked.detached fun follower member => by
      obtain ⟨old, oldMember, rfl⟩ := mem_map.mp member
      refine ⟨old, oldMember, ?_⟩
      simpa using detach_if (old.executionId = executionId)
  refine ⟨tracked.streamed_put streamed, left.joined, ?_⟩
  intro follower member attached
  refine live_put streamed ?_ (left.live follower member attached)
  obtain ⟨old, oldMember, rfl⟩ := mem_map.mp member
  by_cases leaves : old.executionId = executionId
  · simp [leaves, Follower.detach] at attached
  · rw [if_neg leaves, recordId]
    exact leaves

theorem releaseScope (scopeId : JsString) : Tracked (registry.releaseScope scopeId) := by
  have left : Tracked { registry with followers := registry.followers.map fun follower =>
      if (registry.records.get follower.executionId).any (·.scopeId = scopeId) then follower.detach
      else follower } :=
    tracked.detached fun follower member => by
      obtain ⟨old, oldMember, rfl⟩ := mem_map.mp member
      exact ⟨old, oldMember, detach_if _⟩
  -- A record that stays keeps its stream.
  have stays : ∀ {executionId record stream}, registry.records.get executionId = some record →
      record.scopeId ≠ scopeId → registry.streams.get executionId = some stream →
      (registry.records.releaseScope scopeId).get executionId = some record ∧
        (registry.releaseScope scopeId).streams.get executionId = some stream := by
    intro executionId record stream found other tracks
    have id := (get_mem tracks).2
    constructor
    · rw [Records.releaseScope, get_filter, found]
      simp [Option.filter, other]
    · simp only [Registry.releaseScope]
      rw [get_filter, tracks]
      simp [Option.filter, id, found, other]
  refine ⟨?_, left.joined, ?_⟩
  · intro executionId record present
    simp only [Registry.releaseScope, Records.releaseScope, get_filter,
      Option.filter_eq_some_iff, decide_eq_true_eq] at present
    obtain ⟨stream, tracks, streamed⟩ := tracked.streamed present.1
    exact ⟨stream, (stays present.1 present.2 tracks).2, streamed⟩
  · intro follower member attached
    obtain ⟨record, stream, known, tracks, heard⟩ := left.live follower member attached
    have other : record.scopeId ≠ scopeId := by
      intro same
      obtain ⟨old, oldMember, rfl⟩ := mem_map.mp member
      cases leaves : (registry.records.get old.executionId).any (·.scopeId = scopeId) with
      | true => simp [leaves, Follower.detach] at attached
      | false =>
        simp only [leaves, Bool.false_eq_true, if_false] at known
        simp [known, same] at leaves
    obtain ⟨keeps, keepsStream⟩ := stays known other tracks
    exact ⟨record, stream, keeps, keepsStream, heard⟩

theorem step (action : RegistryAction) : Tracked (registry.step action) := by
  cases action with
  | begin executionId participantId scopeId now =>
    exact tracked.begin executionId participantId scopeId now
  | emit executionId proto now => exact tracked.emit executionId proto now
  | follow executionId afterSeq => exact tracked.follow executionId afterSeq
  | unfollow index => exact tracked.unfollow index
  | ack executionId finalSeq disposition => exact tracked.ack executionId finalSeq disposition
  | releaseScope scopeId => exact tracked.releaseScope scopeId

theorem run (actions : List RegistryAction) : Tracked (registry.run actions) := by
  induction actions generalizing registry with
  | nil => exact tracked
  | cons action rest ih => exact ih (tracked.step action)

end

theorem empty : Tracked .empty := by
  refine ⟨?_, ?_, ?_⟩
  · intro executionId record present
    contradiction
  all_goals simp [Registry.empty]

end Tracked

/-- The numbers, the end, the order and the bytes of every stream. -/
theorem stream_of_record (actions : List RegistryAction) {executionId : JsString} {record : ExecutionRecord}
    (found : (Registry.empty.run actions).records.get executionId = some record) :
    ∃ stream, (Registry.empty.run actions).streams.get executionId = some stream ∧
      Numbered record stream.emitted ∧
      (∀ event, record.terminal = some event → record.ackState ≠ .acknowledged → event ∈ record.events) ∧
      (record.events.Pairwise fun left right => left.seq < right.seq) ∧
      record.bufferedBytes = bytes record.events := by
  obtain ⟨stream, tracks, streamed⟩ := (Tracked.empty.run actions).streamed found
  exact ⟨stream, tracks, streamed.numbered, streamed.terminal, streamed.buffered.ordered,
    streamed.buffered.bytes⟩

def sampleActions : List RegistryAction :=
  [.begin (js "e") (js "p") (js "s") (js "t"), .emit (js "e") (.outputDelta (js "a")) (js "t"),
    .follow (js "e") 0, .emit (js "e") (.interrupted (js "timeout") .accepted .none) (js "t")]

theorem runs_sample :
    ((Registry.empty.run sampleActions).records.get (js "e")).isSome = true ∧
    (Registry.empty.run sampleActions).followers.any
      (fun follower => follower.attached && follower.afterSeq == 0) = true := by
  decide +kernel

theorem stream_of_sample : ∃ record stream,
    (Registry.empty.run sampleActions).streams.get (js "e") = some stream ∧
      Numbered record stream.emitted := by
  obtain ⟨record, found⟩ := Option.isSome_iff_exists.mp runs_sample.1
  obtain ⟨stream, tracks, numbered, -⟩ := stream_of_record sampleActions found
  exact ⟨record, stream, tracks, numbered⟩

/-- What a follower replays is the text the buffer kept after its number, and
while it is attached it hears every event since. -/
theorem followed_text (actions : List RegistryAction) {follower : Follower}
    (member : follower ∈ (Registry.empty.run actions).followers) :
    Joined follower ∧
      (follower.attached = true → Live (Registry.empty.run actions) follower) :=
  have tracked : Tracked (Registry.empty.run actions) := Tracked.empty.run actions
  ⟨tracked.joined follower member, tracked.live follower member⟩

theorem followed_sample : ∃ follower ∈ (Registry.empty.run sampleActions).followers,
    follower.afterSeq = 0 ∧ Joined follower ∧ Live (Registry.empty.run sampleActions) follower := by
  obtain ⟨follower, member, attached⟩ := any_eq_true.mp runs_sample.2
  simp only [Bool.and_eq_true, beq_iff_eq] at attached
  obtain ⟨text, live⟩ := followed_text sampleActions member
  exact ⟨follower, member, attached.2, text, live attached.1⟩

def sampleDelta (seq : Nat) (text : JsString) : RuntimeEvent :=
  ⟨js "e", seq, js "t", .outputDelta text⟩

def around (kind : JsString) (seq : Nat) : JsString × JsString :=
  (js "\x7b\"type\":\"" ++ kind ++ js "\",\"text\":\"",
    js "\",\"executionId\":\"e\",\"seq\":" ++ decimal seq ++ js ",\"at\":\"t\"\x7d")

theorem stringify_delta (seq : Nat) (text : JsString) :
    (sampleDelta seq text).json.stringify = (around (js "output.delta") seq).1 ++
      (quoteUnits text ++ (around (js "output.delta") seq).2) := by
  simp only [sampleDelta, RuntimeEvent.json, DriverEvent.members, RuntimeEvent.finalSeq,
    stringify, stringifyMembers, JsString.join, quote, around, append_assoc,
    cons_append, nil_append, Option.toList, map_nil, append_nil]
  generalize quoteUnits text = body
  generalize decimal seq = number
  rfl

theorem stringify_snapshot (seq : Nat) (text : JsString) :
    (RuntimeEvent.json ⟨js "e", seq, js "t", .outputSnapshot text⟩).stringify =
      (around (js "output.snapshot") seq).1 ++
        (quoteUnits text ++ (around (js "output.snapshot") seq).2) := by
  simp only [RuntimeEvent.json, DriverEvent.members, RuntimeEvent.finalSeq,
    stringify, stringifyMembers, JsString.join, quote, around, append_assoc,
    cons_append, nil_append, Option.toList, map_nil, append_nil]
  generalize quoteUnits text = body
  generalize decimal seq = number
  rfl

theorem utf8Length_around {text : JsString} {shell : JsString × JsString}
    (plain : ∀ unit ∈ text, isPlain unit = true)
    (ascii : ∀ unit ∈ shell.1 ++ shell.2, unit < 0x80) :
    utf8Length (shell.1 ++ (quoteUnits text ++ shell.2)) = (shell.1 ++ shell.2).length + text.length := by
  have inside : ∀ unit ∈ text, unit < 0x80 := by
    intro unit member
    have here := plain unit member
    simp only [isPlain, Bool.and_eq_true, decide_eq_true_eq] at here
    exact here.1.1.2
  rw [quoteUnits_plain plain, utf8Length_ascii]
  · simp only [length_append]
    omega
  · intro unit member
    simp only [mem_append] at member ascii
    rcases member with first | here | last
    · exact ascii unit (.inl first)
    · exact inside unit here
    · exact ascii unit (.inr last)

section Pressed

variable {text : JsString} (plain : ∀ unit ∈ text, isPlain unit = true)
  (long : text.length + 146 = executionBufferBytes)

def pressedRecord (text : JsString) : ExecutionRecord :=
  ((fresh (js "e") (js "p") (js "s") (js "t")).push (sampleDelta 1 (js "a"))).push (sampleDelta 2 text)

def isAscii (unit : CodeUnit) : Bool := decide (unit < 0x80)

theorem shells :
    (∀ seq ∈ [1, 2, 3],
      ((around (js "output.delta") seq).1 ++ (around (js "output.delta") seq).2).length = 68 ∧
      ((around (js "output.delta") seq).1 ++ (around (js "output.delta") seq).2).all isAscii = true) ∧
    ((around (js "output.snapshot") 1).1 ++ (around (js "output.snapshot") 1).2).length = 71 ∧
    ((around (js "output.snapshot") 1).1 ++ (around (js "output.snapshot") 1).2).all isAscii = true := by
  decide +kernel

theorem ascii_units {text : JsString} (ascii : text.all isAscii = true) : ∀ unit ∈ text, unit < 0x80 := by
  intro unit member
  exact of_decide_eq_true (all_eq_true.mp ascii unit member)

theorem eventBytes_delta {seq : Nat} (listed : seq ∈ [1, 2, 3]) {text : JsString}
    (plain : ∀ unit ∈ text, isPlain unit = true) :
    (sampleDelta seq text).eventBytes = 68 + text.length := by
  obtain ⟨length, ascii⟩ := shells.1 seq listed
  rw [RuntimeEvent.eventBytes, stringify_delta, utf8Length_around plain (ascii_units ascii), length]

theorem plain_first : ∀ unit ∈ js "a", isPlain unit = true := all_eq_true.mp rfl

theorem plain_third : ∀ unit ∈ js "c", isPlain unit = true := all_eq_true.mp rfl

theorem bytes_first : (sampleDelta 1 (js "a")).eventBytes = 69 :=
  eventBytes_delta (by decide) plain_first

theorem bytes_third : (sampleDelta 3 (js "c")).eventBytes = 69 :=
  eventBytes_delta (by decide) plain_third

include plain in
theorem bytes_second : (sampleDelta 2 text).eventBytes = 68 + text.length :=
  eventBytes_delta (by decide) plain

include plain in
theorem bytes_merged : (RuntimeEvent.eventBytes ⟨js "e", 1, js "t",
    .outputSnapshot (js "a" ++ text)⟩) = 72 + text.length := by
  have whole : ∀ unit ∈ js "a" ++ text, isPlain unit = true := by
    intro unit member
    rcases mem_append.mp member with first | rest
    · exact plain_first unit first
    · exact plain unit rest
  have one : (js "a").length = 1 := rfl
  rw [RuntimeEvent.eventBytes, stringify_snapshot, utf8Length_around whole (ascii_units shells.2.2),
    shells.2.1,
    length_append, one]
  omega

theorem emits_fitting {record : ExecutionRecord} {text : JsString} (named : record.executionId = js "e")
    (fits : record.bufferedBytes + (sampleDelta (record.lastSeq + 1) text).eventBytes ≤
      executionBufferBytes) :
    record.emitEvent (.outputDelta text) (js "t") =
      some (record.push (sampleDelta (record.lastSeq + 1) text), sampleDelta (record.lastSeq + 1) text) ∧
    record.presses (sampleDelta (record.lastSeq + 1) text) = false := by
  have body : record.emitEvent (.outputDelta text) (js "t") =
      (record.bufferEvent (sampleDelta (record.lastSeq + 1) text) (js "t")).map
        fun buffered => (buffered, sampleDelta (record.lastSeq + 1) text) := by
    unfold emitEvent
    rw [named]
    rfl
  refine ⟨?_, presses_eq_false.mpr (.inr fits)⟩
  rw [body, bufferEvent, if_pos (.inr fits)]
  rfl

theorem emits_first :
    (fresh (js "e") (js "p") (js "s") (js "t")).emitEvent (.outputDelta (js "a")) (js "t") =
      some ((fresh (js "e") (js "p") (js "s") (js "t")).push (sampleDelta 1 (js "a")),
        sampleDelta 1 (js "a")) ∧
    (fresh (js "e") (js "p") (js "s") (js "t")).presses (sampleDelta 1 (js "a")) = false := by
  apply emits_fitting rfl
  simp only [ExecutionRecord.fresh, Nat.zero_add, bytes_first]
  decide

include plain long in
theorem emits_second :
    ((fresh (js "e") (js "p") (js "s") (js "t")).push (sampleDelta 1 (js "a"))).emitEvent
        (.outputDelta text) (js "t") = some (pressedRecord text, sampleDelta 2 text) ∧
    ((fresh (js "e") (js "p") (js "s") (js "t")).push (sampleDelta 1 (js "a"))).presses
      (sampleDelta 2 text) = false := by
  have fits : ((fresh (js "e") (js "p") (js "s") (js "t")).push
      (sampleDelta 1 (js "a"))).bufferedBytes + (sampleDelta 2 text).eventBytes ≤ executionBufferBytes := by
    simp only [push, ExecutionRecord.fresh, bytes_first, bytes_second plain]
    omega
  exact emits_fitting rfl fits

theorem events_pressed : ((pressedRecord text).coalesce (js "t")).events =
    [⟨js "e", 1, js "t", .outputSnapshot (js "a" ++ text)⟩] := by
  have snapshot : ((pressedRecord text).coalesce (js "t")).events =
      [⟨js "e", 1, js "t", .outputSnapshot (js "a" ++ (text ++ []))⟩] := rfl
  rw [snapshot, append_nil]

include plain long in
theorem emits_third : (pressedRecord text).emitEvent (.outputDelta (js "c")) (js "t") =
    some (((pressedRecord text).coalesce (js "t")).push (sampleDelta 3 (js "c")), sampleDelta 3 (js "c")) ∧
    (pressedRecord text).presses (sampleDelta 3 (js "c")) = true ∧
    (pressedRecord text).drops (sampleDelta 3 (js "c")) (js "t") = false := by
  have before : (pressedRecord text).bufferedBytes = 137 + text.length := by
    simp only [pressedRecord, push, ExecutionRecord.fresh, bytes_second plain, bytes_first]
    omega
  have after : ((pressedRecord text).coalesce (js "t")).bufferedBytes = 72 + text.length := by
    rw [bytes_coalesce, events_pressed]
    · simp only [bytes, map_cons, map_nil, sum_cons, sum_nil,
        bytes_merged plain, Nat.add_zero]
    · simp only [pressedRecord, push, ExecutionRecord.fresh, bytes, nil_append, cons_append,
        map_cons, map_nil, sum_cons, sum_nil]
      omega
  have crowded : executionBufferBytes < (pressedRecord text).bufferedBytes +
      (sampleDelta 3 (js "c")).eventBytes := by
    rw [before, bytes_third]
    omega
  have room : ¬ executionBufferBytes < ((pressedRecord text).coalesce (js "t")).bufferedBytes +
      (sampleDelta 3 (js "c")).eventBytes := by
    rw [after, bytes_third]
    omega
  have body : (pressedRecord text).emitEvent (.outputDelta (js "c")) (js "t") =
      ((pressedRecord text).bufferEvent (sampleDelta 3 (js "c")) (js "t")).map
        fun buffered => (buffered, sampleDelta 3 (js "c")) := rfl
  have delta : (sampleDelta 3 (js "c")).body.isTerminalEvent = false := rfl
  refine ⟨?_, ?_, ?_⟩
  · have full : ¬ ((sampleDelta 3 (js "c")).body.isTerminalEvent = true ∨
        (pressedRecord text).bufferedBytes + (sampleDelta 3 (js "c")).eventBytes ≤
          executionBufferBytes) := by
      simp [delta, crowded]
    rw [body, bufferEvent, if_neg full]
    simp only [events_pressed, ordered, Bool.not_true, Bool.false_eq_true, if_false, gt_iff_lt, room,
      Option.map_some]
  · simp [ExecutionRecord.presses, delta, crowded]
  · simp only [drops, room, decide_false, Bool.and_false]

theorem emit_at {registry : Registry} {executionId now : JsString} {proto : DriverEvent}
    {record buffered : ExecutionRecord} {stream : Stream} {event : RuntimeEvent}
    (found : registry.records.get executionId = some record)
    (tracks : registry.streams.get executionId = some stream)
    (live : record.tombstone = false ∧ record.terminal = none)
    (emitted : record.emitEvent proto now = some (buffered, event)) :
    (registry.emit executionId proto now).records.get executionId = some buffered ∧
      (registry.emit executionId proto now).streams.get executionId = some (stream.take record event now) ∧
      (registry.emit executionId proto now).followers = registry.followers.map (·.hear event) := by
  have recordId : buffered.executionId = executionId :=
    (Records.executionId_emitEvent emitted).trans (get_mem found).2
  have streamId : (stream.take record event now).executionId = executionId :=
    (get_mem tracks).2
  have result : registry.emit executionId proto now = {
      records := registry.records.put buffered
      streams := registry.streams.put (stream.take record event now)
      followers := registry.followers.map (·.hear event) } := by
    simp only [Registry.emit, Records.emit, found, tracks, live, Bool.false_eq_true,
      Option.isSome_none, or_self, if_false, emitted]
  rw [result]
  exact ⟨get_put.trans (if_pos recordId.symm), get_put.trans (if_pos streamId.symm), rfl⟩

def pressedActions (text : JsString) : List RegistryAction :=
  [.begin (js "e") (js "p") (js "s") (js "t"), .emit (js "e") (.outputDelta (js "a")) (js "t"),
    .emit (js "e") (.outputDelta text) (js "t"), .emit (js "e") (.outputDelta (js "c")) (js "t"),
    .follow (js "e") 1]

include plain long in
theorem pressed_follower : ∃ follower ∈ (Registry.empty.run (pressedActions text)).followers,
    follower.afterSeq = 1 ∧ follower.attached = true ∧ follower.heard = [] ∧
      follower.joined.emitted = [sampleDelta 1 (js "a"), sampleDelta 2 text, sampleDelta 3 (js "c")] ∧
      follower.joined.kept = follower.joined.emitted ∧
      follower.replayed.flatMap RuntimeEvent.text = js "c" := by
  let start := Registry.empty.begin (js "e") (js "p") (js "s") (js "t")
  let first := start.emit (js "e") (.outputDelta (js "a")) (js "t")
  let second := first.emit (js "e") (.outputDelta text) (js "t")
  let third := second.emit (js "e") (.outputDelta (js "c")) (js "t")
  obtain ⟨emitsSecond, fits⟩ := emits_second plain long
  obtain ⟨emitsThird, presses, kept⟩ := emits_third plain long
  obtain ⟨emitsFirst, firstFits⟩ := emits_first
  have startRecord : start.records.get (js "e") = some (.fresh (js "e") (js "p") (js "s") (js "t")) := rfl
  have startStream : start.streams.get (js "e") = some (.fresh (js "e")) := rfl
  obtain ⟨firstRecord, firstStream, firstHeard⟩ :=
    emit_at startRecord startStream ⟨rfl, rfl⟩ emitsFirst
  obtain ⟨secondRecord, secondStream, secondHeard⟩ :=
    emit_at firstRecord firstStream ⟨rfl, rfl⟩ emitsSecond
  obtain ⟨thirdRecord, thirdStream, thirdHeard⟩ :=
    emit_at secondRecord secondStream ⟨rfl, rfl⟩ emitsThird
  have none : third.followers = [] := by
    rw [show third.followers = _ from thirdHeard, show second.followers = _ from secondHeard,
      show first.followers = _ from firstHeard]
    rfl
  have ended : Registry.empty.run (pressedActions text) = third.follow (js "e") 1 := by
    simp only [Registry.run, pressedActions, foldl_cons, foldl_nil, Registry.step,
      third, second, first, start]
  rw [ended, Registry.follow, thirdRecord, thirdStream, Records.replay, thirdRecord]
  refine ⟨_, mem_append_right _ (mem_singleton_self _), rfl, rfl, rfl, ?_, ?_, ?_⟩
  · rfl
  · have firstKept : (fresh (js "e") (js "p") (js "s") (js "t")).drops (sampleDelta 1 (js "a"))
        (js "t") = false := by simp [drops, firstFits]
    have secondKept : ((fresh (js "e") (js "p") (js "s") (js "t")).push
        (sampleDelta 1 (js "a"))).drops (sampleDelta 2 text) (js "t") = false := by
      simp [drops, fits]
    simp only [Stream.take, Stream.fresh, firstKept, secondKept, kept, Bool.false_eq_true, if_false]
  · simp only [push, events_pressed]
    rfl

theorem texts_after_first : ([sampleDelta 1 (js "a"), sampleDelta 2 text,
    sampleDelta 3 (js "c")].filter fun event => 1 < event.seq).flatMap RuntimeEvent.text =
      text ++ (js "c" ++ []) := rfl

end Pressed

def longText : JsString := List.replicate (executionBufferBytes - 146) 0x62

theorem plain_longText : ∀ unit ∈ longText, isPlain unit = true := by
  intro unit member
  rw [(mem_replicate.mp member).2]
  decide

theorem length_longText : longText.length + 146 = executionBufferBytes := by
  have units : longText.length = executionBufferBytes - 146 := length_replicate
  have cap : executionBufferBytes = 33554432 := rfl
  omega

/-- Nothing was dropped here, yet a resume after the first preview misses the second. -/
theorem resume_misses_merged : ¬ ∀ actions, ∀ follower ∈ (Registry.empty.run actions).followers,
    follower.joined.kept = follower.joined.emitted →
      (follower.replayed ++ follower.heard).flatMap RuntimeEvent.text =
        ((follower.joined.emitted.filter fun event => follower.afterSeq < event.seq) ++
          follower.heard).flatMap RuntimeEvent.text := by
  intro claimed
  obtain ⟨follower, member, after, -, heard, emitted, kept, replayed⟩ :=
    pressed_follower plain_longText length_longText
  have same := claimed _ follower member kept
  rw [heard, emitted, after, append_nil, append_nil, replayed, texts_after_first] at same
  have lengths := congrArg List.length same
  have long := length_longText
  have cap : executionBufferBytes = 33554432 := rfl
  simp only [length_append, append_nil] at lengths
  omega

end CouncilKit.Host
