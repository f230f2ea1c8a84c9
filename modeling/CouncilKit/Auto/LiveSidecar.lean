import CouncilKit.Auto.LiveEvents

namespace CouncilKit.Auto.LiveEvents

open Data Data.JsString AttemptLiveEvent Utf8 Json
open List hiding splitOn

variable (event : AttemptLiveEvent)

/-- An event whose line the reader takes: it has a time, and a tool has a name. -/
def AttemptLiveEvent.Sound : Prop :=
  event.at ≠ [] ∧ ∀ stage name summary, event.payload = .raw (.tool stage name summary) → name ≠ []

def readBackPayload : AttemptLiveEventPayload → AttemptLiveEventPayload
  | .raw (.tool stage name summary) =>
    .raw (.tool stage name (clipUtf16 (trim summary) LIVE_SUMMARY_MAX))
  | payload => payload

def AttemptLiveEvent.readBack : AttemptLiveEvent :=
  { event with payload := readBackPayload event.payload }

theorem eventMembers_writable : (object (eventMembers event)).Writable := by
  refine ⟨?_, writableMembers_iff.mpr ?_⟩
  · cases shape : event.payload with
    | truncated dropped =>
      rw [eventMembers, shape]
      exact of_decide_eq_true rfl
    | raw payload =>
      rw [eventMembers, shape]
      cases payload with
      | delta kind text => exact of_decide_eq_true rfl
      | tool stage name summary => exact of_decide_eq_true rfl
  · intro member among
    cases shape : event.payload with
    | truncated dropped =>
      rw [eventMembers, shape] at among
      simp only [payloadMembers, mem_cons, not_mem_nil, or_false] at among
      obtain rfl | rfl | rfl | rfl := among <;> trivial
    | raw payload =>
      rw [eventMembers, shape] at among
      cases payload with
      | delta kind text =>
        simp only [payloadMembers, mem_cons, not_mem_nil, or_false] at among
        obtain rfl | rfl | rfl | rfl := among <;> trivial
      | tool stage name summary =>
        simp only [payloadMembers, mem_cons, not_mem_nil, or_false] at among
        obtain rfl | rfl | rfl | rfl | rfl := among <;> trivial

theorem parsePayload_event
    (named : ∀ stage name summary, event.payload = .raw (.tool stage name summary) → name ≠ []) :
    parsePayload (.object (eventMembers event)) = some (readBackPayload event.payload) := by
  cases shape : event.payload with
  | truncated dropped =>
    have found : parsePayload (.object (eventMembers event)) =
        (wholeNumber (some (.number dropped))).map .truncated := by
      rw [eventMembers, shape]
      rfl
    rw [found, wholeNumber, if_pos (Int.natCast_nonneg dropped), Int.toNat_natCast]
    rfl
  | raw payload =>
    cases payload with
    | delta kind text =>
      rw [eventMembers, shape]
      cases kind with
      | text => rfl
      | thinking => rfl
    | tool stage name summary =>
      have some_ := named stage name summary shape
      have found : parsePayload (.object (eventMembers event)) =
          if name = [] then none
          else some (.raw (.tool stage name (clipUtf16 (trim summary) LIVE_SUMMARY_MAX))) := by
        rw [eventMembers, shape]
        cases stage with
        | started => rfl
        | completed => rfl
      rw [found, if_neg some_]
      rfl

theorem parse_eventLine {event : AttemptLiveEvent} (sound : event.Sound) :
    parseAttemptLiveEventLine (eventLine event) = some event.readBack := by
  have numbered : memberOf (.object (eventMembers event)) (js "seq") = some (.number event.seq) := rfl
  have timed : memberOf (.object (eventMembers event)) (js "at") = some (.string event.at) := rfl
  have whole : wholeNumber (some (.number event.seq)) = some event.seq := by
    rw [wholeNumber, if_pos (Int.natCast_nonneg event.seq), Int.toNat_natCast]
  unfold parseAttemptLiveEventLine eventLine
  rw [parseRow_object (eventMembers_writable event), Option.bind_eq_bind, Option.bind_some, numbered,
    whole, Option.bind_eq_bind, Option.bind_some, timed, stringOrNull, Option.bind_eq_bind,
    Option.bind_some, if_neg sound.1, parsePayload_event event sound.2]
  rfl

theorem newline_not_mem_eventLine : 0xA ∉ eventLine event :=
  newline_not_mem (eventMembers_writable event)

theorem eventLine_ne_nil : eventLine event ≠ [] := by
  unfold eventLine
  rw [stringify_object]
  exact cons_ne_nil _ _

theorem stands_eventLine : Stands (eventLine event) := by
  have number (value : Nat) : Stands (number value).stringify := stands_ofNat value
  have string (text : JsString) : Stands (string text).stringify := stands_quote text
  apply stands_object
  cases shape : event.payload with
  | truncated dropped =>
    rw [eventMembers, shape]
    simp only [payloadMembers, forall_mem_cons, not_mem_nil, false_implies, implies_true, and_true]
    exact ⟨number _, string _, string _, number _⟩
  | raw payload =>
    rw [eventMembers, shape]
    cases payload with
    | delta kind text =>
      simp only [payloadMembers, forall_mem_cons, not_mem_nil, false_implies, implies_true, and_true]
      exact ⟨number _, string _, string _, string _⟩
    | tool stage name summary =>
      simp only [payloadMembers, forall_mem_cons, not_mem_nil, false_implies, implies_true, and_true]
      exact ⟨number _, string _, string _, string _, string _⟩

theorem splitOn_fileText {lines : List JsString} (unbroken : ∀ line ∈ lines, 0xA ∉ line) :
    splitOn 0xA (fileText lines) = lines ++ [[]] := by
  induction lines with
  | nil => rfl
  | cons line rest ih =>
    obtain ⟨here, later⟩ := forall_mem_cons.mp unbroken
    rw [fileText, flatMap_cons, append_assoc, singleton_append, splitOn_append,
      splitOn_single here]
    exact congrArg (line :: ·) (ih later)

theorem splitOn_bytesOut (events : List AttemptLiveEvent) :
    splitOn 0xA (decode (bytesOut events)) = events.map eventLine ++ [[]] := by
  unfold bytesOut
  rw [decode_fileBytes, splitOn_fileText]
  · intro line member
    obtain ⟨event, -, rfl⟩ := mem_map.mp member
    exact newline_not_mem_eventLine event
  · intro line member
    obtain ⟨event, -, rfl⟩ := mem_map.mp member
    exact stands_eventLine event

theorem byteLength_bytesOut (events : List AttemptLiveEvent) :
    byteLength (decode (bytesOut events)) = (bytesOut events).length := by
  have stand : ∀ line ∈ events.map eventLine, Stands line := by
    intro line member
    obtain ⟨event, -, rfl⟩ := mem_map.mp member
    exact stands_eventLine event
  unfold bytesOut byteLength
  rw [decode_fileBytes stand, encode_fileText]

def liveEvents (file : Option (List UInt8)) : List AttemptLiveEvent :=
  (liveLines file).filterMap parseAttemptLiveEventLine

theorem liveLines_bytesOut (events : List AttemptLiveEvent) :
    (splitOn 0xA (decode (bytesOut events))).filter (· ≠ []) = events.map eventLine := by
  rw [splitOn_bytesOut, filter_append]
  have all : (events.map eventLine).filter (· ≠ []) = events.map eventLine := by
    apply filter_eq_self.mpr
    intro line member
    obtain ⟨event, -, rfl⟩ := mem_map.mp member
    exact decide_eq_true (eventLine_ne_nil event)
  rw [all]
  exact append_nil _

variable {events : List AttemptLiveEvent}

theorem parse_lines (sound : ∀ event ∈ events, event.Sound) :
    (events.map eventLine).filterMap parseAttemptLiveEventLine = events.map (·.readBack) := by
  induction events with
  | nil => rfl
  | cons event rest ih =>
    obtain ⟨here, later⟩ := forall_mem_cons.mp sound
    rw [map_cons, filterMap_cons, parse_eventLine here]
    exact congrArg (event.readBack :: ·) (ih later)

theorem isTruncated_readBack : event.readBack.isTruncated = event.isTruncated := by
  unfold readBack isTruncated raw?
  cases event.payload with
  | truncated dropped => rfl
  | raw payload =>
    cases payload with
    | delta kind text => rfl
    | tool stage name summary => rfl

theorem hydrateLine_event {event : AttemptLiveEvent} (sound : event.Sound) (found : Nat × Bool) :
    hydrateLine found (eventLine event) = (max found.1 event.seq, found.2 || event.isTruncated) := by
  unfold hydrateLine
  rw [parse_eventLine sound]
  unfold readBack isTruncated raw?
  cases event.payload with
  | truncated dropped => rfl
  | raw payload =>
    cases payload with
    | delta kind text => rfl
    | tool stage name summary => rfl

theorem foldl_hydrateLine {first : Nat} {marked : Bool}
    (sound : ∀ event ∈ events, event.Sound)
    (numbered : events.map (·.seq) = List.range' (first + 1) events.length) :
    (events.map eventLine).foldl hydrateLine (first, marked) =
      (first + events.length, marked || events.any (·.isTruncated)) := by
  induction events generalizing first marked with
  | nil => simp
  | cons event rest ih =>
    obtain ⟨here, later⟩ := forall_mem_cons.mp sound
    rw [map_cons, length_cons, range'_succ, List.cons.injEq] at numbered
    have larger : max first event.seq = first + 1 := by
      rw [numbered.1]
      omega
    rw [map_cons, foldl_cons, hydrateLine_event here, larger, ih later numbered.2,
      length_cons, any_cons, Bool.or_assoc]
    congr 1
    omega

section Writer

variable {opts : LiveEventWriterOptions} {now : Clock} {base : List AttemptLiveEvent}
  {writing : Writing} {given : List RawLiveEvent}

variable (events : List AttemptLiveEvent)

def fileOf : Option (List UInt8) :=
  if events = [] then none else some (bytesOut events)

theorem fileOf_getD : (fileOf events).getD [] = bytesOut events := by
  unfold fileOf
  split
  · rename_i empty
    rw [empty]
    rfl
  · rfl

structure Lines (base : List AttemptLiveEvent) (writing : Writing) : Prop where
  numbered : (base ++ writing.out).map (·.seq) = List.range' 1 (base ++ writing.out).length
  sound : ∀ event ∈ base ++ writing.out, event.Sound
  last : ∀ front event back, base ++ writing.out = front ++ event :: back →
    event.isTruncated = true → back = []
  next : writing.state.nextSeq = (base ++ writing.out).length + 1
  size : writing.state.bytes = (bytesOut (base ++ writing.out)).length
  marked : writing.state.truncatedWritten = (base ++ writing.out).any (·.isTruncated)

/-- What of the text given so far is on disk, and what of it is owed. -/
structure Owes (base : List AttemptLiveEvent) (writing : Writing) (given : List RawLiveEvent)
    (owed : DeltaKind → JsString) : Prop where
  shown : ∀ kind, writtenText kind (base ++ writing.out) <+: appendedText kind given
  whole : writing.state.truncatedWritten = false → ∀ kind,
    writtenText kind (base ++ writing.out) ++ owed kind = appendedText kind given

def held (state : AttemptWriteState) (kind : DeltaKind) : JsString :=
  state.pending.elim [] fun pending => deltaText kind (.delta pending.1 pending.2)

theorem bytesOut_concat (event : AttemptLiveEvent) :
    (bytesOut (events ++ [event])).length = (bytesOut events).length + lineSize event := by
  unfold bytesOut fileBytes lineSize
  rw [map_append, flatMap_append, length_append]
  simp

theorem writtenText_concat (kind : DeltaKind) (events : List AttemptLiveEvent) (event : AttemptLiveEvent) :
    writtenText kind (events ++ [event]) =
      writtenText kind events ++ event.raw?.elim [] (deltaText kind) := by
  unfold writtenText appendedText
  rw [filterMap_append, flatMap_append, filterMap_cons]
  cases event.raw? with
  | none => rfl
  | some payload => exact congrArg (_ ++ ·) (append_nil _)

theorem appendedText_concat (kind : DeltaKind) (events : List RawLiveEvent) (event : RawLiveEvent) :
    appendedText kind (events ++ [event]) = appendedText kind events ++ deltaText kind event := by
  unfold appendedText
  rw [flatMap_append]
  exact congrArg (_ ++ ·) (append_nil _)

theorem lines_writeLine {event : AttemptLiveEvent} (lines : Lines base writing)
    (fresh : writing.state.truncatedWritten = false) (numbered : event.seq = writing.state.nextSeq)
    (sound : event.Sound) :
    Lines base (writeLine { writing with state := { writing.state with
      truncatedWritten := event.isTruncated } } event) := by
  have shape : base ++ (writeLine { writing with state := { writing.state with
      truncatedWritten := event.isTruncated } } event).out = (base ++ writing.out) ++ [event] :=
    (append_assoc ..).symm
  have none_ : ∀ other ∈ base ++ writing.out, other.isTruncated = false := by
    have unmarked := lines.marked.symm.trans fresh
    rw [any_eq_false] at unmarked
    intro other member
    exact Bool.eq_false_iff.mpr (unmarked other member)
  constructor
  · have longer : (base ++ writing.out ++ [event]).length = (base ++ writing.out).length + 1 :=
      length_append
    rw [shape, map_append, lines.numbered, map_singleton, numbered, lines.next, longer, range'_concat]
    simp [Nat.add_comm]
  · rw [shape]
    intro other member
    cases mem_append.mp member with
    | inl old => exact lines.sound other old
    | inr new => exact mem_singleton.mp new ▸ sound
  · rw [shape]
    intro front other back split marked
    cases eq_nil_or_concat back with
    | inl empty => exact empty
    | inr more =>
      obtain ⟨rest, final, rfl⟩ := more
      rw [concat_eq_append, ← cons_append, ← append_assoc] at split
      have inside : other ∈ base ++ writing.out := by
        rw [(append_inj' split rfl).1]
        exact mem_append_right _ mem_cons_self
      rw [none_ other inside] at marked
      cases marked
  · rw [shape, length_append, length_singleton]
    change writing.state.nextSeq + 1 = _
    rw [lines.next]
  · rw [shape, bytesOut_concat, ← lines.size]
    rfl
  · rw [shape, any_append, ← lines.marked, fresh, Bool.false_or]
    simp [writeLine]

theorem lines_truncated (lines : Lines base writing) : Lines base (writeTruncated now writing) := by
  unfold writeTruncated
  split
  · exact lines
  · rename_i fresh
    apply lines_writeLine lines (Bool.eq_false_iff.mpr fresh)
    · rfl
    · refine ⟨(now writing.readings).2, ?_⟩
      intro stage name summary shape
      cases shape

theorem truncated_marked : (writeTruncated now writing).state.truncatedWritten = true := by
  unfold writeTruncated
  split
  · assumption
  · rfl

theorem truncated_pending : (writeTruncated now writing).state.pending = writing.state.pending := by
  unfold writeTruncated
  split
  · rfl
  · rfl

theorem writtenText_truncated (kind : DeltaKind) :
    writtenText kind (base ++ (writeTruncated now writing).out) =
      writtenText kind (base ++ writing.out) := by
  unfold writeTruncated
  split
  · rfl
  · have shape : base ++ (writeLine { writing with state := { writing.state with
        truncatedWritten := true } } (writing.event now (.truncated (max 1 writing.state.dropped)))).out =
        (base ++ writing.out) ++ [writing.event now (.truncated (max 1 writing.state.dropped))] :=
      (append_assoc ..).symm
    rw [shape, writtenText_concat]
    exact append_nil _

theorem owes_truncated {owed other : DeltaKind → JsString} (owes : Owes base writing given owed) :
    Owes base (writeTruncated now writing) given other := by
  constructor
  · intro kind
    rw [writtenText_truncated]
    exact owes.shown kind
  · intro fresh
    rw [truncated_marked] at fresh
    cases fresh

/-- What `writePayload` leaves of a writer. -/
structure Settled (base : List AttemptLiveEvent) (writing : Writing) (given : List RawLiveEvent) :
    Prop where
  lines : Lines base writing
  owes : Owes base writing given fun _ => []
  idle : writing.state.pending = none

def RawLiveEvent.Named (event : RawLiveEvent) : Prop :=
  ∀ stage name summary, event = .tool stage name summary → name ≠ []

theorem lines_drop (lines : Lines base writing) : Lines base writing.drop :=
  ⟨lines.numbered, lines.sound, lines.last, lines.next, lines.size, lines.marked⟩

theorem settled_writePayload {payload : RawLiveEvent} (named : payload.Named)
    (lines : Lines base writing) (idle : writing.state.pending = none)
    (owes : Owes base writing given fun kind => deltaText kind payload) :
    Settled base (writePayload opts now writing payload) given := by
  have cut (other : Writing) (same : Lines base other) (none_ : other.state.pending = none)
      (less : Owes base other given fun kind => deltaText kind payload) :
      Settled base (writeTruncated now other) given :=
    ⟨lines_truncated same, owes_truncated less, truncated_pending.trans none_⟩
  have dropped : Owes base writing.drop given fun kind => deltaText kind payload :=
    ⟨owes.shown, owes.whole⟩
  unfold writePayload
  split
  · split
    · exact cut _ (lines_drop lines) idle dropped
    · exact cut _ lines idle owes
  · rename_i open_
    rw [not_or] at open_
    have fresh := Bool.eq_false_iff.mpr open_.1
    dsimp only
    split
    · have same := lines_drop lines
      exact cut _ ⟨same.numbered, same.sound, same.last, same.next, same.size, same.marked⟩ idle
        ⟨owes.shown, owes.whole⟩
    · have kept : { writing with state := { writing.state with
          truncatedWritten := (writing.event now (.raw payload)).isTruncated } } = writing := by
        have unmarked : (writing.event now (.raw payload)).isTruncated = writing.state.truncatedWritten :=
          fresh.symm
        rw [unmarked]
      have written := @lines_writeLine base writing (writing.event now (.raw payload)) lines fresh rfl (by
        refine ⟨(now writing.readings).2, ?_⟩
        intro stage name summary shape
        cases shape
        exact named stage name summary rfl)
      rw [kept] at written
      have shape : base ++ (writeLine writing (writing.event now (.raw payload))).out =
          (base ++ writing.out) ++ [writing.event now (.raw payload)] := (append_assoc ..).symm
      have text (kind : DeltaKind) :
          writtenText kind (base ++ (writeLine writing (writing.event now (.raw payload))).out) =
            appendedText kind given := by
        rw [shape, writtenText_concat]
        exact owes.whole fresh kind
      refine ⟨written, ⟨?_, ?_⟩, idle⟩
      · intro kind
        exact ⟨[], by rw [append_nil, text]⟩
      · intro _ kind
        rw [text, append_nil]

theorem settled_flushPending (lines : Lines base writing)
    (owes : Owes base writing given (held writing.state)) :
    Settled base (flushPending opts now writing) given := by
  have same : Lines base { writing with state := { writing.state with pending := none, timer := false } } :=
    ⟨lines.numbered, lines.sound, lines.last, lines.next, lines.size, lines.marked⟩
  have clear (empty : ∀ kind, held writing.state kind = []) :
      Settled base { writing with state := { writing.state with pending := none, timer := false } } given := by
    refine ⟨same, ⟨owes.shown, ?_⟩, rfl⟩
    intro fresh kind
    rw [← owes.whole fresh kind, empty]
  unfold flushPending
  cases pending : writing.state.pending with
  | none =>
    apply clear
    intro kind
    rw [held, pending]
    rfl
  | some entry =>
    obtain ⟨kind, text⟩ := entry
    cases text with
    | nil =>
      apply clear
      intro other
      rw [held, pending]
      exact ite_self _
    | cons unit rest =>
      apply settled_writePayload
      · intro stage name summary shape
        cases shape
      · exact same
      · rfl
      · refine ⟨owes.shown, ?_⟩
        intro fresh other
        have whole := owes.whole fresh other
        rw [held, pending] at whole
        exact whole

structure Writes (base : List AttemptLiveEvent) (writing : Writing) (given : List RawLiveEvent) :
    Prop where
  lines : Lines base writing
  owes : Owes base writing given (held writing.state)

theorem Settled.writes (settled : Settled base writing given) : Writes base writing given := by
  refine ⟨settled.lines, settled.owes.shown, ?_⟩
  intro fresh kind
  rw [← settled.owes.whole fresh kind, held, settled.idle]
  rfl

theorem Owes.shown_more {owed : DeltaKind → JsString} (owes : Owes base writing given owed)
    (event : RawLiveEvent) (kind : DeltaKind) :
    writtenText kind (base ++ writing.out) <+: appendedText kind (given ++ [event]) := by
  rw [appendedText_concat]
  exact (owes.shown kind).trans (prefix_append _ _)

section

variable (writes : Writes base writing given) (kind : DeltaKind) (text : JsString)

include writes kind text

theorem writes_holdDelta :
    Writes base (holdDelta opts now writing kind text) (given ++ [.delta kind text]) := by
  have flushed := @settled_flushPending opts now base writing given writes.lines writes.owes
  refine ⟨⟨flushed.lines.numbered, flushed.lines.sound, flushed.lines.last, flushed.lines.next,
    flushed.lines.size, flushed.lines.marked⟩, ⟨?_, ?_⟩⟩
  · intro other
    exact flushed.owes.shown_more _ other
  · intro fresh other
    rw [appendedText_concat, ← flushed.owes.whole fresh other, append_nil]
    rfl

theorem writes_mergeDelta :
    Writes base (mergeDelta opts now writing kind text) (given ++ [.delta kind text]) := by
  unfold mergeDelta
  cases pending : writing.state.pending with
  | none => exact writes_holdDelta writes kind text
  | some entry =>
    obtain ⟨before, old⟩ := entry
    dsimp only
    split
    · rename_i same
      subst same
      refine ⟨⟨writes.lines.numbered, writes.lines.sound, writes.lines.last, writes.lines.next,
        writes.lines.size, writes.lines.marked⟩, ⟨?_, ?_⟩⟩
      · intro other
        exact writes.owes.shown_more _ other
      · intro fresh other
        have whole := writes.owes.whole fresh other
        rw [held, pending] at whole
        rw [appendedText_concat, ← whole, append_assoc]
        apply congrArg (writtenText other (base ++ writing.out) ++ ·)
        simp only [held, Option.elim_some, deltaText]
        split
        · rfl
        · rfl
    · exact writes_holdDelta writes kind text

end

theorem writes_appendEvent {event : RawLiveEvent} (named : event.Named)
    (writes : Writes base writing given) :
    Writes base (appendEvent opts now writing event) (given ++ [event]) := by
  cases event with
  | delta kind text =>
    rw [appendEvent]
    split
    · rename_i marked
      refine ⟨lines_drop writes.lines, ?_, ?_⟩
      · exact writes.owes.shown_more _
      · intro fresh
        have unmarked : writing.state.truncatedWritten = false := fresh
        rw [marked] at unmarked
        cases unmarked
    · have merged := @writes_mergeDelta opts now base writing given writes kind text
      dsimp only
      split
      · exact (settled_flushPending merged.lines merged.owes).writes
      · exact merged
  | tool stage name summary =>
    have flushed := @settled_flushPending opts now base writing given writes.lines writes.owes
    rw [appendEvent]
    have owes : Owes base (flushPending opts now writing) (given ++ [.tool stage name summary])
        fun kind => deltaText kind (.tool stage name summary) := by
      refine ⟨flushed.owes.shown_more _, ?_⟩
      intro fresh kind
      rw [appendedText_concat, ← flushed.owes.whole fresh kind, append_nil]
    exact (settled_writePayload named flushed.lines flushed.idle owes).writes

theorem writes_append {events : List RawLiveEvent} (named : ∀ event ∈ events, event.Named)
    (writes : Writes base writing given) :
    Writes base (events.foldl (appendEvent opts now) writing) (given ++ events) := by
  induction events generalizing writing given with
  | nil =>
    rw [append_nil]
    exact writes
  | cons event rest ih =>
    obtain ⟨here, later⟩ := forall_mem_cons.mp named
    rw [foldl_cons, append_cons]
    exact ih later (writes_appendEvent here writes)

/-- What the next call starts from: the state held, or the one read from the file. -/
def Sidecar.resting (opts : LiveEventWriterOptions) (sidecar : Sidecar) : Writing :=
  ⟨sidecar.writer.getD (hydrateFromDisk opts sidecar.file), sidecar.readings, []⟩

/-- The file is that of some events, and what the writer knows of it is true. -/
def Kept (opts : LiveEventWriterOptions) (sidecar : Sidecar) : Prop :=
  ∃ events, sidecar.file = fileOf events ∧ Writes events (sidecar.resting opts) sidecar.appended

/-- When a step is in order.  Tools have names, as the collector gives them; a writer is only
left with no text pending, and with a file that is below the cap or says it is truncated; and
no line is torn. -/
def Orderly (opts : LiveEventWriterOptions) (sidecar : Sidecar) : SidecarAction → Prop
  | .call call => ∀ event ∈ call.events, event.Named
  | .restart => (∀ state, sidecar.writer = some state → pendingText state = []) ∧
      (sidecar.file = none ∨ (sidecar.file.getD []).length < opts.maxBytes ∨
        ∃ event ∈ liveEvents sidecar.file, event.isTruncated = true)
  | .tear _ _ _ => False

theorem lineSize_pos (event : AttemptLiveEvent) : 0 < lineSize event := by
  apply length_pos_iff.mpr
  intro empty
  have read := decode_encode (eventLine event ++ [0xA])
  rw [empty] at read
  have size := length_wellFormed (eventLine event ++ [0xA])
  have none_ : decode [] = [] := rfl
  rw [← read, none_, length_append, length_nil, length_singleton] at size
  omega

theorem bytesOut_append (events added : List AttemptLiveEvent) :
    bytesOut (events ++ added) = bytesOut events ++ bytesOut added := by
  unfold bytesOut fileBytes
  rw [map_append, flatMap_append]

theorem appendTo_fileOf (events added : List AttemptLiveEvent) :
    appendTo (fileOf events) (bytesOut added) = fileOf (events ++ added) := by
  cases added with
  | nil =>
    rw [append_nil]
    rfl
  | cons event rest =>
    have some_ : bytesOut (event :: rest) ≠ [] := by
      intro empty
      have size := bytesOut_concat [] event
      have pieces := bytesOut_append [event] rest
      rw [singleton_append, empty, eq_comm, append_eq_nil_iff] at pieces
      have line := lineSize_pos event
      rw [nil_append, pieces.1, length_nil] at size
      omega
    unfold appendTo
    rw [if_neg some_, fileOf_getD, ← bytesOut_append]
    unfold fileOf
    rw [if_neg (append_ne_nil_of_right_ne_nil _ (cons_ne_nil _ _))]

variable {events : List AttemptLiveEvent}

theorem hydrate_fileOf
    (numbered : events.map (·.seq) = List.range' 1 events.length)
    (sound : ∀ event ∈ events, event.Sound)
    (below : events = [] ∨ (bytesOut events).length < opts.maxBytes ∨ events.any (·.isTruncated) = true) :
    hydrateFromDisk opts (fileOf events) = {
      nextSeq := events.length + 1
      bytes := (bytesOut events).length
      truncatedWritten := events.any (·.isTruncated) } := by
  by_cases empty : events = []
  · rw [empty]
    rfl
  · unfold fileOf hydrateFromDisk
    rw [if_neg empty]
    dsimp only
    have found := @foldl_hydrateLine events 0 false sound numbered
    rw [splitOn_bytesOut, foldl_append, found, byteLength_bytesOut, Nat.zero_add, Bool.false_or]
    have last : [[]].foldl hydrateLine (events.length, events.any (·.isTruncated)) =
        (events.length, events.any (·.isTruncated)) := rfl
    rw [last]
    congr 1
    cases below with
    | inl none_ => exact absurd none_ empty
    | inr rest =>
      cases rest with
      | inl small => rw [decide_eq_false (Nat.not_le.mpr small), Bool.or_false]
      | inr marked => rw [marked, Bool.true_or]

theorem liveEvents_fileOf (sound : ∀ event ∈ events, event.Sound) :
    liveLines (fileOf events) = events.map eventLine ∧
      liveEvents (fileOf events) = events.map (·.readBack) := by
  have lines : liveLines (fileOf events) = events.map eventLine := by
    unfold liveLines
    rw [fileOf_getD]
    exact liveLines_bytesOut events
  refine ⟨lines, ?_⟩
  unfold liveEvents
  rw [lines]
  exact parse_lines sound

theorem Kept.start : Kept opts {} := by
  refine ⟨[], rfl, ⟨⟨rfl, forall_mem_nil _, ?_, rfl, rfl, rfl⟩, ⟨?_, ?_⟩⟩⟩
  · intro front event back split
    cases front with
    | nil => cases split
    | cons first rest => cases split
  · intro kind
    exact prefix_rfl
  · intro _ kind
    rfl

theorem kept_call {sidecar next : Sidecar} {call : WriterCall} (kept : Kept opts sidecar)
    (named : ∀ event ∈ call.events, event.Named)
    (stepped : step opts now sidecar (.call call) = some next) : Kept opts next := by
  obtain ⟨events, file, writes⟩ := kept
  obtain ⟨result, called, after⟩ := Option.map_eq_some_iff.mp stepped
  -- every call that writes goes from one writer to another, and its lines are whole
  have grow {written : Writing} (more : Writes events written (sidecar.appended ++ call.events)) :
      Kept opts {
        file := appendTo sidecar.file (bytesOut written.out)
        writer := some written.state
        readings := written.readings
        appended := sidecar.appended ++ call.events } := by
    refine ⟨events ++ written.out, ?_, ?_⟩
    · rw [file]
      exact appendTo_fileOf events written.out
    · have same : (events ++ written.out) ++ [] = events ++ written.out := append_nil _
      constructor
      · exact ⟨same.symm ▸ more.lines.numbered, same.symm ▸ more.lines.sound,
          same.symm ▸ more.lines.last, same.symm ▸ more.lines.next, same.symm ▸ more.lines.size,
          same.symm ▸ more.lines.marked⟩
      · exact ⟨same.symm ▸ more.owes.shown, same.symm ▸ more.owes.whole⟩
  cases call with
  | append given =>
    cases called
    rw [← after]
    exact grow (writes_append named writes)
  | timer =>
    unfold callWriter at called
    cases present : sidecar.writer with
    | none =>
      rw [present] at called
      cases called
    | some state =>
      rw [present] at called
      dsimp only at called
      split at called
      · cases called
        rw [← after]
        apply grow
        have start := writes
        unfold Sidecar.resting at start
        rw [present] at start
        change Writes events _ (sidecar.appended ++ [])
        rw [append_nil]
        exact (settled_flushPending ⟨start.lines.numbered, start.lines.sound, start.lines.last,
          start.lines.next, start.lines.size, start.lines.marked⟩
          ⟨start.owes.shown, start.owes.whole⟩).writes
      · cases called
  | flush =>
    unfold callWriter at called
    cases present : sidecar.writer with
    | none =>
      rw [present] at called
      cases called
      rw [← after]
      exact ⟨events, file, writes⟩
    | some state =>
      rw [present] at called
      cases called
      rw [← after]
      apply grow
      have start := writes
      unfold Sidecar.resting at start
      rw [present] at start
      change Writes events _ (sidecar.appended ++ [])
      rw [append_nil]
      exact (settled_flushPending start.lines start.owes).writes

theorem kept_restart {sidecar next : Sidecar} (kept : Kept opts sidecar)
    (orderly : Orderly opts sidecar .restart)
    (stepped : step opts now sidecar .restart = some next) : Kept opts next := by
  obtain ⟨events, file, lines, owes⟩ := kept
  obtain ⟨idle, below⟩ := orderly
  cases stepped
  have all : (sidecar.resting opts).out = [] := rfl
  have numbered := lines.numbered
  have sound := lines.sound
  have marked := lines.marked
  rw [all, append_nil] at numbered sound marked
  have cap : events = [] ∨ (bytesOut events).length < opts.maxBytes ∨
      events.any (·.isTruncated) = true := by
    cases below with
    | inl absent =>
      rw [file] at absent
      unfold fileOf at absent
      split at absent
      · exact Or.inl ‹_›
      · cases absent
    | inr rest =>
      right
      cases rest with
      | inl small =>
        rw [file, fileOf_getD] at small
        exact Or.inl small
      | inr said =>
        obtain ⟨event, member, truncated⟩ := said
        rw [file, (liveEvents_fileOf sound).2] at member
        obtain ⟨origin, listed, rfl⟩ := mem_map.mp member
        rw [isTruncated_readBack] at truncated
        exact Or.inr (any_eq_true.mpr ⟨origin, listed, truncated⟩)
  have hydrated := hydrate_fileOf numbered sound cap
  -- nothing is held back, so what is owed to the old writer and the new one is the same
  have nothing (kind : DeltaKind) : held (sidecar.resting opts).state kind = [] := by
    unfold Sidecar.resting held
    cases present : sidecar.writer with
    | none =>
      rw [Option.getD_none, file, hydrated]
      rfl
    | some state =>
      have empty := idle state present
      unfold pendingText at empty
      rw [Option.getD_some]
      cases pending : state.pending with
      | none => rfl
      | some entry =>
        rw [pending] at empty
        have blank : entry.2 = [] := empty
        rw [Option.elim_some, deltaText, blank]
        exact ite_self _
  refine ⟨events, file, ?_⟩
  have state : (Sidecar.resting opts { sidecar with writer := none }).state = {
      nextSeq := events.length + 1
      bytes := (bytesOut events).length
      truncatedWritten := events.any (·.isTruncated) } := by
    rw [← hydrated, ← file]
    rfl
  have shape : events ++ (Sidecar.resting opts { sidecar with writer := none }).out = events :=
    append_nil _
  constructor
  · constructor
    · rw [shape]
      exact numbered
    · rw [shape]
      exact sound
    · exact lines.last
    · rw [state, shape]
    · rw [state, shape]
    · rw [state, shape]
  · refine ⟨owes.shown, ?_⟩
    intro fresh kind
    rw [state] at fresh
    have whole := owes.whole (marked.trans fresh) kind
    rw [nothing] at whole
    unfold held
    rw [state]
    exact whole

theorem kept_run {actions : List SidecarAction} {final : Sidecar}
    (run : Run (step opts now) (Orderly opts) {} actions final) : Kept opts final := by
  refine run.invariant ?_ Kept.start
  intro sidecar action next kept orderly stepped
  cases action with
  | call call => exact kept_call kept orderly stepped
  | restart => exact kept_restart kept orderly stepped
  | tear call lines part => exact orderly.elim

theorem held_hydrated (file : Option (List UInt8)) (kind : DeltaKind) :
    held (hydrateFromDisk opts file) kind = [] := by
  cases file with
  | none => rfl
  | some content => rfl

theorem flush_whole {sidecar flushed : Sidecar} (kept : Kept opts sidecar)
    (stepped : step opts now sidecar (.call .flush) = some flushed) :
    ∃ events, flushed.file = fileOf events ∧ (∀ event ∈ events, event.Sound) ∧
      (events.any (·.isTruncated) = false → ∀ kind,
        writtenText kind events = appendedText kind flushed.appended) := by
  obtain ⟨events, file, writes⟩ := kept
  unfold step at stepped
  obtain ⟨result, called, after⟩ := Option.map_eq_some_iff.mp stepped
  unfold callWriter at called
  have start := writes
  unfold Sidecar.resting at start
  cases present : sidecar.writer with
  | none =>
    rw [present] at called start
    cases called
    have sound := start.lines.sound
    have marked := start.lines.marked
    have whole := start.owes.whole
    rw [append_nil] at sound marked whole
    refine ⟨events, by rw [← after]; exact file, sound, ?_⟩
    intro unmarked kind
    have text := whole (marked.trans unmarked) kind
    rw [Option.getD_none, held_hydrated, append_nil] at text
    rw [← after]
    exact text
  | some state =>
    rw [present] at called start
    cases called
    have settled := @settled_flushPending opts now events _ sidecar.appended start.lines start.owes
    refine ⟨_, ?_, settled.lines.sound, ?_⟩
    · rw [← after]
      rw [file]
      exact appendTo_fileOf events _
    · intro unmarked kind
      have text := settled.owes.whole (settled.lines.marked.trans unmarked) kind
      rw [append_nil] at text
      rw [← after]
      exact text.trans (congrArg (appendedText kind) (append_nil _).symm)

theorem seq_readBack :
    (events.map (·.readBack)).map (·.seq) = events.map (·.seq) := by
  rw [map_map]
  rfl

theorem writtenText_readBack (kind : DeltaKind) (events : List AttemptLiveEvent) :
    writtenText kind (events.map (·.readBack)) = writtenText kind events := by
  induction events with
  | nil => rfl
  | cons event rest ih =>
    have split (first : AttemptLiveEvent) (others : List AttemptLiveEvent) :
        writtenText kind (first :: others) =
          first.raw?.elim [] (deltaText kind) ++ writtenText kind others := by
      unfold writtenText appendedText
      rw [filterMap_cons]
      cases first.raw? with
      | none => rfl
      | some payload => rfl
    rw [map_cons, split, split, ih]
    congr 1
    unfold readBack raw?
    cases event.payload with
    | truncated dropped => rfl
    | raw payload =>
      cases payload with
      | delta own text => rfl
      | tool stage name summary => rfl

/-- In a run whose steps are in order every line of the file is an event, the events are
numbered from one on, nothing is behind a truncated one, the text on disk begins the text
appended, and after a flush it is all of it unless the file says that it is truncated. -/
theorem live_sidecar (opts : LiveEventWriterOptions) (now : Clock) (actions : List SidecarAction)
    (sidecar : Sidecar) (run : Run (step opts now) (Orderly opts) {} actions sidecar) :
    let events := liveEvents sidecar.file
    (∀ line ∈ liveLines sidecar.file, (parseAttemptLiveEventLine line).isSome = true) ∧
    events.map (·.seq) = List.range' 1 events.length ∧
    (∀ front event back, events = front ++ event :: back → event.isTruncated = true → back = []) ∧
    (∀ kind, writtenText kind events <+: appendedText kind sidecar.appended) ∧
    (∀ flushed, step opts now sidecar (.call .flush) = some flushed →
      (∀ event ∈ liveEvents flushed.file, event.isTruncated = false) →
      ∀ kind, writtenText kind (liveEvents flushed.file) = appendedText kind sidecar.appended) := by
  intro events
  have kept := kept_run run
  have start := kept
  obtain ⟨stored, file, lines, owes⟩ := start
  have all : (sidecar.resting opts).out = [] := rfl
  have numbered := lines.numbered
  have sound := lines.sound
  have last := lines.last
  have shown := owes.shown
  rw [all, append_nil] at numbered sound
  simp only [all, append_nil] at last shown
  obtain ⟨linesOf, eventsOf⟩ := liveEvents_fileOf sound
  have same : events = stored.map (·.readBack) := by
    rw [← eventsOf, ← file]
  refine ⟨?_, ?_, ?_, ?_, ?_⟩
  · intro line member
    rw [file, linesOf] at member
    obtain ⟨event, listed, rfl⟩ := mem_map.mp member
    rw [parse_eventLine (sound event listed)]
    rfl
  · rw [same, seq_readBack, length_map, numbered]
  · intro front event back split marked
    rw [same] at split
    obtain ⟨before, behind, rfl, rfl, tail⟩ := map_eq_append_iff.mp split
    obtain ⟨origin, rest, rfl, rfl, rfl⟩ := map_eq_cons_iff.mp tail
    rw [isTruncated_readBack] at marked
    rw [last before origin rest rfl marked]
    rfl
  · intro kind
    rw [same, writtenText_readBack]
    exact shown kind
  · intro flushed stepped unmarked kind
    obtain ⟨written, content, alsoSound, whole⟩ := flush_whole kept stepped
    rw [content, (liveEvents_fileOf alsoSound).2] at unmarked ⊢
    have none_ : written.any (·.isTruncated) = false := by
      apply any_eq_false.mpr
      intro event member marked
      have free := unmarked event.readBack (mem_map_of_mem member)
      rw [isTruncated_readBack, marked] at free
      cases free
    rw [writtenText_readBack, whole none_]
    unfold step at stepped
    obtain ⟨result, called, after⟩ := Option.map_eq_some_iff.mp stepped
    rw [← after]
    cases result with
    | none => rfl
    | some writing => exact congrArg (appendedText kind) (append_nil _)

end Writer

section Sample

instance (event : RawLiveEvent) : Decidable event.Named :=
  match event with
  | .delta _ _ => isTrue fun _ _ _ shape => nomatch shape
  | .tool stage name summary => decidable_of_iff (name ≠ [])
      ⟨fun some_ _ _ _ shape => (RawLiveEvent.tool.inj shape).2.1 ▸ some_,
        fun named => named stage name summary rfl⟩

instance (opts : LiveEventWriterOptions) (sidecar : Sidecar) (action : SidecarAction) :
    Decidable (Orderly opts sidecar action) :=
  match action with
  | .call call => inferInstanceAs (Decidable (∀ event ∈ call.events, event.Named))
  | .restart =>
    have : Decidable (∀ state, sidecar.writer = some state → pendingText state = []) :=
      inferInstanceAs (Decidable (∀ state ∈ sidecar.writer, pendingText state = []))
    inferInstanceAs (Decidable (_ ∧ (_ ∨ _ ∨ ∃ event ∈ liveEvents sidecar.file, _)))
  | .tear _ _ _ => isFalse id

def sampleClock : Clock := fun _ => ⟨js "t", by decide⟩

def sampleTool : RawLiveEvent := .tool .completed (js "Bash") (js "ls")

def twoProcesses : List SidecarAction :=
  [.call (.append [.delta .text (js "he"), .delta .text (js "llo"), sampleTool]), .restart,
    .call (.append [.delta .thinking (js "so")]), .call .timer]

/-- Two writers one after the other: the second goes on where the first stopped. -/
theorem live_sidecar_resumed :
    ∃ sidecar, Run (step {} sampleClock) (Orderly {}) {} twoProcesses sidecar ∧
      (liveEvents sidecar.file).map (·.seq) = List.range' 1 (liveEvents sidecar.file).length ∧
      ∀ kind, writtenText kind (liveEvents sidecar.file) <+: appendedText kind sidecar.appended := by
  have ends : (execute (guarded (step {} sampleClock) (Orderly {})) {} twoProcesses).isSome = true := by
    decide +kernel
  obtain ⟨sidecar, ended⟩ := Option.isSome_iff_exists.mp ends
  have run := execute_guarded ended
  obtain ⟨-, numbered, -, shown, -⟩ := live_sidecar {} sampleClock twoProcesses sidecar run
  exact ⟨sidecar, run, numbered, shown⟩

/-- A tool takes the file to the cap, and the next process appends a text. -/
def fullFile : List SidecarAction :=
  [.call (.append [sampleTool]), .restart, .call (.append [.delta .text (js "hi")]), .call .flush]

/-- The process ends within the line it flushes, and the next one appends a tool. -/
def tornLine : List SidecarAction :=
  [.call (.append [.delta .text (js "hi")]), .tear .flush 0 5, .call (.append [sampleTool])]

def heldText : List SidecarAction :=
  [.call (.append [.delta .text (js "a")]), .restart, .call (.append [.delta .text (js "b")]), .call .flush]

/-- At the cap a text is dropped with no truncated line to say so; behind a torn line the next
is lost as well; and what was held back leaves a gap in the text. -/
theorem restarts_lose :
    (∃ sidecar, Run (step { maxBytes := 60 } sampleClock) anyStep {} fullFile sidecar ∧
      (∀ event ∈ liveEvents sidecar.file, event.isTruncated = false) ∧
      writtenText .text (liveEvents sidecar.file) ≠ appendedText .text sidecar.appended) ∧
    (∃ sidecar, Run (step {} sampleClock) anyStep {} tornLine sidecar ∧
      ∃ line ∈ liveLines sidecar.file, parseAttemptLiveEventLine line = none) ∧
    (∃ sidecar, Run (step {} sampleClock) anyStep {} heldText sidecar ∧
      ¬ writtenText .text (liveEvents sidecar.file) <+: appendedText .text sidecar.appended) := by
  refine ⟨?_, ?_, ?_⟩
  · have ends : (execute (step { maxBytes := 60 } sampleClock) {} fullFile).any (fun sidecar : Sidecar =>
        decide ((∀ event ∈ liveEvents sidecar.file, event.isTruncated = false) ∧
          writtenText .text (liveEvents sidecar.file) ≠ appendedText .text sidecar.appended)) = true := by
      decide +kernel
    obtain ⟨sidecar, ended, holds⟩ := (Option.any_eq_true _ _).mp ends
    exact ⟨sidecar, execute_run ended fun _ _ _ => trivial, of_decide_eq_true holds⟩
  · have ends : (execute (step {} sampleClock) {} tornLine).any (fun sidecar : Sidecar =>
        decide (∃ line ∈ liveLines sidecar.file, parseAttemptLiveEventLine line = none)) = true := by
      decide +kernel
    obtain ⟨sidecar, ended, holds⟩ := (Option.any_eq_true _ _).mp ends
    exact ⟨sidecar, execute_run ended fun _ _ _ => trivial, of_decide_eq_true holds⟩
  · have ends : (execute (step {} sampleClock) {} heldText).any (fun sidecar : Sidecar =>
        decide (¬ writtenText .text (liveEvents sidecar.file) <+:
          appendedText .text sidecar.appended)) = true := by
      decide +kernel
    obtain ⟨sidecar, ended, holds⟩ := (Option.any_eq_true _ _).mp ends
    exact ⟨sidecar, execute_run ended fun _ _ _ => trivial, of_decide_eq_true holds⟩

end Sample

end CouncilKit.Auto.LiveEvents
