import CouncilKit.Data.JsonRows
import CouncilKit.Data.JsonUtf8
import CouncilKit.Data.Transition

namespace CouncilKit.Auto.LiveEvents

open Data Data.JsString

/-! What a driver says, merged and numbered, appended a line an event to
`live/<attemptId>.jsonl`.  The sidecar is observational: a writer that restarts goes by
the file alone.
-/

def LIVE_SUMMARY_MAX : Nat := 240

inductive DeltaKind where
  | text | thinking
deriving DecidableEq

inductive ToolStage where
  | started | completed

inductive RawLiveEvent where
  | delta (kind : DeltaKind) (text : JsString)
  | tool (stage : ToolStage) (name summary : JsString)

inductive AttemptLiveEventPayload where
  | raw (event : RawLiveEvent)
  | truncated (dropped : Nat)

structure AttemptLiveEvent where
  seq : Nat
  «at» : JsString
  payload : AttemptLiveEventPayload

def DeltaKind.name : DeltaKind → JsString
  | .text => js "text.delta"
  | .thinking => js "thinking.delta"

def ToolStage.name : ToolStage → JsString
  | .started => js "tool.started"
  | .completed => js "tool.completed"

/-- The members that `...payload` spreads. -/
def payloadMembers : AttemptLiveEventPayload → List (JsString × Json)
  | .raw (.delta kind text) => [(js "type", .string kind.name), (js "text", .string text)]
  | .raw (.tool stage name summary) =>
    [(js "type", .string stage.name), (js "name", .string name), (js "summary", .string summary)]
  | .truncated dropped => [(js "type", .string (js "truncated")), (js "dropped", .number dropped)]

def eventMembers (event : AttemptLiveEvent) : List (JsString × Json) :=
  (js "seq", .number event.seq) :: (js "at", .string event.at) :: payloadMembers event.payload

/-- `JSON.stringify(event)` -/
def eventLine (event : AttemptLiveEvent) : JsString := (Json.object (eventMembers event)).stringify

/-- The value of `typeof value === "number" && Number.isInteger(value) && value >= 0`. -/
def wholeNumber : Option Json → Option Nat
  | some (.number value) => if 0 ≤ value then some value.toNat else none
  | some (.fraction literal) =>
    (integerOfText literal).bind fun value => if 0 ≤ value then some value.toNat else none
  | _ => none

def deltaNamed (name : JsString) : Option DeltaKind :=
  [DeltaKind.text, .thinking].find? fun kind => kind.name = name

def stageNamed (name : JsString) : Option ToolStage :=
  [ToolStage.started, .completed].find? fun stage => stage.name = name

/-- The branches on `row.type`. -/
def parsePayload (row : Json) : Option AttemptLiveEventPayload :=
  match stringOrNull (memberOf row (js "type")) with
  | none => none
  | some type =>
    match deltaNamed type, stageNamed type with
    | some kind, _ => (stringOrNull (memberOf row (js "text"))).map fun text => .raw (.delta kind text)
    | none, some stage =>
      match stringOrNull (memberOf row (js "name")), stringOrNull (memberOf row (js "summary")) with
      | some name, some summary =>
        if name = [] then none
        else some (.raw (.tool stage name (clipUtf16 (trim summary) LIVE_SUMMARY_MAX)))
      | _, _ => none
    | none, none =>
      if type = js "truncated" then (wholeNumber (memberOf row (js "dropped"))).map .truncated
      else none

def parseAttemptLiveEventLine (line : JsString) : Option AttemptLiveEvent := do
  let row ← parseRow line
  let seq ← wholeNumber (memberOf row (js "seq"))
  let «at» ← stringOrNull (memberOf row (js "at"))
  if «at» = [] then none
  else (parsePayload row).map fun payload => { seq, «at», payload }

structure LiveEventWriterOptions where
  mergeBytes : Nat := 2 * 1024
  maxBytes : Nat := 2 * 1024 * 1024

structure AttemptWriteState where
  nextSeq : Nat := 1
  bytes : Nat := 0
  dropped : Nat := 0
  truncatedWritten : Bool := false
  pending : Option (DeltaKind × JsString) := none
  /-- A timer is armed. -/
  timer : Bool := false

/-- `new Date(now()).toISOString()` at each of its calls in turn. -/
abbrev Clock := Nat → { text : JsString // text ≠ [] }

/-- A call on the writer: its state, the readings of the clock so far, and the events of the
lines it appends. -/
structure Writing where
  state : AttemptWriteState
  readings : Nat
  out : List AttemptLiveEvent := []

section Writer

variable (opts : LiveEventWriterOptions) (now : Clock)

def lineSize (event : AttemptLiveEvent) : Nat := (Utf8.encode (eventLine event ++ [0xA])).length

variable (writing : Writing)

def Writing.event (payload : AttemptLiveEventPayload) : AttemptLiveEvent where
  seq := writing.state.nextSeq
  «at» := (now writing.readings).1
  payload := payload

def writeLine (event : AttemptLiveEvent) : Writing :=
  { state := { writing.state with
      bytes := writing.state.bytes + lineSize event
      nextSeq := writing.state.nextSeq + 1 }
    readings := writing.readings + 1
    out := writing.out ++ [event] }

def writeTruncated : Writing :=
  if writing.state.truncatedWritten then writing
  else
    writeLine { writing with state := { writing.state with truncatedWritten := true } }
      (writing.event now (.truncated (max 1 writing.state.dropped)))

def RawLiveEvent.isDelta : RawLiveEvent → Bool
  | .delta _ _ => true
  | .tool _ _ _ => false

def Writing.drop : Writing :=
  { writing with state := { writing.state with dropped := writing.state.dropped + 1 } }

def writePayload (payload : RawLiveEvent) : Writing :=
  if writing.state.truncatedWritten ∨ opts.maxBytes ≤ writing.state.bytes then
    writeTruncated now (if payload.isDelta then writing.drop else writing)
  else
    let event := writing.event now (.raw payload)
    if payload.isDelta ∧ opts.maxBytes < writing.state.bytes + lineSize event then
      writeTruncated now { writing.drop with readings := writing.readings + 1 }
    else writeLine writing event

def flushPending : Writing :=
  let cleared := { writing with state := { writing.state with pending := none, timer := false } }
  match writing.state.pending with
  | none | some (_, []) => cleared
  | some (kind, text) => writePayload opts now cleared (.delta kind text)

/-- A delta of another kind than the pending one: flush that, hold this and arm the timer. -/
def holdDelta (kind : DeltaKind) (text : JsString) : Writing :=
  let flushed := flushPending opts now writing
  { flushed with state := { flushed.state with pending := some (kind, text), timer := true } }

def mergeDelta (kind : DeltaKind) (text : JsString) : Writing :=
  match writing.state.pending with
  | none => holdDelta opts now writing kind text
  | some (held, before) =>
    if held = kind then
      { writing with state := { writing.state with pending := some (kind, before ++ text) } }
    else holdDelta opts now writing kind text

def pendingText (state : AttemptWriteState) : JsString := state.pending.elim [] (·.2)

/-- The loop body of `append`. -/
def appendEvent : RawLiveEvent → Writing
  | .delta kind text =>
    if writing.state.truncatedWritten then writing.drop
    else
      let merged := mergeDelta opts now writing kind text
      if opts.mergeBytes ≤ Utf8.byteLength (pendingText merged.state) then flushPending opts now merged
      else merged
  | .tool stage name summary =>
    writePayload opts now (flushPending opts now writing) (.tool stage name summary)

/-- The loop of `hydrateFromDisk` over the lines of the file. -/
def hydrateLine (found : Nat × Bool) (line : JsString) : Nat × Bool :=
  match parseAttemptLiveEventLine line with
  | none => found
  | some event =>
    (max found.1 event.seq,
      found.2 || match event.payload with
        | .truncated _ => true
        | .raw _ => false)

def hydrateFromDisk (file : Option (List UInt8)) : AttemptWriteState :=
  match file with
  | none => {}
  | some content =>
    let text := Utf8.decode content
    let bytes := Utf8.byteLength text
    let found := (splitOn 0xA text).foldl hydrateLine (0, false)
    { nextSeq := found.1 + 1
      bytes
      truncatedWritten := found.2 || opts.maxBytes ≤ bytes }

/-- An attempt's file, the writer of the process that runs, and what was appended so far. -/
structure Sidecar where
  file : Option (List UInt8) := none
  writer : Option AttemptWriteState := none
  readings : Nat := 0
  appended : List RawLiveEvent := []

inductive WriterCall where
  | append (events : List RawLiveEvent)
  | timer
  | flush

def WriterCall.events : WriterCall → List RawLiveEvent
  | .append events => events
  | _ => []

/-- A call, up to the lines it appends; `none` when no timer is armed to fire. -/
def callWriter (sidecar : Sidecar) : WriterCall → Option (Option Writing)
  | .append events =>
    let state := sidecar.writer.getD (hydrateFromDisk opts sidecar.file)
    some (some (events.foldl (appendEvent opts now) ⟨state, sidecar.readings, []⟩))
  | .timer =>
    match sidecar.writer with
    | some state =>
      if state.timer then
        some (some (flushPending opts now ⟨{ state with timer := false }, sidecar.readings, []⟩))
      else none
    | none => none
  | .flush =>
    some (sidecar.writer.map fun state => flushPending opts now ⟨state, sidecar.readings, []⟩)

def bytesOut (events : List AttemptLiveEvent) : List UInt8 := Utf8.fileBytes (events.map eventLine)

/-- `appendPrivateFile`; a file is there once something was written. -/
def appendTo (file : Option (List UInt8)) (bytes : List UInt8) : Option (List UInt8) :=
  if bytes = [] then file else some (file.getD [] ++ bytes)

inductive SidecarAction where
  | call (call : WriterCall)
  /-- The process ends between two calls; the next one has a writer of its own. -/
  | restart
  /-- The process ends while a call writes: some lines are whole, and of the next one a part
  is on disk. -/
  | tear (call : WriterCall) (lines part : Nat)

def step (sidecar : Sidecar) : SidecarAction → Option Sidecar
  | .call call =>
    (callWriter opts now sidecar call).map fun
      | none => sidecar
      | some writing => {
          file := appendTo sidecar.file (bytesOut writing.out)
          writer := some writing.state
          readings := writing.readings
          appended := sidecar.appended ++ call.events }
  | .restart => some { sidecar with writer := none }
  | .tear call lines part =>
    (callWriter opts now sidecar call).bind fun
      | none => none
      | some writing =>
        match writing.out[lines]? with
        | none => none
        | some event =>
          let line := Utf8.encode (eventLine event ++ [0xA])
          if 0 < part ∧ part < line.length then
            some {
              file := appendTo sidecar.file (bytesOut (writing.out.take lines) ++ line.take part)
              writer := none
              readings := writing.readings
              appended := sidecar.appended ++ call.events }
          else none

end Writer

def liveLines (file : Option (List UInt8)) : List JsString :=
  (splitOn 0xA (Utf8.decode (file.getD []))).filter (· ≠ [])

def deltaText (kind : DeltaKind) : RawLiveEvent → JsString
  | .delta other text => if other = kind then text else []
  | .tool _ _ _ => []

def appendedText (kind : DeltaKind) (events : List RawLiveEvent) : JsString :=
  events.flatMap (deltaText kind)

def AttemptLiveEvent.raw? (event : AttemptLiveEvent) : Option RawLiveEvent :=
  match event.payload with
  | .raw event => some event
  | .truncated _ => none

def AttemptLiveEvent.isTruncated (event : AttemptLiveEvent) : Bool := event.raw?.isNone

def writtenText (kind : DeltaKind) (events : List AttemptLiveEvent) : JsString :=
  appendedText kind (events.filterMap (·.raw?))

end CouncilKit.Auto.LiveEvents
