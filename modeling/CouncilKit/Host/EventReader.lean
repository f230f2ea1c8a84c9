import CouncilKit.Data.DoubledMark
import CouncilKit.Data.Utf8Stream

namespace CouncilKit.Host.EventReader

open Data Data.JsString

/-- The events and how `runtimeEventSchema.parse(JSON.parse(data))` reads one; `none` is what
it throws. -/
class EventSchema (ε : Type) where
  parse : JsString → Option ε
  seq : ε → Nat
  isTerminalEvent : ε → Bool

inductive StreamError where
  | abort
  | eventStream (status : Nat) (message : JsString)
  | schema
deriving DecidableEq

inductive StreamEnd where
  | done
  | aborted
  | failed (message : JsString)

inductive Response where
  | aborted
  | unreachable (message : JsString)
  | refused (status : Nat)
  | stream (chunks : List (List UInt8)) (ends : StreamEnd)

inductive FollowOutcome (ε : Type) where
  | terminal (event : ε)
  | closed (lastSeq : Nat)
  | aborted (lastSeq : Nat)

/-- `new TextDecoder()`: a byte order mark at the start is dropped. -/
structure TextDecoder where
  decoder : Utf8.Decoder := {}
  started : Bool := false

/-- `decoder.decode(chunk, { stream: true })` -/
def TextDecoder.decode (text : TextDecoder) (chunk : List UInt8) : JsString × TextDecoder :=
  let written := text.decoder.write chunk
  match written.1 with
  | [] => ([], ⟨written.2, text.started⟩)
  | unit :: rest =>
    (if !text.started && unit = 0xFEFF then rest else unit :: rest, ⟨written.2, true⟩)

def MAX_SAFE_INTEGER : Nat := 2 ^ 53 - 1

/-- The number that `requestedAfterSeq` reads back from the url of a request after `afterSeq`. -/
def requestedAfterSeq (afterSeq : Nat) : Nat := if afterSeq ≤ MAX_SAFE_INTEGER then afterSeq else 0

variable {ε : Type} [EventSchema ε]

/-- What the reading of a connection has come to; `events` are those handed on. -/
structure Reading (ε : Type) where
  events : List ε := []
  lastSeq : Nat
  terminal : Option ε := none
  thrown : Bool := false

def blockData (block : JsString) : Option JsString :=
  if js "event: runtime" <:+: block then
    ((splitOn 0xA block).find? fun line => (js "data: ").isPrefixOf line).map (·.drop 6)
  else none

def dispatchBlock (reading : Reading ε) (block : JsString) : Reading ε :=
  if reading.thrown then reading
  else match blockData block with
    | none => reading
    | some data =>
      match EventSchema.parse data with
      | none => { reading with thrown := true }
      | some event =>
        { reading with
          events := reading.events ++ [event]
          lastSeq := max reading.lastSeq (EventSchema.seq event)
          terminal := if EventSchema.isTerminalEvent event then some event else reading.terminal }

structure Connection (ε : Type) where
  text : TextDecoder := {}
  buffer : JsString := []
  reading : Reading ε

def readChunk (connection : Connection ε) (chunk : List UInt8) : Connection ε :=
  let decoded := connection.text.decode chunk
  let cut := blocks 0xA (connection.buffer ++ decoded.1)
  ⟨decoded.2, cut.2, cut.1.foldl dispatchBlock connection.reading⟩

/-- The loop is left behind the chunk that ends the execution, or in which a block is refused. -/
def Reading.stops (reading : Reading ε) : Bool := reading.thrown || reading.terminal.isSome

def readChunks (connection : Connection ε) : List (List UInt8) → Connection ε
  | [] => connection
  | chunk :: rest =>
    let next := readChunk connection chunk
    if next.reading.stops then next else readChunks next rest

def followExecutionEvents (afterSeq : Nat) (response : Response) (signalAborted : Bool) :
    List ε × Except StreamError (FollowOutcome ε) :=
  match response with
  | .aborted => ([], .error .abort)
  | .unreachable message =>
    ([], .error (.eventStream 0 (if message ≠ [] then message else js "event stream fetch failed")))
  | .refused status => ([], .error (.eventStream status (js "event stream HTTP " ++ ofNat status)))
  | .stream chunks ends =>
    let reading := (readChunks { reading := { lastSeq := requestedAfterSeq afterSeq } } chunks).reading
    let result : Except StreamError (FollowOutcome ε) :=
      if reading.thrown then .error .schema
      else match reading.terminal with
        | some event => .ok (.terminal event)
        | none =>
          match ends with
          | .aborted => .error .abort
          | .failed message =>
            .error (.eventStream 0 (if message ≠ [] then message else js "event stream read failed"))
          | .done => .ok (if signalAborted then .aborted reading.lastSeq else .closed reading.lastSeq)
    (reading.events, result)

section

variable {start : Nat} {reading : Reading ε} {connection : Connection ε}

end

end CouncilKit.Host.EventReader
