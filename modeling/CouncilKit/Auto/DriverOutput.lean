import CouncilKit.Data.EmbeddedJson
import CouncilKit.Data.NumberText
import CouncilKit.Data.Utf8Stream

namespace CouncilKit.Auto

open Data Json JsString

/-! The readers of a stream of JSON lines and the two collectors that a subprocess feeds.
An outer `none` is a TypeError.
-/

/-- `driverId` of the drivers whose stream is watched for its final event. -/
inductive StreamDriver where
  | claude
  | kimi
  | grok
  | cursor
deriving DecidableEq

def parseJsonLine (line : JsString) : Option Json :=
  match jsonParse line with
  | some (.object members) => some (.object members)
  | some (.array items) => some (.array items)
  | _ => none

/-- `Number(text) > 0` -/
def positiveText (text : JsString) : Bool :=
  let body := text.trim
  if body = js "Infinity" ∨ body = js "+Infinity" then true
  else match prefixed body with
    | some (radix, digits) => (radixNumber radix digits).any (0 < ·)
    | none => (signedDecimal body).any (powerOfTwo (-1075) < ·)

/-- `value > 0` -/
def exceedsZero : Option Json → Option Bool
  | none | some .null => some false
  | some (.bool value) => some value
  | some (.number value) => some (0 < value)
  | some (.fraction text) | some (.string text) => some (positiveText text)
  | some (.array items) => (coerceText (.array items)).map positiveText
  | some (.object members) => (coerceText (.object members)).map positiveText

/-- `b?.text ?? b?.content ?? ""`, or the block itself when it is a string. -/
def blockText (block : Json) : Json :=
  match block with
  | .string text => .string text
  | block =>
    ((notNull (memberOf block (js "text"))).or (notNull (memberOf block (js "content")))).getD (.string [])

/-- `p.length > 0` -/
def hasLength : Json → Option Bool
  | .string text => some (text ≠ [])
  | .array items => some (items ≠ [])
  | .object members => exceedsZero (memberOf (.object members) (js "length"))
  | _ => some false

def filterParts : List Json → Option (List Json)
  | [] => some []
  | part :: rest => do
    let kept ← hasLength part
    let parts ← filterParts rest
    pure (if kept then part :: parts else parts)

def asText : Option Json → Option (Option JsString)
  | some (.string text) => some (if text = [] then none else some text)
  | some (.array items) => do
    let parts ← filterParts (items.map blockText)
    let texts ← coerceItems parts
    let joined := join (js "\n") texts
    pure (if joined = [] then none else some joined)
  | _ => some none

/-- `splitLines` -/
def splitLines (text : JsString) : List JsString :=
  (splitOn 0xA text).filter fun line => line.trim ≠ []

def isText (value : Option Json) (text : JsString) : Bool := strictEquals value (some (.string text))

def extractClaudeLine (line : JsString) : Option (Option JsString) :=
  match parseJsonLine line with
  | none => some none
  | some obj =>
    if !isText (memberOf obj (js "type")) (js "result") then some none
    else if !isText (memberOf obj (js "subtype")) (js "success") then some none
    else if strictEquals (memberOf obj (js "is_error")) (some (.bool true)) then some none
    else asText (memberOf obj (js "result"))

def extractKimiLine (line : JsString) : Option (Option JsString) :=
  match parseJsonLine line with
  | none => some none
  | some obj =>
    if !isText (memberOf obj (js "role")) (js "assistant") then some none
    else asText (memberOf obj (js "content"))

def extractGrokLine (line : JsString) : Option (Option JsString) :=
  match parseJsonLine line with
  | none => some none
  | some obj =>
    if !isText (memberOf obj (js "type")) (js "result") then some none
    else if strictEquals (memberOf obj (js "is_error")) (some (.bool true)) then some none
    else if (stringOrNull (memberOf obj (js "subtype"))).any (· ≠ js "success") then some none
    else asText (memberOf obj (js "result"))

def lastText (extractLine : JsString → Option (Option JsString)) (lines : List JsString) :
    Option (Option JsString) :=
  lines.foldlM (fun last line => do
    let text ← extractLine line
    pure (text.or last)) none

def extractClaude (stdout : JsString) : Option (Option JsString) :=
  lastText extractClaudeLine (splitLines stdout)

def extractKimi (stdout : JsString) : Option (Option JsString) :=
  lastText extractKimiLine (splitLines stdout)

/-- `tryParse`: a TypeError is caught with the errors of the parser. -/
def tryParse (raw : JsString) : Option JsString :=
  ((parse raw).bind fun obj => asText (memberOf obj (js "text"))).join

def extractGrok (stdout : JsString) : Option (Option JsString) :=
  let trimmed := stdout.trim
  if trimmed = [] then some none
  else do
    let last ← lastText extractGrokLine (splitLines trimmed)
    match last.or (tryParse trimmed) with
    | some text => pure (some text)
    | none =>
      match jsonParseEmbedded trimmed with
      | some (.object members) => asText (memberOf (.object members) (js "text"))
      | _ => pure none

def extractLine : StreamDriver → JsString → Option (Option JsString)
  | .claude | .cursor => extractClaudeLine
  | .kimi => extractKimiLine
  | .grok => extractGrokLine

def extractStream : StreamDriver → JsString → Option (Option JsString)
  | .claude | .cursor => extractClaude
  | .kimi => extractKimi
  | .grok => extractGrok

def extractFinalOutput (driverId : StreamDriver) (stdout : JsString)
    (capturedFinalLine : Option JsString) : Option (Option JsString) :=
  match capturedFinalLine with
  | none => extractStream driverId stdout
  | some line => do
    let text ← extractLine driverId line
    match text with
    | some text => pure (some text)
    | none => extractStream driverId stdout

def FINAL_EVENT_LINE_CAP : Nat := 16 * 1024 * 1024

structure FinalEventLineCollector where
  driverId : StreamDriver
  lineCap : Nat := FINAL_EVENT_LINE_CAP
  buf : JsString := []
  decoder : Utf8.Decoder := {}
  discarding : Bool := false
  lastLine : Option JsString := none

namespace FinalEventLineCollector

def isFinalEvent (driverId : StreamDriver) (obj : Json) : Bool :=
  match driverId with
  | .kimi => isText (memberOf obj (js "role")) (js "assistant")
  | _ => isText (memberOf obj (js "type")) (js "result")

def consider (coll : FinalEventLineCollector) (line : JsString) : Option FinalEventLineCollector :=
  if line = [] ∨ coll.lineCap < line.length then some coll
  else match parseJsonLine line with
    | none => some coll
    | some obj =>
      if isFinalEvent coll.driverId obj then do
        let text ← extractLine coll.driverId line
        pure (if text.isSome then { coll with lastLine := some line } else coll)
      else some coll

/-- The loop over the complete lines of the buffer; the last piece stays in it. -/
def feedLines (coll : FinalEventLineCollector) : List JsString → Option FinalEventLineCollector
  | [] => some coll
  | [rest] => some { coll with buf := rest }
  | line :: more =>
    if coll.discarding then feedLines { coll with discarding := false } more
    else (coll.consider line).bind (feedLines · more)

def feed (coll : FinalEventLineCollector) (chunk : List UInt8) : Option FinalEventLineCollector := do
  let written := coll.decoder.write chunk
  let coll ← feedLines { coll with decoder := written.2 } (splitOn 0xA (coll.buf ++ written.1))
  pure (if coll.lineCap < coll.buf.length then { coll with buf := [], discarding := true } else coll)

def finish (coll : FinalEventLineCollector) : Option FinalEventLineCollector :=
  let rest := coll.buf ++ coll.decoder.finish
  let flushed := { coll with buf := [], decoder := {} }
  if coll.discarding then some { flushed with discarding := false }
  else if 0 < rest.length ∧ rest.length ≤ coll.lineCap then flushed.consider rest
  else some flushed

end FinalEventLineCollector

structure CappedCollector where
  cap : Nat
  headCap : Nat
  tailCap : Nat
  head : List (List UInt8) := []
  headBytes : Nat := 0
  tail : List (List UInt8) := []
  tailBytes : Nat := 0
  total : Nat := 0
  truncated : Bool := false

namespace CappedCollector

def trimTail (tailCap : Nat) : List (List UInt8) → Nat → List (List UInt8) × Nat
  | [], tailBytes => ([], tailBytes)
  | [only], tailBytes =>
    if tailCap < tailBytes then
      let kept := only.drop (only.length - tailCap)
      ([kept], kept.length)
    else ([only], tailBytes)
  | dropped :: next :: rest, tailBytes =>
    if tailCap < tailBytes then trimTail tailCap (next :: rest) (tailBytes - dropped.length)
    else (dropped :: next :: rest, tailBytes)

def feed (coll : CappedCollector) (buf : List UInt8) : CappedCollector :=
  let room := coll.headCap - coll.headBytes
  let rest :=
    if coll.headBytes < coll.headCap then
      if buf.length ≤ room then none else some (buf.drop room)
    else some buf
  let (head, headBytes) :=
    if coll.headBytes < coll.headCap then
      if buf.length ≤ room then (coll.head ++ [buf], coll.headBytes + buf.length)
      else (coll.head ++ [buf.take room], coll.headCap)
    else (coll.head, coll.headBytes)
  let (tail, tailBytes) :=
    match rest with
    | none => (coll.tail, coll.tailBytes)
    | some rest => trimTail coll.tailCap (coll.tail ++ [rest]) (coll.tailBytes + rest.length)
  let total := coll.total + buf.length
  { coll with
    head, headBytes, tail, tailBytes, total
    truncated := coll.truncated || coll.cap < total }

def toText (coll : CappedCollector) : JsString :=
  if !coll.truncated then Utf8.decode (coll.head ++ coll.tail).flatten
  else
    let omitted := coll.total - coll.headBytes - coll.tailBytes
    Utf8.decode coll.head.flatten ++ js "\n[truncated " ++ ofNat omitted ++ js " bytes]\n" ++
      Utf8.decode coll.tail.flatten

end CappedCollector

def STDOUT_CAP : Nat := 8 * 1024 * 1024

/-- The stdout collector of `defaultSpawn`. -/
def stdoutColl : CappedCollector where
  cap := STDOUT_CAP
  headCap := STDOUT_CAP / 2
  tailCap := STDOUT_CAP / 2

def collectStdout (chunks : List (List UInt8)) : CappedCollector :=
  chunks.foldl CappedCollector.feed stdoutColl

/-- `lineColl` after the chunks and the end of a stream. -/
def collectLine (driverId : StreamDriver) (chunks : List (List UInt8)) :
    Option FinalEventLineCollector := do
  let coll ← chunks.foldlM FinalEventLineCollector.feed ({ driverId } : FinalEventLineCollector)
  coll.finish

def runnerOutput (driverId : StreamDriver) (chunks : List (List UInt8)) :
    Option (Option JsString) := do
  let line ← collectLine driverId chunks
  extractFinalOutput driverId (collectStdout chunks).toText line.lastLine

end CouncilKit.Auto
