import CouncilKit.Observation.SourceLine

namespace CouncilKit.Observation

open Data

def NEWLINE : UInt8 := 0x0A

@[irreducible] def INITIAL_TAIL_BYTES : Nat := 512 * 1024

def READ_CHUNK : Nat := 64 * 1024

def REPAIR_OBS_LINE_ISOLATE : Nat := 1024 * 1024

/-- `readSync(fd, buf, 0, want, pos)` -/
def readAt (file : Bytes) (pos want : Nat) : Bytes := (file.drop pos).take want

def lastIndexOf (bytes : Bytes) : Option Nat :=
  (bytes.reverse.idxOf? NEWLINE).map fun back => bytes.length - 1 - back

/-- The backward search for a newline in the chunks before `pos`. -/
def newlineBefore (file : Bytes) (floor pos : Nat) : Option Nat :=
  if floor < pos then
    let chunkStart := max floor (pos - READ_CHUNK)
    let buf := readAt file chunkStart (pos - chunkStart)
    if buf = [] then none
    else match lastIndexOf buf with
      | some i => some (chunkStart + i)
      | none => newlineBefore file floor chunkStart
  else none
termination_by pos
decreasing_by
  simp only [READ_CHUNK]
  omega

structure EarlierWindow where
  start : Nat
  aligned : Bool

def isNewlineAt (file : Bytes) (pos : Nat) : Bool := readAt file pos 1 = [NEWLINE]

def earlierWindowStart (file : Bytes) (fileEnd : Nat) : EarlierWindow :=
  let windowStart := fileEnd - INITIAL_TAIL_BYTES
  if windowStart = 0 then ⟨0, true⟩
  else if isNewlineAt file (windowStart - 1) then ⟨windowStart, true⟩
  else
    let floor := windowStart - REPAIR_OBS_LINE_ISOLATE
    match newlineBefore file floor windowStart with
    | some i => ⟨i + 1, true⟩
    | none =>
      if 0 < floor && isNewlineAt file (floor - 1) then ⟨floor, true⟩
      else ⟨floor, floor = 0⟩

/-- The variables of `readForward`. -/
structure Scan where
  records : List RawSourceRecord := []
  partialBadLines : Nat := 0
  isolatedOversize : Nat := 0
  pos : Nat
  carry : Bytes := []
  skippingPartial : Bool
  countedOversize : Bool := false
  committed : Nat

/-- `records.length < limitRecords`; `none` is `Number.POSITIVE_INFINITY`. -/
def hasRoom (limitRecords : Option Nat) (records : List RawSourceRecord) : Bool :=
  limitRecords.all fun limit => records.length < limit

variable [Unicode] [SourceText] (source : SourceMeta) (receivedAt : JsString) (limitRecords : Option Nat)

def Scan.accept (scan : Scan) (lineBuf : Bytes) (lineStart : Nat) : Scan :=
  if REPAIR_OBS_LINE_ISOLATE < lineBuf.length then
    { scan with isolatedOversize := scan.isolatedOversize + 1 }
  else match parseLine source receivedAt lineStart lineBuf with
    | .skip => scan
    | .bad => { scan with partialBadLines := scan.partialBadLines + 1 }
    | .record record => { scan with records := scan.records ++ [record] }

def Scan.countOversize (scan : Scan) : Scan :=
  if scan.countedOversize then scan
  else { scan with isolatedOversize := scan.isolatedOversize + 1, countedOversize := true }

/-- The lines of the data from `cursor` on: what is left, and where it starts. -/
def Scan.takeLines (scan : Scan) (cursor : Nat) (data : Bytes) : Scan × Bytes :=
  if hasRoom limitRecords scan.records then
    match found : data.idxOf? NEWLINE with
    | none => (scan, data)
    | some nl =>
      Scan.takeLines
        { scan.accept source receivedAt (data.take nl) cursor with committed := cursor + nl + 1 }
        (cursor + nl + 1) (data.drop (nl + 1))
  else (scan, data)
termination_by data.length
decreasing_by
  have inside : nl < data.length := (List.findIdx?_eq_some_iff_getElem.mp found).choose
  rw [List.length_drop]
  omega

/-- The data after a partial line: its lines, and its rest as the next carry. -/
def Scan.readLines (scan : Scan) (cursor : Nat) (data : Bytes) : Scan :=
  let (scan, rest) := scan.takeLines source receivedAt limitRecords cursor data
  if !hasRoom limitRecords scan.records then scan
  else if REPAIR_OBS_LINE_ISOLATE < rest.length then
    { scan.countOversize with skippingPartial := true }
  else { scan with carry := rest }

def Scan.chunk (scan : Scan) (buf : Bytes) : Scan :=
  let data := scan.carry ++ buf
  let dataStart := scan.pos - scan.carry.length
  let scan := { scan with pos := scan.pos + buf.length, carry := [] }
  if scan.skippingPartial then
    match data.idxOf? NEWLINE with
    | none =>
      if REPAIR_OBS_LINE_ISOLATE < data.length then scan.countOversize
      else { scan with carry := data }
    | some nl =>
      Scan.readLines source receivedAt limitRecords
        { scan with
          skippingPartial := false
          countedOversize := false
          committed := dataStart + nl + 1 }
        (dataStart + nl + 1) (data.drop (nl + 1))
  else scan.readLines source receivedAt limitRecords dataStart data

variable {source receivedAt limitRecords}

variable {scan : Scan}

theorem accept_pos {line : Bytes} {start : Nat} :
    (scan.accept source receivedAt line start).pos = scan.pos := by
  unfold Scan.accept
  split
  · rfl
  · split
    · rfl
    · rfl
    · rfl

theorem takeLines_pos {scan : Scan} {cursor : Nat} {data : Bytes} :
    (scan.takeLines source receivedAt limitRecords cursor data).1.pos = scan.pos := by
  fun_induction Scan.takeLines source receivedAt limitRecords scan cursor data with
  | case1 => rfl
  | case2 scan cursor data room nl found ih =>
    rw [ih]
    exact accept_pos
  | case3 => rfl

omit [Unicode] [SourceText] in
theorem countOversize_pos : scan.countOversize.pos = scan.pos := by
  unfold Scan.countOversize
  split
  · rfl
  · rfl

theorem readLines_pos {cursor : Nat} {data : Bytes} :
    (scan.readLines source receivedAt limitRecords cursor data).pos = scan.pos := by
  unfold Scan.readLines
  dsimp only
  split
  · exact takeLines_pos
  split
  · exact countOversize_pos.trans takeLines_pos
  · exact takeLines_pos

theorem chunk_pos {scan : Scan} {buf : Bytes} :
    (scan.chunk source receivedAt limitRecords buf).pos = scan.pos + buf.length := by
  unfold Scan.chunk
  dsimp only
  split
  · split
    · split
      · exact countOversize_pos
      · rfl
    · exact readLines_pos
  · exact readLines_pos

theorem chunk_shrinks {buf : Bytes} {fileEnd : Nat} (more : scan.pos < fileEnd) (some_ : buf ≠ []) :
    fileEnd - (scan.chunk source receivedAt limitRecords buf).pos < fileEnd - scan.pos := by
  have positive : 0 < buf.length := List.length_pos_iff.mpr some_
  rw [chunk_pos]
  omega

variable (source receivedAt limitRecords)

def Scan.run (file : Bytes) (fileEnd : Nat) (scan : Scan) : Scan :=
  if _ : scan.pos < fileEnd ∧ hasRoom limitRecords scan.records then
    let buf := readAt file scan.pos (min READ_CHUNK (fileEnd - scan.pos))
    if _ : buf = [] then scan
    else Scan.run file fileEnd (scan.chunk source receivedAt limitRecords buf)
  else scan
termination_by fileEnd - scan.pos
decreasing_by exact chunk_shrinks (And.left ‹_ ∧ _›) ‹_›

structure ForwardRead where
  records : List RawSourceRecord
  nextOffset : Nat
  partialBadLines : Nat
  isolatedOversize : Nat
  incompleteTail : Bool

def readForward (file : Bytes) (start fileEnd : Nat) (dropPartialFirst : Bool) : ForwardRead :=
  let scan := Scan.run source receivedAt limitRecords file fileEnd
    { pos := start, skippingPartial := dropPartialFirst && 0 < start, committed := start }
  { records := scan.records
    nextOffset := scan.committed
    partialBadLines := scan.partialBadLines
    isolatedOversize := scan.isolatedOversize
    incompleteTail := hasRoom limitRecords scan.records && (0 < scan.carry.length || scan.skippingPartial) }

inductive OpenFailure where
  | denied | gone
deriving DecidableEq

/-- A file as `statSync` and `openSync` find it. -/
structure SourceFile where
  ino : Nat
  bytes : Bytes
  failure : Option OpenFailure := none

inductive Direction where
  | forward | earlier
deriving DecidableEq

structure SourceReadResult where
  records : List RawSourceRecord
  generation : JsString
  nextOffset : Nat
  exhausted : Bool
  partialBadLines : Nat := 0
  isolatedOversize : Nat := 0
  reset : Bool := false
  incompleteTail : Bool := false
  unreadable : Bool := false
  earlierOffset : Option Nat := none

def fingerprintSource [Digest] (ino : Nat) : JsString :=
  (Digest.sha256 (js "ino:" ++ .ofNat ino)).take 24

structure ReadFrom where
  expectedGeneration : Option JsString
  fromOffset : Option Nat

def replaced (origin : ReadFrom) (generation : JsString) (size : Nat) : Bool :=
  (origin.expectedGeneration.any fun expected => expected ≠ [] && expected ≠ generation) ||
    origin.fromOffset.any fun offset => size < offset

def earlierOffsetOf (page : List RawSourceRecord) (noRecords aligned dropped : Bool)
    (scanStart : Nat) : Option Nat :=
  let noKeptRecordBeforeCursor := noRecords && 0 < scanStart
  let openedInsideLine := !aligned && 0 < scanStart && !dropped
  if noKeptRecordBeforeCursor || openedInsideLine then some scanStart
  else (page.head?.map (·.byteOffset)).filter fun offset =>
    0 < offset && (0 < scanStart || dropped)

/-- The forward branch, from `start` on. -/
def forwardPage (file : Bytes) (generation : JsString) (reset : Bool) (start : Nat)
    (dropPartialFirst : Bool) (limit : Nat) : SourceReadResult :=
  let size := file.length
  let read := readForward source receivedAt (some limit) file start size dropPartialFirst
  let page := read.records.take limit
  { records := page
    generation
    nextOffset := read.nextOffset
    exhausted := decide (size ≤ read.nextOffset) && !read.incompleteTail
    partialBadLines := read.partialBadLines
    isolatedOversize := read.isolatedOversize
    reset
    incompleteTail := read.incompleteTail
    earlierOffset := earlierOffsetOf page read.records.isEmpty true false start }

/-- The earlier branch, up to `fileEnd`. -/
def earlierPage (file : Bytes) (generation : JsString) (reset : Bool) (fileEnd limit : Nat) :
    SourceReadResult :=
  let window := earlierWindowStart file fileEnd
  let read := readForward source receivedAt none file window.start fileEnd (!window.aligned)
  let page := read.records.drop (read.records.length - limit)
  let nextOffset := (page.head?.map (·.byteOffset)).getD window.start
  { records := page
    generation
    nextOffset
    exhausted := file.length ≤ nextOffset
    partialBadLines := read.partialBadLines
    isolatedOversize := read.isolatedOversize
    reset
    earlierOffset := earlierOffsetOf page read.records.isEmpty window.aligned
      (decide (page.length < read.records.length)) window.start }

def forwardStart (coldTail : Bool) (origin : ReadFrom) (size : Nat) : Nat :=
  if coldTail then size - INITIAL_TAIL_BYTES
  else origin.fromOffset.getD (size - INITIAL_TAIL_BYTES)

def readSourceWindow [Digest] (file : Option SourceFile) (origin : ReadFrom) (limit : Nat)
    (direction : Direction) : SourceReadResult :=
  match file with
  | none =>
    { records := []
      generation := origin.expectedGeneration.getD (js "missing")
      nextOffset := origin.fromOffset.getD 0
      exhausted := true }
  | some file =>
    let generation := fingerprintSource file.ino
    let size := file.bytes.length
    let reset := replaced origin generation size
    match file.failure with
    | some failure =>
      { records := []
        generation
        nextOffset := origin.fromOffset.getD 0
        exhausted := true
        reset
        unreadable := failure = .denied }
    | none =>
      match direction with
      | .forward =>
        let coldTail := reset || origin.fromOffset.isNone
        let start := forwardStart coldTail origin size
        -- A committed place is on a line boundary; a cold start need not be.
        let dropPartialFirst := coldTail && 0 < start
        forwardPage source receivedAt file.bytes generation reset start dropPartialFirst limit
      | .earlier =>
        earlierPage source receivedAt file.bytes generation reset (origin.fromOffset.getD size) limit

end CouncilKit.Observation
