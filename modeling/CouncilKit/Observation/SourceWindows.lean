import CouncilKit.Data.MarkedLines
import CouncilKit.Observation.SourceReader

namespace CouncilKit.Observation

open Data List Nat

variable [Unicode] [SourceText] {source : SourceMeta} {receivedAt : JsString}
  {limitRecords : Option Nat} {file : Bytes} {base fileEnd : Nat}

def lineRecord (source : SourceMeta) (receivedAt : JsString) (start : Nat) (line : Bytes) :
    Option RawSourceRecord :=
  if REPAIR_OBS_LINE_ISOLATE < line.length then none
  else match parseLine source receivedAt start line with
    | .record record => some record
    | _ => none

def Gives (source : SourceMeta) (record : RawSourceRecord) (start : Nat) (line : Bytes) : Prop :=
  ∃ receivedAt, lineRecord source receivedAt start line = some record

abbrev Page (source : SourceMeta) (file : Bytes) (lo hi : Nat) (page : List RawSourceRecord) : Prop :=
  Delivers (Gives source) (·.byteOffset) NEWLINE file lo hi page

variable {record : RawSourceRecord} {start : Nat}

omit [SourceText] in
theorem parseRow_record {row : List (JsString × Json)}
    (parsed : parseRow row source start receivedAt = .record record) :
    record.byteOffset = start ∧ ∀ later, ∃ again, parseRow row source start later = .record again := by
  unfold parseRow at parsed
  split at parsed
  · cases parsed
  rename_i type named
  dsimp only at parsed
  split at parsed
  · cases parsed
  rename_i public_
  split at parsed
  · cases parsed
  rename_i shown
  cases parsed
  refine ⟨rfl, ?_⟩
  intro later
  rw [parseRow, named]
  dsimp only
  rw [if_neg public_, if_neg shown]
  exact ⟨_, rfl⟩

theorem parseLine_record {line : Bytes}
    (parsed : parseLine source receivedAt start line = .record record) :
    record.byteOffset = start ∧ ∀ later, ∃ again, parseLine source later start line = .record again := by
  unfold parseLine parsePublicSourceLine at parsed
  split at parsed
  · rename_i raw found
    cases parsed
    split at found
    · cases found
    rename_i some_
    split at found
    · rename_i row json
      obtain ⟨placed, always⟩ := parseRow_record found
      refine ⟨placed, ?_⟩
      intro later
      obtain ⟨again, read⟩ := always later
      refine ⟨again.redacted, ?_⟩
      rw [parseLine, parsePublicSourceLine, if_neg some_, json]
      dsimp only
      rw [read]
    · cases found
  · rename_i other
    rw [parsed] at other
    exact absurd rfl (other record)

theorem lineRecord_some {line : Bytes}
    (read : lineRecord source receivedAt start line = some record) :
    record.byteOffset = start ∧ line.length ≤ REPAIR_OBS_LINE_ISOLATE ∧
      ∀ later, lineRecord source later start line ≠ none := by
  unfold lineRecord at read
  split at read
  · cases read
  rename_i short
  split at read
  · rename_i found parsed
    cases read
    obtain ⟨placed, always⟩ := parseLine_record parsed
    refine ⟨placed, by omega, ?_⟩
    intro later
    obtain ⟨again, parsedAgain⟩ := always later
    rw [lineRecord, if_neg short, parsedAgain]
    exact nofun
  · cases read

theorem Gives.placed {line : Bytes}
    (gives : Gives source record start line) : record.byteOffset = start := by
  obtain ⟨receivedAt, read⟩ := gives
  exact (lineRecord_some read).1

theorem Gives.short {line : Bytes}
    (gives : Gives source record start line) : line.length ≤ REPAIR_OBS_LINE_ISOLATE := by
  obtain ⟨receivedAt, read⟩ := gives
  exact (lineRecord_some read).2.1

variable (receivedAt) in
theorem page_single {start stop : Nat} (ends : EndsLine NEWLINE file start stop) :
    Page source file start (stop + 1)
      (lineRecord source receivedAt start (slice file start stop)).toList := by
  apply Delivers.single ends
  · intro record found
    exact ⟨(lineRecord_some found).1, receivedAt, found⟩
  · intro given
    obtain ⟨record, time, read⟩ := given
    exact (lineRecord_some read).2.2 receivedAt

theorem page_oversize {start stop : Nat} (ends : EndsLine NEWLINE file start stop)
    (long : REPAIR_OBS_LINE_ISOLATE < stop - start) : Page source file start (stop + 1) [] := by
  have within := ends.inside
  apply @Delivers.single _ _ _ _ _ _ _ _ ends none
  · intro record none_
    cases none_
  · intro given
    obtain ⟨record, gives⟩ := given
    have short := gives.short
    rw [length_slice (by omega)] at short
    omega

/-- The records are what lies between the base and the committed place. -/
structure Scanned (source : SourceMeta) (limitRecords : Option Nat) (file : Bytes)
    (base committed : Nat) (records : List RawSourceRecord) : Prop where
  page : Page source file base committed records
  order : base ≤ committed
  seam : ∀ place, base ≤ place → place + 1 = committed → file[place]? = some NEWLINE
  short : ∀ limit, limitRecords = some limit → records.length ≤ limit
  starts : ∀ record ∈ records, ∀ place, base ≤ place → place + 1 = record.byteOffset →
    file[place]? = some NEWLINE

variable {scan : Scan}

theorem accept_records {line : Bytes} :
    (scan.accept source receivedAt line start).records =
      scan.records ++ (lineRecord source receivedAt start line).toList := by
  unfold Scan.accept lineRecord
  split
  · exact (append_nil _).symm
  · cases parseLine source receivedAt start line with
    | skip => exact (append_nil _).symm
    | bad => exact (append_nil _).symm
    | record record => rfl

theorem accept_frame {line : Bytes} :
    (scan.accept source receivedAt line start).skippingPartial = scan.skippingPartial ∧
      (scan.accept source receivedAt line start).carry = scan.carry := by
  unfold Scan.accept
  split
  · exact ⟨rfl, rfl⟩
  · split
    · exact ⟨rfl, rfl⟩
    · exact ⟨rfl, rfl⟩
    · exact ⟨rfl, rfl⟩

theorem Scanned.line {committed stop : Nat} {records found : List RawSourceRecord}
    (scanned : Scanned source limitRecords file base committed records)
    (ends : EndsLine NEWLINE file committed stop)
    (page : Page source file committed (stop + 1) found)
    (placed : ∀ record ∈ found, record.byteOffset = committed)
    (short : ∀ limit, limitRecords = some limit → (records ++ found).length ≤ limit) :
    Scanned source limitRecords file base (stop + 1) (records ++ found) := by
  have order := ends.order
  have early := scanned.order
  refine ⟨?_, by omega, ?_, short, ?_⟩
  · exact scanned.page.append page (SeamFree.of_mark scanned.seam) early (by omega)
  · intro place _ here
    rw [succ_inj] at here
    exact here ▸ ends.closes
  · intro record member place above here
    rcases mem_append.mp member with old | new
    · exact scanned.starts record old place above here
    · exact scanned.seam place above (here.trans (placed record new))

/-- What `takeLines` leaves behind. -/
structure Taken (source : SourceMeta) (limitRecords : Option Nat) (file : Bytes)
    (base dataEnd : Nat) (scan : Scan) (taken : Scan × Bytes) : Prop where
  scanned : Scanned source limitRecords file base taken.1.committed taken.1.records
  upTo : taken.1.committed ≤ dataEnd
  rest : taken.2 = slice file taken.1.committed dataEnd
  clear : hasRoom limitRecords taken.1.records = true → Clear NEWLINE file taken.1.committed dataEnd
  skipping : taken.1.skippingPartial = scan.skippingPartial
  carry : taken.1.carry = scan.carry

omit [Unicode] [SourceText] in
theorem hasRoom_short {records : List RawSourceRecord} {found : Option RawSourceRecord}
    (room : hasRoom limitRecords records = true) :
    ∀ limit, limitRecords = some limit → (records ++ found.toList).length ≤ limit := by
  intro limit same
  rw [hasRoom, same, Option.all_some, decide_eq_true_eq] at room
  rw [length_append]
  cases found with
  | none => exact le_of_lt room
  | some record => exact room

theorem takeLines_taken {dataEnd : Nat} {cursor : Nat} {data : Bytes}
    (scanned : Scanned source limitRecords file base cursor scan.records)
    (here : scan.committed = cursor) (is : data = slice file cursor dataEnd)
    (upTo : cursor ≤ dataEnd) :
    Taken source limitRecords file base dataEnd scan
      (scan.takeLines source receivedAt limitRecords cursor data) := by
  fun_induction Scan.takeLines source receivedAt limitRecords scan cursor data with
  | case1 scan cursor data room none_ =>
    refine ⟨here ▸ scanned, here ▸ upTo, by rw [is, here], ?_, rfl, rfl⟩
    intro _
    rw [here]
    apply clear_of_slice
    rw [← is]
    exact List.idxOf?_eq_none_iff.mp none_
  | case2 scan cursor data room nl found ih =>
    rw [is] at found
    obtain ⟨ends, inside⟩ := EndsLine.of_idxOf found
    have records : (scan.accept source receivedAt (data.take nl) cursor).records =
        scan.records ++ (lineRecord source receivedAt cursor (slice file cursor (cursor + nl))).toList := by
      rw [accept_records, is, take_slice (le_of_lt inside)]
    have next := scanned.line ends (page_single receivedAt ends) (fun record member =>
      (lineRecord_some (Option.mem_toList.mp member)).1) (hasRoom_short room)
    rw [← records] at next
    have taken := ih next rfl (by rw [is, drop_slice, add_assoc]) (by omega)
    refine ⟨taken.scanned, taken.upTo, taken.rest, taken.clear, ?_, ?_⟩
    · rw [taken.skipping]
      exact accept_frame.1
    · rw [taken.carry]
      exact accept_frame.2
  | case3 scan cursor data full =>
    refine ⟨here ▸ scanned, here ▸ upTo, by rw [is, here], ?_, rfl, rfl⟩
    intro room
    exact absurd room full

/-- What is read and not committed: the carry, or the inside of a long line. -/
structure Pending (file : Bytes) (scan : Scan) : Prop where
  committed : scan.committed ≤ scan.pos
  clear : Clear NEWLINE file scan.committed scan.pos
  carried : scan.carry = slice file (scan.pos - scan.carry.length) scan.pos
  carry : scan.carry.length ≤ scan.pos - scan.committed
  kept : scan.skippingPartial = false → scan.carry.length = scan.pos - scan.committed

structure Reading (source : SourceMeta) (limitRecords : Option Nat) (file : Bytes) (base : Nat)
    (scan : Scan) : Prop where
  scanned : Scanned source limitRecords file base scan.committed scan.records
  upTo : scan.committed ≤ scan.pos
  pending : hasRoom limitRecords scan.records = true → Pending file scan
  long : hasRoom limitRecords scan.records = true → scan.skippingPartial = true →
    REPAIR_OBS_LINE_ISOLATE < scan.pos - scan.committed

omit [Unicode] [SourceText] in
theorem countOversize_frame : scan.countOversize.records = scan.records ∧
    scan.countOversize.pos = scan.pos ∧ scan.countOversize.committed = scan.committed ∧
    scan.countOversize.carry = scan.carry ∧
    scan.countOversize.skippingPartial = scan.skippingPartial := by
  unfold Scan.countOversize
  split
  · exact ⟨rfl, rfl, rfl, rfl, rfl⟩
  · exact ⟨rfl, rfl, rfl, rfl, rfl⟩

theorem readLines_reading {cursor : Nat} {data : Bytes}
    (scanned : Scanned source limitRecords file base cursor scan.records)
    (here : scan.committed = cursor) (is : data = slice file cursor scan.pos)
    (upTo : cursor ≤ scan.pos) (inside : scan.pos ≤ file.length)
    (skipping : scan.skippingPartial = false) (carry : scan.carry = []) :
    Reading source limitRecords file base (scan.readLines source receivedAt limitRecords cursor data) := by
  have taken := @takeLines_taken _ _ source receivedAt _ _ _ _ _ _ _ scanned here is upTo
  have pos := @takeLines_pos _ _ source receivedAt limitRecords scan cursor data
  unfold Scan.readLines
  revert taken pos
  cases scan.takeLines source receivedAt limitRecords cursor data with
  | mk after rest =>
    intro taken pos
    dsimp only at taken pos ⊢
    have order := taken.upTo
    have rest_ := taken.rest
    dsimp only at order rest_
    have size : rest.length = after.pos - after.committed := by
      rw [rest_, pos, length_slice inside]
    rw [← pos] at order
    cases room : hasRoom limitRecords after.records with
    | false =>
      rw [Bool.not_false, if_pos rfl]
      refine ⟨taken.scanned, order, ?_, ?_⟩
      · rw [room]
        exact nofun
      · rw [room]
        exact nofun
    | true =>
      rw [Bool.not_true, if_neg Bool.false_ne_true]
      have clear := pos ▸ taken.clear room
      split
      · rename_i long
        obtain ⟨records, at_, committed, carried, -⟩ := @countOversize_frame after
        have empty : after.carry = [] := taken.carry.trans carry
        refine ⟨?_, ?_, ?_, ?_⟩
        · change Scanned _ _ _ _ after.countOversize.committed after.countOversize.records
          rw [records, committed]
          exact taken.scanned
        · change after.countOversize.committed ≤ after.countOversize.pos
          omega
        · intro _
          refine ⟨?_, ?_, ?_, ?_, nofun⟩
          · change after.countOversize.committed ≤ after.countOversize.pos
            omega
          · change Clear _ _ after.countOversize.committed after.countOversize.pos
            rw [committed, at_]
            exact clear
          · change after.countOversize.carry = slice file
              (after.countOversize.pos - after.countOversize.carry.length) after.countOversize.pos
            rw [carried, empty, slice, length_nil, Nat.sub_zero, Nat.sub_self,
              take_zero]
          · change after.countOversize.carry.length ≤ _
            rw [carried, empty]
            exact zero_le _
        · intro _ _
          change _ < after.countOversize.pos - after.countOversize.committed
          omega
      · refine ⟨taken.scanned, order, ?_, ?_⟩
        · intro _
          refine ⟨order, clear, ?_, le_of_eq size, fun _ => size⟩
          change rest = slice file (after.pos - rest.length) after.pos
          have from_ : after.pos - rest.length = after.committed := by omega
          rw [from_, pos]
          exact rest_
        · intro _ skips
          have none_ : after.skippingPartial = false := taken.skipping.trans skipping
          rw [show after.skippingPartial = true from skips] at none_
          cases none_

section

variable {scan : Scan} {buf : Bytes}

omit [Unicode] [SourceText] in
theorem Pending.data (pending : Pending file scan)
    (is : buf = slice file scan.pos (scan.pos + buf.length)) :
    scan.carry ++ buf = slice file (scan.pos - scan.carry.length) (scan.pos + buf.length) := by
  calc scan.carry ++ buf
      = slice file (scan.pos - scan.carry.length) scan.pos ++
          slice file scan.pos (scan.pos + buf.length) := by rw [← pending.carried, ← is]
    _ = _ := slice_append (sub_le _ _) (le_add_right _ _)

theorem chunk_skipping (skips : scan.skippingPartial = true) (pending : Pending file scan)
    (is : buf = slice file scan.pos (scan.pos + buf.length)) :
    let next := scan.chunk source receivedAt limitRecords buf
    (next.records = scan.records ∧ next.committed = scan.committed ∧
      next.skippingPartial = true ∧ Pending file next) ∨
    ∃ stop, EndsLine NEWLINE file scan.committed stop ∧ scan.pos ≤ stop ∧
      stop < scan.pos + buf.length ∧ ∃ resumed : Scan,
        resumed.records = scan.records ∧ resumed.committed = stop + 1 ∧
        resumed.pos = scan.pos + buf.length ∧ resumed.carry = [] ∧
        resumed.skippingPartial = false ∧
        next = resumed.readLines source receivedAt limitRecords (stop + 1)
          (slice file (stop + 1) (scan.pos + buf.length)) := by
  have data := pending.data is
  have within := pending.carry
  have order := pending.committed
  dsimp only
  cases found : (scan.carry ++ buf).idxOf? NEWLINE with
  | none =>
    left
    have clear : Clear NEWLINE file scan.committed (scan.pos + buf.length) := by
      apply pending.clear.widen
      apply Clear.narrow (clear_of_slice (data ▸ List.idxOf?_eq_none_iff.mp found)) _ (le_refl _)
      omega
    rw [Scan.chunk]
    dsimp only
    rw [if_pos skips, found]
    dsimp only
    split
    · obtain ⟨records, at_, committed, carried, skipping⟩ := @countOversize_frame
        { scan with pos := scan.pos + buf.length, carry := [] }
      refine ⟨records, committed, skipping.trans skips, ?_⟩
      constructor
      · rw [at_, committed]
        exact le_add_right_of_le order
      · rw [at_, committed]
        exact clear
      · rw [at_, carried, slice, length_nil, Nat.sub_zero, Nat.sub_self, take_zero]
      · rw [carried]
        exact zero_le _
      · rw [skipping]
        intro none_
        exact absurd (skips.symm.trans none_) (by decide)
    · have size : (scan.carry ++ buf).length = scan.carry.length + buf.length :=
        length_append
      refine ⟨rfl, rfl, skips, ?_⟩
      constructor
      · exact le_add_right_of_le order
      · exact clear
      · change scan.carry ++ buf = slice file
          (scan.pos + buf.length - (scan.carry ++ buf).length) (scan.pos + buf.length)
        rw [data]
        congr 1
        rw [← data]
        omega
      · change (scan.carry ++ buf).length ≤ scan.pos + buf.length - scan.committed
        omega
      · intro none_
        exact absurd (skips.symm.trans none_) (by decide)
  | some nl =>
    right
    rw [data] at found
    obtain ⟨ends, upTo⟩ := EndsLine.of_idxOf found
    have late : scan.pos ≤ scan.pos - scan.carry.length + nl := by
      by_contra early
      exact pending.clear _ (by omega) (by omega) ends.closes
    refine ⟨scan.pos - scan.carry.length + nl, ⟨by omega, ?_, ends.closes⟩, late, upTo,
      { scan with
        pos := scan.pos + buf.length
        carry := []
        skippingPartial := false
        countedOversize := false
        committed := scan.pos - scan.carry.length + nl + 1 }, rfl, rfl, rfl, rfl, rfl, ?_⟩
    · exact pending.clear.widen (ends.clear.narrow (sub_le _ _) (le_refl _))
    · rw [Scan.chunk]
      dsimp only
      rw [if_pos skips, data, found]
      dsimp only
      rw [drop_slice, add_assoc]

theorem Reading.chunk (reading : Reading source limitRecords file base scan)
    (room : hasRoom limitRecords scan.records = true)
    (is : buf = slice file scan.pos (scan.pos + buf.length))
    (inside : scan.pos + buf.length ≤ file.length) :
    Reading source limitRecords file base (scan.chunk source receivedAt limitRecords buf) := by
  have pending := reading.pending room
  cases skips : scan.skippingPartial with
  | false =>
    have data := pending.data is
    have kept := pending.kept skips
    have order := pending.committed
    have from_ : scan.pos - scan.carry.length = scan.committed := by omega
    rw [from_] at data
    rw [Scan.chunk]
    dsimp only
    rw [skips, if_neg Bool.false_ne_true, from_]
    exact readLines_reading reading.scanned rfl data (le_add_right_of_le order) inside rfl rfl
  | true =>
    have long := reading.long room skips
    rcases @chunk_skipping _ _ source receivedAt limitRecords _ _ _ skips pending is with
      still | ended
    · obtain ⟨records, committed, skipping, held⟩ := still
      have at_ := @chunk_pos _ _ source receivedAt limitRecords scan buf
      refine ⟨?_, held.committed, fun _ => held, ?_⟩
      · rw [records, committed]
        exact reading.scanned
      · intro _ _
        rw [committed, at_]
        omega
    · obtain ⟨stop, ends, late, upTo, resumed, records, committed, at_, carry, skipping, same⟩ :=
        ended
      rw [same]
      have scanned : Scanned source limitRecords file base (stop + 1) (scan.records ++ []) := by
        apply reading.scanned.line ends (page_oversize ends (by omega)) (forall_mem_nil _)
        rw [append_nil]
        exact reading.scanned.short
      rw [append_nil, ← records] at scanned
      rw [← at_]
      exact readLines_reading scanned committed rfl (by omega) (by omega) skipping carry

structure Dropping (file : Bytes) (start : Nat) (scan : Scan) : Prop where
  pending : Pending file scan
  records : scan.records = []
  committed : scan.committed = start
  skipping : scan.skippingPartial = true

theorem scanned_from (place : Nat) : Scanned source limitRecords file place place [] := by
  refine ⟨Delivers.nil ?_, le_refl _, ?_, fun _ _ => zero_le _, forall_mem_nil _⟩
  · intro here above below
    omega
  · intro here above below
    omega

theorem Dropping.chunk {start : Nat} (dropping : Dropping file start scan)
    (is : buf = slice file scan.pos (scan.pos + buf.length))
    (inside : scan.pos + buf.length ≤ file.length) :
    let next := scan.chunk source receivedAt limitRecords buf
    Dropping file start next ∨ ∃ stop < scan.pos + buf.length, EndsLine NEWLINE file start stop ∧
      Reading source limitRecords file (stop + 1) next := by
  dsimp only
  rcases @chunk_skipping _ _ source receivedAt limitRecords _ _ _ dropping.skipping
    dropping.pending is with still | ended
  · obtain ⟨records, committed, skipping, held⟩ := still
    exact .inl ⟨held, records.trans dropping.records, committed.trans dropping.committed, skipping⟩
  · obtain ⟨stop, ends, late, upTo, resumed, records, committed, at_, carry, skipping, same⟩ :=
      ended
    refine .inr ⟨stop, upTo, dropping.committed ▸ ends, ?_⟩
    have scanned : Scanned source limitRecords file (stop + 1) (stop + 1) resumed.records := by
      rw [records, dropping.records]
      exact scanned_from _
    rw [same, ← at_]
    exact readLines_reading scanned committed rfl (by omega) (by omega) skipping carry

end

section

variable {scan : Scan}

section

omit [Unicode] [SourceText]

theorem readAt_slice {pos want : Nat} (inside : pos + want ≤ file.length) :
    readAt file pos want = slice file pos (pos + want) ∧ (readAt file pos want).length = want := by
  have same : readAt file pos want = slice file pos (pos + want) := by
    rw [readAt, slice, Nat.add_sub_cancel_left]
  refine ⟨same, ?_⟩
  rw [same, length_slice inside]
  omega

theorem turn_bytes (more : scan.pos < fileEnd) (inside : fileEnd ≤ file.length) :
    let buf := readAt file scan.pos (min READ_CHUNK (fileEnd - scan.pos))
    buf = slice file scan.pos (scan.pos + buf.length) ∧ scan.pos + buf.length ≤ fileEnd ∧ buf ≠ [] := by
  obtain ⟨is, size⟩ := @readAt_slice file scan.pos (min READ_CHUNK (fileEnd - scan.pos)) (by omega)
  dsimp only
  have some_ : 0 < min READ_CHUNK (fileEnd - scan.pos) := by
    rw [READ_CHUNK]
    omega
  refine ⟨size.symm ▸ is, by omega, ?_⟩
  intro none_
  rw [none_, length_nil] at size
  omega

end

/-- The loop has read to the end, or has no room for another record. -/
structure Finished (limitRecords : Option Nat) (fileEnd : Nat) (scan : Scan) : Prop where
  upTo : scan.pos ≤ fileEnd
  all : hasRoom limitRecords scan.records = true → scan.pos = fileEnd

theorem run_reading (reading : Reading source limitRecords file base scan)
    (upTo : scan.pos ≤ fileEnd) (inside : fileEnd ≤ file.length) :
    Reading source limitRecords file base (scan.run source receivedAt limitRecords file fileEnd) ∧
      Finished limitRecords fileEnd (scan.run source receivedAt limitRecords file fileEnd) := by
  fun_induction Scan.run source receivedAt limitRecords file fileEnd scan with
  | case1 scan more buf none_ => exact absurd none_ (turn_bytes more.1 inside).2.2
  | case2 scan more buf some_ ih =>
    obtain ⟨is, early, -⟩ := turn_bytes more.1 inside
    change buf = slice file scan.pos (scan.pos + buf.length) at is
    change scan.pos + buf.length ≤ fileEnd at early
    have at_ := @chunk_pos _ _ source receivedAt limitRecords scan buf
    apply ih (reading.chunk more.2 is (by omega))
    rw [at_]
    exact early
  | case3 scan done =>
    refine ⟨reading, upTo, ?_⟩
    intro room
    by_contra before
    exact done ⟨by omega, room⟩

theorem run_dropping {start : Nat} (dropping : Dropping file start scan)
    (roomy : hasRoom limitRecords [] = true) (upTo : scan.pos ≤ fileEnd)
    (inside : fileEnd ≤ file.length) :
    let final := scan.run source receivedAt limitRecords file fileEnd
    (Dropping file start final ∧ final.pos = fileEnd) ∨
    ∃ stop < fileEnd, EndsLine NEWLINE file start stop ∧
      Reading source limitRecords file (stop + 1) final ∧ Finished limitRecords fileEnd final := by
  dsimp only
  fun_induction Scan.run source receivedAt limitRecords file fileEnd scan with
  | case1 scan more buf none_ => exact absurd none_ (turn_bytes more.1 inside).2.2
  | case2 scan more buf some_ ih =>
    obtain ⟨is, early, -⟩ := turn_bytes more.1 inside
    change buf = slice file scan.pos (scan.pos + buf.length) at is
    change scan.pos + buf.length ≤ fileEnd at early
    have at_ := @chunk_pos _ _ source receivedAt limitRecords scan buf
    have before : (scan.chunk source receivedAt limitRecords buf).pos ≤ fileEnd := at_ ▸ early
    rcases dropping.chunk is (by omega) with still | ended
    · exact ih still before
    · obtain ⟨stop, below, ends, reading⟩ := ended
      exact .inr ⟨stop, by omega, ends, run_reading reading before inside⟩
  | case3 scan done =>
    refine .inl ⟨dropping, ?_⟩
    by_contra before
    exact done ⟨by omega, dropping.records ▸ roomy⟩

end

/-- What a read of whole lines from `base` on returns. -/
structure Forwarded (source : SourceMeta) (limitRecords : Option Nat) (file : Bytes)
    (base fileEnd : Nat) (read : ForwardRead) : Prop where
  scanned : Scanned source limitRecords file base read.nextOffset read.records
  upTo : read.nextOffset ≤ fileEnd
  rest : hasRoom limitRecords read.records = true →
    Clear NEWLINE file read.nextOffset fileEnd ∧ read.incompleteTail = decide (read.nextOffset < fileEnd)
  full : hasRoom limitRecords read.records = false → read.incompleteTail = false

theorem forwarded_of_reading {scan : Scan} (reading : Reading source limitRecords file base scan)
    (finished : Finished limitRecords fileEnd scan) :
    Forwarded source limitRecords file base fileEnd
      { records := scan.records
        nextOffset := scan.committed
        partialBadLines := scan.partialBadLines
        isolatedOversize := scan.isolatedOversize
        incompleteTail := hasRoom limitRecords scan.records &&
          (0 < scan.carry.length || scan.skippingPartial) } := by
  have upTo := reading.upTo
  refine ⟨reading.scanned, le_trans upTo finished.upTo, ?_, ?_⟩
  · intro room
    have pending := reading.pending room
    have at_ := finished.all room
    refine ⟨at_ ▸ pending.clear, ?_⟩
    dsimp only at room ⊢
    rw [room, Bool.true_and, Bool.eq_iff_iff]
    simp only [Bool.or_eq_true, decide_eq_true_eq]
    cases skips : scan.skippingPartial with
    | false =>
      have kept := pending.kept skips
      simp only [Bool.false_eq_true, or_false]
      omega
    | true =>
      have long := reading.long room skips
      simp only [or_true, true_iff]
      omega
  · intro full
    dsimp only at full ⊢
    rw [full]
    rfl

theorem readForward_whole {start : Nat} (upTo : start ≤ fileEnd) (inside : fileEnd ≤ file.length) :
    Forwarded source limitRecords file start fileEnd
      (readForward source receivedAt limitRecords file start fileEnd false) := by
  have reading : Reading source limitRecords file start
      { pos := start, skippingPartial := false, committed := start } := by
    refine ⟨scanned_from start, le_refl _, ?_, nofun⟩
    intro _
    refine ⟨Nat.le_refl _, ?_, ?_, Nat.zero_le _, fun _ => (Nat.sub_self _).symm⟩
    · intro place above below
      exact absurd below (not_lt.mpr above)
    · rw [slice, length_nil, Nat.sub_zero, Nat.sub_self, take_zero]
  obtain ⟨done, finished⟩ := @run_reading _ _ _ receivedAt _ _ _ _ _ reading upTo inside
  exact forwarded_of_reading done finished

theorem readForward_dropping {start : Nat} (opened : 0 < start) (upTo : start ≤ fileEnd)
    (inside : fileEnd ≤ file.length) (roomy : hasRoom limitRecords [] = true) :
    let read := readForward source receivedAt limitRecords file start fileEnd true
    (read.records = [] ∧ read.nextOffset = start ∧ Clear NEWLINE file start fileEnd ∧
      read.incompleteTail = true) ∨
    ∃ stop < fileEnd, EndsLine NEWLINE file start stop ∧
      Forwarded source limitRecords file (stop + 1) fileEnd read := by
  have dropping : Dropping file start
      { pos := start, skippingPartial := true && decide (0 < start), committed := start } := by
    refine ⟨⟨Nat.le_refl _, ?_, ?_, Nat.zero_le _, fun _ => (Nat.sub_self _).symm⟩, rfl, rfl, ?_⟩
    · intro place above below
      exact absurd below (not_lt.mpr above)
    · rw [slice, length_nil, Nat.sub_zero, Nat.sub_self, take_zero]
    · simpa using opened
  rcases @run_dropping _ _ source receivedAt _ _ _ _ _ dropping roomy upTo inside with
    still | ended
  · left
    obtain ⟨dropped, at_⟩ := still
    refine ⟨dropped.records, dropped.committed, ?_, ?_⟩
    · have clear := dropped.pending.clear
      rw [at_, dropped.committed] at clear
      exact clear
    · rw [readForward]
      dsimp only
      rw [dropped.records, roomy, dropped.skipping, Bool.or_true, Bool.and_true]
  · right
    obtain ⟨stop, below, ends, reading, finished⟩ := ended
    exact ⟨stop, below, ends, forwarded_of_reading reading finished⟩

end CouncilKit.Observation
