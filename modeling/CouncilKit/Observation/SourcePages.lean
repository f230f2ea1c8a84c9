import CouncilKit.Observation.SourceWindows

namespace CouncilKit.Observation

open Data List Option Nat Bool

section

variable {file : Bytes} {lo hi pos place floor fileEnd : Nat}

def Opens (file : Bytes) (place : Nat) : Prop :=
  ∀ before, before + 1 = place → file[before]? = some NEWLINE

theorem opens_after {base : Nat} (opens : Opens file base) (order : base ≤ place)
    (seam : ∀ before, base ≤ before → before + 1 = place → file[before]? = some NEWLINE) :
    Opens file place := by
  intro before here
  by_cases late : base ≤ before
  · exact seam before late here
  · exact opens before (by omega)

theorem opens_zero : Opens file 0 := by
  intro before here
  omega

theorem opens_next {stop : Nat} (closes : file[stop]? = some NEWLINE) : Opens file (stop + 1) := by
  intro before here
  rw [succ_inj.mp here]
  exact closes

theorem earlierOffsetOf_empty {aligned dropped : Bool} {scanStart : Nat} (inner : 0 < scanStart) :
    earlierOffsetOf [] true aligned dropped scanStart = some scanStart := by
  simp [earlierOffsetOf, inner]

theorem earlierOffsetOf_cons {head : RawSourceRecord} {rest : List RawSourceRecord}
    {aligned dropped : Bool} {scanStart : Nat} :
    earlierOffsetOf (head :: rest) false aligned dropped scanStart =
      if !aligned && 0 < scanStart && !dropped then some scanStart
      else if 0 < head.byteOffset && (0 < scanStart || dropped) then some head.byteOffset
      else none := by
  simp [earlierOffsetOf, Option.filter]

theorem lastIndexOf_some {bytes : Bytes} {found : Nat} (last : lastIndexOf bytes = some found) :
    bytes[found]? = some NEWLINE ∧ found < bytes.length := by
  obtain ⟨back, index, same⟩ := map_eq_some_iff.mp last
  obtain ⟨inside, here, -⟩ := List.findIdx?_eq_some_iff_getElem.mp index
  rw [length_reverse] at inside
  subst same
  rw [getElem_reverse, beq_iff_eq] at here
  have within : bytes.length - 1 - back < bytes.length := by omega
  exact ⟨by rw [List.getElem?_eq_getElem within, here], within⟩

theorem lastIndexOf_none {bytes : Bytes} (last : lastIndexOf bytes = none) : NEWLINE ∉ bytes := by
  have missing := List.idxOf?_eq_none_iff.mp (map_eq_none_iff.mp last)
  rwa [mem_reverse] at missing

theorem newlineBefore_spec (inside : pos ≤ file.length) :
    (∀ found, newlineBefore file floor pos = some found →
      floor ≤ found ∧ found < pos ∧ file[found]? = some NEWLINE) ∧
    (newlineBefore file floor pos = none → Clear NEWLINE file floor pos) := by
  fun_induction newlineBefore file floor pos with
  | case1 pos more chunkStart buf none_ =>
    have from_ : chunkStart < pos := by
      change max floor (pos - READ_CHUNK) < pos
      rw [READ_CHUNK]
      omega
    have size := (@readAt_slice file chunkStart (pos - chunkStart) (by omega)).2
    rw [show readAt file chunkStart (pos - chunkStart) = [] from none_, length_nil] at size
    omega
  | case2 pos more chunkStart buf some_ index found =>
    have above : floor ≤ chunkStart := le_max_left _ _
    have from_ : chunkStart < pos := by
      change max floor (pos - READ_CHUNK) < pos
      rw [READ_CHUNK]
      omega
    obtain ⟨is, size⟩ := @readAt_slice file chunkStart (pos - chunkStart) (by omega)
    change buf = _ at is
    change buf.length = _ at size
    obtain ⟨here, within⟩ := lastIndexOf_some found
    refine ⟨?_, fun same => by cases same⟩
    intro place same
    cases same
    rw [is, getElem?_slice (by omega)] at here
    exact ⟨by omega, by omega, here⟩
  | case3 pos more chunkStart buf some_ none_ ih =>
    have above : floor ≤ chunkStart := le_max_left _ _
    have from_ : chunkStart < pos := by
      change max floor (pos - READ_CHUNK) < pos
      rw [READ_CHUNK]
      omega
    have is := (@readAt_slice file chunkStart (pos - chunkStart) (by omega)).1
    change buf = _ at is
    have upTo : chunkStart + (pos - chunkStart) = pos := by omega
    rw [upTo] at is
    obtain ⟨some_, clear⟩ := ih (by omega)
    refine ⟨?_, ?_⟩
    · intro found same
      obtain ⟨floored, below, here⟩ := some_ found same
      exact ⟨floored, by omega, here⟩
    · intro none__
      exact (clear none__).widen (clear_of_slice (is ▸ lastIndexOf_none none_))
  | case4 pos done =>
    refine ⟨(fun _ same => by cases same), ?_⟩
    intro _ place above below
    omega

theorem isNewlineAt_iff (inside : place < file.length) :
    isNewlineAt file place = true ↔ file[place]? = some NEWLINE := by
  rw [isNewlineAt, readAt, decide_eq_true_eq, drop_eq_getElem_cons inside, take_succ_cons,
    take_zero, List.getElem?_eq_getElem inside, Option.some.injEq]
  constructor
  · intro same
    exact head_eq_of_cons_eq same
  · intro same
    rw [same]

/-- The window starts where a line may start, or deep inside an oversize line. -/
structure EarlierStart (file : Bytes) (fileEnd : Nat) (window : EarlierWindow) : Prop where
  before : window.start < fileEnd
  opens : window.aligned = true → Opens file window.start
  inside : window.aligned = false → 0 < window.start ∧ window.start + REPAIR_OBS_LINE_ISOLATE ≤ fileEnd ∧
    Clear NEWLINE file (window.start - 1) (window.start + REPAIR_OBS_LINE_ISOLATE)

theorem aligned_start (before : place < fileEnd) (opens : Opens file place) :
    EarlierStart file fileEnd ⟨place, true⟩ := ⟨before, fun _ => opens, nofun⟩

theorem opens_of_newline (inner : 0 < place) (early : place ≤ file.length)
    (newline : isNewlineAt file (place - 1) = true) : Opens file place := by
  intro before here
  have same : place - 1 = before := by omega
  rw [same, isNewlineAt_iff (by omega)] at newline
  exact newline

theorem earlierWindowStart_spec (some_ : 0 < fileEnd) (within : fileEnd ≤ file.length) :
    EarlierStart file fileEnd (earlierWindowStart file fileEnd) := by
  unfold earlierWindowStart
  have tail : fileEnd - INITIAL_TAIL_BYTES < fileEnd := by
    rw [INITIAL_TAIL_BYTES]
    omega
  revert tail
  generalize fileEnd - INITIAL_TAIL_BYTES = windowStart
  intro tail
  dsimp only
  split
  · apply aligned_start some_
    intro before here
    omega
  rename_i windowed
  split
  · rename_i newline
    exact aligned_start tail (opens_of_newline (by omega) (by omega) newline)
  obtain ⟨found, clear⟩ := @newlineBefore_spec file windowStart
    (windowStart - REPAIR_OBS_LINE_ISOLATE) (by omega)
  have span : windowStart - REPAIR_OBS_LINE_ISOLATE = 0 ∨
      windowStart - REPAIR_OBS_LINE_ISOLATE + REPAIR_OBS_LINE_ISOLATE = windowStart := by omega
  have lower : windowStart - REPAIR_OBS_LINE_ISOLATE ≤ windowStart := sub_le _ _
  revert found clear span lower
  generalize windowStart - REPAIR_OBS_LINE_ISOLATE = floor
  intro found clear span lower
  split
  · rename_i place search
    obtain ⟨-, below, here⟩ := found place search
    apply aligned_start (by omega)
    intro before same
    rw [succ_inj.mp same]
    exact here
  rename_i none_
  split
  · rename_i newline
    obtain ⟨inner, newline⟩ := and_eq_true_iff.mp newline
    rw [decide_eq_true_eq] at inner
    exact aligned_start (by omega) (opens_of_newline inner (by omega) newline)
  rename_i closed
  by_cases zero : floor = 0
  · rw [zero, decide_eq_true rfl]
    apply aligned_start some_
    intro before here
    omega
  · rw [decide_eq_false zero]
    refine ⟨by dsimp only; omega, (fun same => by cases same), ?_⟩
    intro _
    dsimp only
    refine ⟨by omega, by omega, ?_⟩
    intro place above below marked
    by_cases edge : place = floor - 1
    · apply closed
      rw [decide_eq_true (by omega : 0 < floor), Bool.true_and, isNewlineAt_iff (by omega), ← edge]
      exact marked
    · exact clear none_ place (by omega) (by omega) marked

end

section

variable [Unicode] [SourceText] {source : SourceMeta} {receivedAt : JsString} {file more : Bytes}
  {place lo hi fileEnd : Nat}

def Sealed (file : Bytes) (place : Nat) : Prop :=
  place ≤ file.length ∧ (Opens file place ∨ (place + REPAIR_OBS_LINE_ISOLATE ≤ file.length ∧
    Clear NEWLINE file place (place + REPAIR_OBS_LINE_ISOLATE)))

theorem Sealed.free (sealed_ : Sealed file place) :
    SeamFree (Gives source) NEWLINE (file ++ more) lo place := by
  obtain ⟨inside, opens | deep⟩ := sealed_
  · apply SeamFree.of_mark
    intro before _ here
    rw [getElem?_grow (by omega)]
    exact opens before here
  · intro start stop line _ before beyond given
    obtain ⟨record, gives⟩ := given
    have late : place + REPAIR_OBS_LINE_ISOLATE ≤ stop := by
      by_contra early
      have closes := line.closes
      rw [getElem?_grow (by omega)] at closes
      exact deep.2 stop beyond (by omega) closes
    have short := gives.short
    have within := line.inside
    rw [length_slice (by omega)] at short
    omega

omit [Unicode] [SourceText] in
theorem hasRoom_some {limit : Nat} (positive : 1 ≤ limit) : hasRoom (some limit) [] = true := by
  rw [hasRoom, all_some, decide_eq_true_eq, length_nil]
  omega

structure Stopped (source : SourceMeta) (file : Bytes) (base : Nat) (read : SourceReadResult) :
    Prop where
  page : Page source file base read.nextOffset read.records
  order : base ≤ read.nextOffset
  upTo : read.nextOffset ≤ file.length
  seam : ∀ before, base ≤ before → before + 1 = read.nextOffset → file[before]? = some NEWLINE
  reset : read.reset = false
  done : (read.exhausted || read.incompleteTail) = true → Clear NEWLINE file read.nextOffset file.length
  more : (read.exhausted || read.incompleteTail) = false → base < read.nextOffset
  quiet : read.records = [] → (read.exhausted || read.incompleteTail) = true

theorem forwardPage_stopped {limit : Nat} {base start : Nat} {dropPartialFirst : Bool}
    {generation : JsString} (positive : 1 ≤ limit)
    (forwarded : Forwarded source (some limit) file base file.length
      (readForward source receivedAt (some limit) file start file.length dropPartialFirst)) :
    Stopped source file base
      (forwardPage source receivedAt file generation false start dropPartialFirst limit) ∧
    (forwardPage source receivedAt file generation false start dropPartialFirst limit).records =
      (readForward source receivedAt (some limit) file start file.length dropPartialFirst).records := by
  unfold forwardPage
  dsimp only
  revert forwarded
  generalize readForward source receivedAt (some limit) file start file.length dropPartialFirst = read
  intro forwarded
  have short := forwarded.scanned.short limit rfl
  have whole : read.records.take limit = read.records := take_of_length_le short
  refine ⟨?_, whole⟩
  rw [whole]
  have ended (room : hasRoom (some limit) read.records = true) :
      (decide (file.length ≤ read.nextOffset) && !read.incompleteTail || read.incompleteTail) = true := by
    rw [(forwarded.rest room).2]
    by_cases rest : read.nextOffset < file.length
    · rw [decide_eq_true rest, Bool.or_true]
    · rw [decide_eq_true (by omega : file.length ≤ read.nextOffset), decide_eq_false rest]
      rfl
  refine ⟨forwarded.scanned.page, forwarded.scanned.order, forwarded.upTo, forwarded.scanned.seam,
    rfl, ?_, ?_, ?_⟩
  · dsimp only
    intro done
    cases room : hasRoom (some limit) read.records with
    | true => exact (forwarded.rest room).1
    | false =>
      rw [forwarded.full room] at done
      have all : file.length ≤ read.nextOffset := by simpa using done
      intro here above below
      omega
  · dsimp only
    intro open_
    cases room : hasRoom (some limit) read.records with
    | true =>
      rw [ended room] at open_
      cases open_
    | false =>
      rw [hasRoom, all_some, decide_eq_false_iff_not] at room
      obtain ⟨record, member⟩ :=
        exists_mem_of_length_pos (by omega : 0 < read.records.length)
      obtain ⟨above, stop, below, ends, -⟩ := forwarded.scanned.page.real record member
      have order := ends.order
      omega
  · dsimp only
    intro none_
    apply ended
    rw [none_]
    exact hasRoom_some positive

variable [Digest] {ino limit : Nat}

theorem forward_read {next : Nat} (positive : 1 ≤ limit) (upTo : next ≤ file.length) :
    Stopped source file next (readSourceWindow source receivedAt (some ⟨ino, file, none⟩)
      ⟨some (fingerprintSource ino), some next⟩ limit .forward) := by
  have same : replaced ⟨some (fingerprintSource ino), some next⟩ (fingerprintSource ino)
      file.length = false := by
    simp [replaced, upTo]
  rw [readSourceWindow]
  dsimp only
  rw [same]
  exact (forwardPage_stopped positive (readForward_whole upTo (le_refl _))).1

def coldStart (file : Bytes) : Nat := file.length - INITIAL_TAIL_BYTES

/-- Where a cold read opens the source, and what it leaves before that. -/
inductive Opened (source : SourceMeta) (file : Bytes) (start : Nat) (read : SourceReadResult) :
    Prop where
  /-- From the first byte on. -/
  | whole (zero : start = 0) (earlier : read.earlierOffset = none)
      (page : Page source file 0 read.nextOffset read.records) (opens : Opens file read.nextOffset)
  /-- In the file; everything before the first record is left to earlier reads. -/
  | tail (offset : Nat) (late : start < offset) (earlier : read.earlierOffset = some offset)
      (first : Opens file offset) (order : offset ≤ read.nextOffset)
      (given : ∃ stop record, EndsLine NEWLINE file offset stop ∧
        Gives source record offset (slice file offset stop))
      (page : Page source file offset read.nextOffset read.records)
      (opens : Opens file read.nextOffset)
  /-- In the file, with no record after its first line end. -/
  | silent (inner : 0 < start) (earlier : read.earlierOffset = some start)
      (records : read.records = []) (stop : Nat) (ends : EndsLine NEWLINE file start stop)
      (order : stop < read.nextOffset) (page : Page source file (stop + 1) read.nextOffset [])
      (opens : Opens file read.nextOffset)
      (clear : Clear NEWLINE file read.nextOffset file.length)
  /-- Inside a line that has no end yet. -/
  | inside (inner : 0 < start) (earlier : read.earlierOffset = some start)
      (records : read.records = []) (next : read.nextOffset = start)
      (clear : Clear NEWLINE file start file.length)

structure ColdRead (source : SourceMeta) (file : Bytes) (start : Nat) (read : SourceReadResult) :
    Prop where
  opened : Opened source file start read
  upTo : read.nextOffset ≤ file.length
  reset : read.reset = false
  done : (read.exhausted || read.incompleteTail) = true → Clear NEWLINE file read.nextOffset file.length
  quiet : read.records = [] → (read.exhausted || read.incompleteTail) = true

omit [Digest] in
theorem opens_first {base committed : Nat} {limitRecords : Option Nat} {records : List RawSourceRecord}
    (scanned : Scanned source limitRecords file base committed records) (opens : Opens file base) :
    ∀ record ∈ records, Opens file record.byteOffset := by
  intro record member
  exact opens_after opens (scanned.page.real record member).1 (scanned.starts record member)

omit [Digest] in
theorem forwardPage_cold {generation : JsString} {start : Nat} (positive : 1 ≤ limit)
    (upTo : start ≤ file.length) : ColdRead source file start
      (forwardPage source receivedAt file generation false start (decide (0 < start)) limit) := by
  by_cases zero : start = 0
  · rw [zero, decide_eq_false (lt_irrefl 0)]
    obtain ⟨stopped, -⟩ := @forwardPage_stopped _ _ source receivedAt file limit 0 0 false
      generation positive (readForward_whole (zero_le _) (le_refl _))
    refine ⟨.whole rfl ?_ stopped.page (opens_after opens_zero stopped.order stopped.seam),
      stopped.upTo, stopped.reset, stopped.done, stopped.quiet⟩
    simp [forwardPage, earlierOffsetOf]
  have inner : 0 < start := by omega
  rw [decide_eq_true inner]
  rcases @readForward_dropping _ _ source receivedAt (some limit) file file.length _ inner upTo
    (le_refl _) (hasRoom_some positive) with still | ended
  · obtain ⟨records, next, clear, incomplete⟩ := still
    unfold forwardPage
    dsimp only
    rw [records, next, incomplete, take_nil]
    exact ⟨.inside inner (earlierOffsetOf_empty inner) rfl rfl clear, upTo, rfl, fun _ => clear,
      fun _ => or_true _⟩
  · obtain ⟨stop, below, ends, forwarded⟩ := ended
    obtain ⟨stopped, whole⟩ := @forwardPage_stopped _ _ source receivedAt file limit _ start true
      generation positive forwarded
    have opens := opens_after (opens_next ends.closes) stopped.order stopped.seam
    have starts := opens_first forwarded.scanned (opens_next ends.closes)
    rw [← whole] at starts
    have earlier : (forwardPage source receivedAt file generation false start true
        limit).earlierOffset = earlierOffsetOf (forwardPage source receivedAt file generation false
          start true limit).records (forwardPage source receivedAt file generation false start true
            limit).records.isEmpty true false start := by
      rw [whole]
      unfold forwardPage
      dsimp only
      rw [take_of_length_le (forwarded.scanned.short limit rfl)]
    have silent (none_ : (forwardPage source receivedAt file generation false start true
        limit).records = []) : Clear NEWLINE file (forwardPage source receivedAt file generation
          false start true limit).nextOffset file.length := by
      rw [whole] at none_
      exact (forwarded.rest (none_ ▸ hasRoom_some positive)).1
    clear whole forwarded
    generalize forwardPage source receivedAt file generation false start true limit = page at *
    refine ⟨?_, stopped.upTo, stopped.reset, stopped.done, stopped.quiet⟩
    cases shown : page.records with
    | nil =>
      rw [shown] at earlier
      exact .silent inner (earlier.trans (earlierOffsetOf_empty inner)) shown stop ends
        stopped.order (shown ▸ stopped.page) opens (silent shown)
    | cons head rest =>
      have member : head ∈ page.records := shown ▸ mem_cons_self
      obtain ⟨above, last, inside, lasts, gives⟩ := stopped.page.real head member
      have later : 0 < head.byteOffset := by omega
      have order := lasts.order
      have placed : Page source file head.byteOffset page.nextOffset (head :: rest) :=
        @Delivers.suffix _ _ _ _ _ _ _ _ _ (fun _ _ _ gives => gives.placed) [] head (shown ▸ stopped.page)
      have begun := ends.order
      apply Opened.tail head.byteOffset (by omega) _ (starts head member) (by omega)
        ⟨last, head, lasts, gives⟩ (shown ▸ placed) opens
      rw [earlier, shown]
      simp [earlierOffsetOf, inner, later]

theorem cold_read (positive : 1 ≤ limit) : ColdRead source file (coldStart file)
    (readSourceWindow source receivedAt (some ⟨ino, file, none⟩) ⟨none, none⟩ limit .forward) := by
  have fresh : replaced ⟨none, none⟩ (fingerprintSource ino) file.length = false := rfl
  rw [readSourceWindow, coldStart]
  dsimp only
  rw [fresh, Bool.false_or, isNone_none, Bool.true_and, forwardStart, if_pos rfl]
  exact forwardPage_cold positive (sub_le _ _)

omit [Digest] in
theorem earlier_window (some_ : 0 < fileEnd) (within : fileEnd ≤ file.length) :
    let window := earlierWindowStart file fileEnd
    let read := readForward source receivedAt none file window.start fileEnd (!window.aligned)
    Page source file window.start fileEnd read.records ∧
      ∀ record ∈ read.records, Opens file record.byteOffset := by
  have starts := earlierWindowStart_spec some_ within
  revert starts
  generalize earlierWindowStart file fileEnd = window
  intro starts
  have before := starts.before
  dsimp only
  cases aligned : window.aligned with
  | true =>
    rw [Bool.not_true]
    have forwarded := @readForward_whole _ _ source receivedAt none file fileEnd window.start
      (le_of_lt before) within
    exact ⟨forwarded.scanned.page.upper forwarded.upTo (forwarded.rest rfl).1,
      opens_first forwarded.scanned (starts.opens aligned)⟩
  | false =>
    rw [Bool.not_false]
    obtain ⟨inner, deep, clear⟩ := starts.inside aligned
    rcases @readForward_dropping _ _ source receivedAt none file fileEnd _ inner
      (le_of_lt before) within rfl with still | ended
    · obtain ⟨records, -, none_, -⟩ := still
      rw [records]
      exact ⟨Delivers.nil none_, forall_mem_nil _⟩
    · obtain ⟨stop, below, ends, forwarded⟩ := ended
      refine ⟨?_, opens_first forwarded.scanned (opens_next ends.closes)⟩
      have order := ends.order
      apply Delivers.lower (forwarded.scanned.page.upper forwarded.upTo (forwarded.rest rfl).1)
        (by omega)
      -- No line starts inside the long line that the window opens in.
      intro start last line above early _
      have upTo : last ≤ stop := line.not_across ends.closes (by omega)
      obtain ⟨same, -⟩ := line.first ends above upTo
      exact absurd (line.opens (window.start - 1) (by omega)) (clear _ (by omega) (by omega))

structure EarlierRead (source : SourceMeta) (file : Bytes) (fileEnd : Nat)
    (read : SourceReadResult) : Prop where
  page : Page source file (read.earlierOffset.getD 0) fileEnd read.records
  sealed_ : Sealed file (read.earlierOffset.getD 0)
  before : ∀ offset, read.earlierOffset = some offset → 0 < offset ∧ offset < fileEnd

variable {read : SourceReadResult}

section

omit [Digest]

theorem earlierRead_some {offset : Nat}
    (earlier : read.earlierOffset = some offset)
    (page : Page source file offset fileEnd read.records) (sealed_ : Sealed file offset)
    (positive : 0 < offset) (before : offset < fileEnd) : EarlierRead source file fileEnd read := by
  constructor
  · rw [earlier, getD_some]
    exact page
  · rw [earlier, getD_some]
    exact sealed_
  · intro other same
    rw [earlier, some_inj] at same
    rw [← same]
    exact ⟨positive, before⟩

theorem earlierRead_none (earlier : read.earlierOffset = none)
    (page : Page source file 0 fileEnd read.records) : EarlierRead source file fileEnd read := by
  constructor
  · rw [earlier, getD_none]
    exact page
  · rw [earlier, getD_none]
    exact ⟨zero_le _, .inl opens_zero⟩
  · intro other same
    rw [earlier] at same
    cases same

theorem earlierPage_read {generation : JsString} {reset : Bool} (some_ : 0 < fileEnd)
    (within : fileEnd ≤ file.length) (positive : 1 ≤ limit) : EarlierRead source file fileEnd
      (earlierPage source receivedAt file generation reset fileEnd limit) := by
  obtain ⟨page, opens⟩ := @earlier_window _ _ source receivedAt file fileEnd some_ within
  have starts := earlierWindowStart_spec some_ within
  unfold earlierPage
  dsimp only at page opens ⊢
  revert page opens starts
  generalize readForward source receivedAt none file (earlierWindowStart file fileEnd).start fileEnd
    (!(earlierWindowStart file fileEnd).aligned) = read
  generalize earlierWindowStart file fileEnd = window
  intro page opens starts
  have before := starts.before
  have sealedStart : Sealed file window.start := by
    refine ⟨by omega, ?_⟩
    cases aligned : window.aligned with
    | true => exact .inl (starts.opens aligned)
    | false =>
      obtain ⟨-, deep, clear⟩ := starts.inside aligned
      exact .inr ⟨by omega, clear.narrow (sub_le _ _) (le_refl _)⟩
  cases shown : read.records.drop (read.records.length - limit) with
  | nil =>
    have short := drop_eq_nil_iff.mp shown
    have empty : read.records = [] := eq_nil_of_length_eq_zero (by omega)
    rw [empty] at page ⊢
    by_cases inner : 0 < window.start
    · exact earlierRead_some (earlierOffsetOf_empty inner) page sealedStart inner before
    · have zero : window.start = 0 := by omega
      rw [zero] at page
      apply earlierRead_none _ page
      simp [earlierOffsetOf, zero]
  | cons head rest =>
    have split : read.records = read.records.take (read.records.length - limit) ++ head :: rest := by
      rw [← shown, take_append_drop]
    have some_ : read.records.isEmpty = false := by
      rw [split]
      simp
    have placed : Page source file head.byteOffset fileEnd (head :: rest) :=
      Delivers.suffix (fun _ _ _ gives => gives.placed) (split ▸ page)
    have kept (all : ¬ (head :: rest).length < read.records.length) : head :: rest = read.records := by
      have size := congrArg List.length shown
      rw [length_drop] at size
      have none_ : read.records.length - limit = 0 := by omega
      rw [← shown, none_, drop_zero]
    rw [some_]
    by_cases inside : (!window.aligned && decide (0 < window.start) &&
        !decide ((head :: rest).length < read.records.length)) = true
    · have earlier := inside
      simp only [and_eq_true, not_eq_true', decide_eq_true_eq, decide_eq_false_iff_not] at earlier
      obtain ⟨⟨-, inner⟩, all⟩ := earlier
      apply earlierRead_some _ _ sealedStart inner before
      · dsimp only
        rw [earlierOffsetOf_cons, if_pos inside]
      · dsimp only
        rw [kept all]
        exact page
    by_cases later : (decide (0 < head.byteOffset) && (decide (0 < window.start) ||
        decide ((head :: rest).length < read.records.length))) = true
    · have positive := of_decide_eq_true (and_eq_true_iff.mp later).1
      obtain ⟨-, stop, below, ends, -⟩ := placed.real head mem_cons_self
      have order := ends.order
      have opened : Opens file head.byteOffset := by
        apply opens head
        rw [split]
        exact mem_append_right _ mem_cons_self
      apply earlierRead_some _ placed ⟨by omega, .inl opened⟩ positive (by omega)
      dsimp only
      rw [earlierOffsetOf_cons, if_neg inside, if_pos later]
    · apply earlierRead_none
      · dsimp only
        rw [earlierOffsetOf_cons, if_neg inside, if_neg later]
      · dsimp only
        by_cases zero : head.byteOffset = 0
        · rw [zero] at placed
          exact placed
        · simp only [and_eq_true, or_eq_true, decide_eq_true_eq] at later
          have first : window.start = 0 := by omega
          rw [kept (fun dropped => later ⟨by omega, .inr dropped⟩), ← first]
          exact page

end

theorem earlier_read {origin : Option JsString} (some_ : 0 < fileEnd)
    (within : fileEnd ≤ file.length) (positive : 1 ≤ limit) : EarlierRead source file fileEnd
      (readSourceWindow source receivedAt (some ⟨ino, file, none⟩) ⟨origin, some fileEnd⟩ limit
        .earlier) := by
  rw [readSourceWindow]
  exact earlierPage_read some_ within positive

end

end CouncilKit.Observation
