import Mathlib
import CouncilKit.Data.Decimal
import CouncilKit.Runs.ExecutionRef

namespace CouncilKit.Runs

open Data List FinishedEntry Option Nat

namespace JournalRow

def isStarted : JournalRow → Bool
  | .started _ => true
  | _ => false

def isResumed : JournalRow → Bool
  | .resumed _ => true
  | _ => false

def ends (key : JsString) : JournalRow → Bool
  | .finished counted _ _ _ _ => counted = key
  | _ => false

def announcesRetry : JournalRow → Bool
  | .finished _ _ _ _ willRetry => willRetry
  | _ => false

end JournalRow

/-- The reference of the execution whose terminal record stands at a place of the
journal. -/
def executionRefAt (records : List Json) (attemptId : JsString) (index : Nat) : Option JsString :=
  let scan := scanRecords records
  scan.roster.bind fun roster => (roster.roleOf attemptId).bind fun role =>
    ((scan.mine (role.key attemptId)).find? (·.index = index)).map (·.ref attemptId)

namespace Scan

variable {scan : Scan} {index : Nat} {key : JsString} {row : JournalRow}

theorem counters_note_other (apart : row.ends key = false) :
    (scan.note index row).counters key = scan.counters key := by
  cases row with
  | finished counted status output failure willRetry =>
    have different : key ≠ counted := by
      intro same
      simp [JournalRow.ends, same] at apart
    exact Function.update_of_ne different _ _
  | started roster => rfl
  | resumed reusedAttemptIds => rfl
  | other => rfl

theorem mine_note_other (apart : row.ends key = false) :
    (scan.note index row).mine key = scan.mine key := by
  cases row with
  | finished counted status output failure willRetry =>
    simp only [JournalRow.ends, decide_eq_false_iff_not] at apart
    simp [mine, note, apart]
  | started roster => rfl
  | resumed reusedAttemptIds => rfl
  | other => rfl

theorem resumes_note (goesOn : row.isResumed = false) : (scan.note index row).resumes = scan.resumes := by
  cases row with
  | resumed reusedAttemptIds => cases goesOn
  | started roster => rfl
  | finished counted status output failure willRetry => rfl
  | other => rfl

theorem lastResume_note (goesOn : row.isResumed = false) :
    (scan.note index row).lastResume = scan.lastResume := by
  cases row with
  | resumed reusedAttemptIds => cases goesOn
  | started roster => rfl
  | finished counted status output failure willRetry => rfl
  | other => rfl

theorem roster_note (stays : row.isStarted = false) : (scan.note index row).roster = scan.roster := by
  cases row with
  | started roster => cases stays
  | resumed reusedAttemptIds => rfl
  | finished counted status output failure willRetry => rfl
  | other => rfl

structure Sound (scan : Scan) (length : Nat) : Prop where
  indexed : ∀ entry ∈ scan.finished, entry.index < length
  placed : ∀ first ∈ scan.finished, ∀ second ∈ scan.finished, first.index = second.index → first = second
  resumedBefore : ∀ resume, scan.lastResume = some resume → resume.index < length
  early : ∀ entry ∈ scan.finished, entry.generation ≤ scan.generation
  /-- The entries behind the last resume are those of its generation. -/
  current : ∀ entry ∈ scan.finished,
    (entry.isAfter scan.lastResume = true ↔ entry.generation = scan.generation)
  counted : ∀ key, scan.counters key =
    (scan.mine key).getLast?.map fun last => (last.generation, last.ordinal)
  numbered : ∀ entry ∈ scan.finished, entry.generation = scan.generation →
    entry.ordinal < scan.nextOrdinal entry.key
  distinct : ∀ first ∈ scan.finished, ∀ second ∈ scan.finished, first.key = second.key →
    first.generation = second.generation → first.ordinal = second.ordinal → first = second

theorem Sound.start : Sound {} 0 where
  indexed := by simp
  placed := by simp
  resumedBefore := by simp
  early := by simp
  current := by simp
  counted := by simp [mine]
  numbered := by simp
  distinct := by simp

theorem finished_note (scan : Scan) (index : Nat) (row : JournalRow) :
    (scan.note index row).finished = scan.finished ∨
      ∃ entry, entry.index = index ∧ (scan.note index row).finished = scan.finished ++ [entry] := by
  cases row with
  | finished counted status output failure willRetry => exact .inr ⟨_, rfl, rfl⟩
  | started roster => exact .inl rfl
  | resumed reusedAttemptIds => exact .inl rfl
  | other => exact .inl rfl

theorem mem_mine {entry : FinishedEntry} :
    entry ∈ scan.mine key ↔ entry ∈ scan.finished ∧ entry.key = key := by
  simp [mine]

variable (sound : Sound scan index)

include sound

theorem Sound.resumed (reusedAttemptIds : List JsString) :
    Sound (scan.note index (.resumed reusedAttemptIds)) (index + 1) where
  indexed entry member := lt_succ_of_lt (sound.indexed entry member)
  placed := sound.placed
  resumedBefore resume last := by
    obtain rfl := some_inj.mp last
    exact lt_succ_self index
  early entry member := le_succ_of_le (sound.early entry member)
  current entry member := by
    have before := sound.indexed entry member
    have older := sound.early entry member
    simp only [note, isAfter, all_some, decide_eq_true_eq, generation] at older ⊢
    omega
  counted key := sound.counted key
  numbered entry member same := by
    have older := sound.early entry member
    simp only [note, generation] at older same
    omega
  distinct := sound.distinct

theorem Sound.finished (status : FinishedStatus) (output : Option JsString)
    (failure : Option AttemptFailureInfo) (willRetry : Bool) :
    Sound (scan.note index (.finished key status output failure willRetry)) (index + 1) := by
  have later (entry : FinishedEntry) (member : entry ∈ scan.finished) (same : entry.key = key)
      (generation : entry.generation = scan.generation) :
      entry.ordinal ≠ scan.nextOrdinal key := by
    have below := sound.numbered entry member generation
    rw [same] at below
    omega
  constructor
  case indexed =>
    intro entry member
    rcases mem_append.mp member with old | new
    · exact lt_succ_of_lt (sound.indexed entry old)
    · rw [mem_singleton.mp new]
      exact lt_succ_self index
  case placed =>
    intro first firstMember second secondMember same
    rcases mem_append.mp firstMember with old | new
    · have before := sound.indexed first old
      rcases mem_append.mp secondMember with alsoOld | alsoNew
      · exact sound.placed first old second alsoOld same
      · rw [mem_singleton.mp alsoNew] at same
        exact absurd same (Nat.ne_of_lt before)
    · rcases mem_append.mp secondMember with alsoOld | alsoNew
      · have before := sound.indexed second alsoOld
        rw [mem_singleton.mp new] at same
        exact absurd same.symm (Nat.ne_of_lt before)
      · rw [mem_singleton.mp new, mem_singleton.mp alsoNew]
  case resumedBefore =>
    intro resume last
    exact lt_succ_of_lt (sound.resumedBefore resume last)
  case early =>
    intro entry member
    rcases mem_append.mp member with old | new
    · exact sound.early entry old
    · rw [mem_singleton.mp new]
      exact le_refl _
  case current =>
    intro entry member
    rcases mem_append.mp member with old | new
    · exact sound.current entry old
    · rw [mem_singleton.mp new]
      refine iff_of_true ?_ rfl
      cases last : scan.lastResume with
      | none => simp [note, isAfter, last]
      | some resume => simpa [note, isAfter, last] using sound.resumedBefore resume last
  case counted =>
    intro other
    by_cases same : key = other
    · subst same
      simp [note, mine]
    · have apart : JournalRow.ends other (.finished key status output failure willRetry) = false := by
        simp [JournalRow.ends, same]
      rw [counters_note_other apart, mine_note_other apart]
      exact sound.counted other
  case numbered =>
    intro entry member generation
    have counter : (scan.note index (.finished key status output failure willRetry)).nextOrdinal key =
        scan.nextOrdinal key + 1 := by
      simp [nextOrdinal, note, Scan.generation]
    rcases mem_append.mp member with old | new
    · have below := sound.numbered entry old generation
      by_cases same : entry.key = key
      · rw [same] at below ⊢
        omega
      · have kept : (scan.note index (.finished key status output failure willRetry)).nextOrdinal
            entry.key = scan.nextOrdinal entry.key := by
          rw [nextOrdinal, counters_note_other (by simp [JournalRow.ends, Ne.symm same])]
          rfl
        omega
    · rw [mem_singleton.mp new, counter]
      exact lt_succ_self _
  case distinct =>
    intro first firstMember second secondMember sameKey generation ordinal
    rcases mem_append.mp firstMember with old | new
    · rcases mem_append.mp secondMember with alsoOld | alsoNew
      · exact sound.distinct first old second alsoOld sameKey generation ordinal
      · rw [mem_singleton.mp alsoNew] at sameKey generation ordinal
        exact absurd ordinal (later first old sameKey generation)
    · rcases mem_append.mp secondMember with alsoOld | alsoNew
      · rw [mem_singleton.mp new] at sameKey generation ordinal
        exact absurd ordinal.symm (later second alsoOld sameKey.symm generation.symm)
      · rw [mem_singleton.mp new, mem_singleton.mp alsoNew]

theorem Sound.weaken : Sound scan (index + 1) where
  indexed entry member := lt_succ_of_lt (sound.indexed entry member)
  placed := sound.placed
  resumedBefore resume last := lt_succ_of_lt (sound.resumedBefore resume last)
  early := sound.early
  current := sound.current
  counted := sound.counted
  numbered := sound.numbered
  distinct := sound.distinct

theorem Sound.note (row : JournalRow) : Sound (scan.note index row) (index + 1) := by
  cases row with
  | started roster =>
    have kept := sound.weaken
    exact ⟨kept.indexed, kept.placed, kept.resumedBefore, kept.early, kept.current, kept.counted,
      kept.numbered, kept.distinct⟩
  | resumed reusedAttemptIds => exact sound.resumed reusedAttemptIds
  | finished counted status output failure willRetry =>
    exact sound.finished status output failure willRetry
  | other => exact sound.weaken

end Scan

section

variable {records further : List Json} {record : Json} {attemptId key ref : JsString}

theorem scanRecords_append_one (records : List Json) (record : Json) :
    scanRecords (records ++ [record]) = (scanRecords records).note records.length (readRow record) := by
  simp [scanRecords, zipIdx_append]

theorem sound_scanRecords (records : List Json) : (scanRecords records).Sound records.length := by
  induction records using List.reverseRecOn with
  | nil => exact Scan.Sound.start
  | append_singleton records record ih =>
    rw [scanRecords_append_one, length_append]
    exact ih.note (readRow record)

theorem roster_append (grows : ∀ row ∈ further, (readRow row).isStarted = false) :
    (scanRecords (records ++ further)).roster = (scanRecords records).roster := by
  induction further using List.reverseRecOn with
  | nil => rw [append_nil]
  | append_singleton further record ih =>
    have before := ih fun row member => grows row (mem_append_left _ member)
    have here := grows record (mem_append_right _ (mem_singleton_self record))
    rw [← append_assoc, scanRecords_append_one, Scan.roster_note here, before]

theorem finished_append (records further : List Json) : ∃ more,
    (scanRecords (records ++ further)).finished = (scanRecords records).finished ++ more ∧
      ∀ entry ∈ more, records.length ≤ entry.index := by
  induction further using List.reverseRecOn with
  | nil => exact ⟨[], by simp, by simp⟩
  | append_singleton further record ih =>
    obtain ⟨more, grown, behind⟩ := ih
    rw [← append_assoc, scanRecords_append_one]
    rcases Scan.finished_note (scanRecords (records ++ further)) (records ++ further).length
      (readRow record) with same | ⟨entry, here, added⟩
    · exact ⟨more, same.trans grown, behind⟩
    · refine ⟨more ++ [entry], by rw [added, grown, append_assoc], fun other member => ?_⟩
      rcases mem_append.mp member with old | new
      · exact behind other old
      · rw [mem_singleton.mp new, here, length_append]
        exact le_add_right _ _

theorem scan_quiet (goesOn : ∀ row ∈ further, (readRow row).isResumed = false)
    (apart : ∀ row ∈ further, (readRow row).ends key = false) :
    (scanRecords (records ++ further)).resumes = (scanRecords records).resumes ∧
      (scanRecords (records ++ further)).counters key = (scanRecords records).counters key := by
  induction further using List.reverseRecOn with
  | nil => simp
  | append_singleton further record ih =>
    obtain ⟨resumes, counters⟩ := ih (fun row member => goesOn row (mem_append_left _ member))
      fun row member => apart row (mem_append_left _ member)
    have last := mem_append_right further (mem_singleton_self record)
    rw [← append_assoc, scanRecords_append_one, Scan.resumes_note (goesOn record last),
      Scan.counters_note_other (apart record last)]
    exact ⟨resumes, counters⟩

variable {index : Nat}

theorem executionRefAt_some : executionRefAt records attemptId index = some ref ↔
    ∃ roster role entry, (scanRecords records).roster = some roster ∧ roster.roleOf attemptId = some role ∧
      ((scanRecords records).mine (role.key attemptId)).find? (·.index = index) = some entry ∧
      entry.ref attemptId = ref := by
  simp only [executionRefAt, bind_eq_some_iff, map_eq_some_iff]
  constructor
  · rintro ⟨roster, known, role, seat, entry, found, same⟩
    exact ⟨roster, role, entry, known, seat, found, same⟩
  · rintro ⟨roster, role, entry, known, seat, found, same⟩
    exact ⟨roster, known, role, seat, entry, found, same⟩

variable {scan : Scan}

theorem entry_of_find {entry : FinishedEntry}
    (found : (scan.mine key).find? (·.index = index) = some entry) :
    entry ∈ scan.finished ∧ entry.key = key ∧ entry.index = index := by
  obtain ⟨member, counts⟩ := Scan.mem_mine.mp (mem_of_find?_eq_some found)
  exact ⟨member, counts, by simpa using List.find?_some found⟩

theorem find_entry {entry : FinishedEntry}
    (apart : ∀ other ∈ scan.finished, other.index = entry.index → other = entry)
    (member : entry ∈ scan.mine key) :
    (scan.mine key).find? (·.index = entry.index) = some entry := by
  cases found : (scan.mine key).find? (·.index = entry.index) with
  | none =>
    have missed := List.find?_eq_none.mp found entry member
    simp at missed
  | some other =>
    obtain ⟨here, _, same⟩ := entry_of_find found
    rw [apart other here same]

theorem formatExecutionRef_inj {generation ordinal otherGeneration otherOrdinal : Nat}
    (same : formatExecutionRef attemptId generation ordinal =
      formatExecutionRef attemptId otherGeneration otherOrdinal) :
    generation = otherGeneration ∧ ordinal = otherOrdinal := by
  have dot : js "." = [0x2E] := rfl
  have hash : js "#" = [0x23] := rfl
  simp only [formatExecutionRef, dot, hash, append_assoc, singleton_append, append_cancel_left_eq] at same
  have parts := JsString.append_ofNat_inj (by decide) (by decide) same
  exact ⟨JsString.ofNat_injective (List.cons.inj parts.1).2, parts.2⟩

theorem executionRefAt_append (grows : ∀ row ∈ further, (readRow row).isStarted = false)
    (recorded : executionRefAt records attemptId index = some ref) :
    executionRefAt (records ++ further) attemptId index = some ref := by
  obtain ⟨roster, role, entry, known, seat, found, same⟩ := executionRefAt_some.mp recorded
  obtain ⟨more, grown, -⟩ := finished_append records further
  refine executionRefAt_some.mpr ⟨roster, role, entry, (roster_append grows).trans known, seat, ?_, same⟩
  rw [Scan.mine, grown, filter_append, List.find?_append, ← Scan.mine, found, some_or]

theorem executionRefAt_inj {first second : Nat}
    (recorded : executionRefAt records attemptId first = some ref)
    (also : executionRefAt records attemptId second = some ref) : first = second := by
  obtain ⟨roster, role, entry, known, seat, found, same⟩ := executionRefAt_some.mp recorded
  obtain ⟨roster', role', other, known', seat', found', same'⟩ := executionRefAt_some.mp also
  rw [known, some_inj] at known'
  subst known'
  rw [seat, some_inj] at seat'
  subst seat'
  obtain ⟨member, counts, here⟩ := entry_of_find found
  obtain ⟨otherMember, otherCounts, there⟩ := entry_of_find found'
  obtain ⟨generation, ordinal⟩ := formatExecutionRef_inj (same.trans same'.symm)
  have equal := (sound_scanRecords records).distinct entry member other otherMember
    (counts.trans otherCounts.symm) generation ordinal
  rw [← here, ← there, equal]

variable {role reported : ExecutionRole} {live : Option AttemptLiveStatus} {runActive : Bool}
  {status : InflightExecutionStatus}

theorem ref_of_inflight {length : Nat} (sound : scan.Sound length)
    (inflight : scan.resolveSeat attemptId role live runActive = .inflight reported ref status) :
    ref = formatExecutionRef attemptId scan.generation (scan.nextOrdinal (role.key attemptId)) := by
  have ofProspective (shown : scan.prospective attemptId role live runActive =
      .inflight reported ref status) :
      ref = formatExecutionRef attemptId scan.generation (scan.nextOrdinal (role.key attemptId)) := by
    simp only [Scan.prospective] at shown
    split at shown
    · rw [AttemptExecutionResolution.inflight.injEq] at shown
      exact shown.2.1.symm
    · cases shown
  simp only [Scan.resolveSeat] at inflight
  split at inflight
  · exact ofProspective inflight
  · rename_i last found
    obtain ⟨member, counts⟩ := Scan.mem_mine.mp (mem_of_getLast? found)
    split at inflight
    · cases inflight
    · split at inflight
      · rename_i isAfter
        have generation := (sound.current last member).mp isAfter
        split at inflight
        · rw [AttemptExecutionResolution.inflight.injEq] at inflight
          have next : scan.nextOrdinal (role.key attemptId) = last.ordinal + 1 := by
            rw [Scan.nextOrdinal, sound.counted, found]
            simp [generation]
          rw [next, ← generation]
          exact inflight.2.1.symm
        · cases inflight
      · exact ofProspective inflight

theorem role_of_inflight
    (inflight : scan.resolveSeat attemptId role live runActive = .inflight reported ref status) :
    role = reported := by
  simp only [Scan.resolveSeat, Scan.prospective, terminal] at inflight
  grind

variable {roster : Roster}

theorem resolve_seat (records : List Json) (attemptId : JsString)
    (live : Option AttemptLiveStatus) (runActive : Bool)
    (known : (scanRecords records).roster = some roster)
    (seat : roster.roleOf attemptId = some role) :
    resolveAttemptExecution records attemptId live runActive =
      (scanRecords records).resolveSeat attemptId role live runActive := by
  simp only [resolveAttemptExecution, known, seat]

theorem seat_of_inflight (inflight : resolveAttemptExecution records attemptId live runActive =
      .inflight reported ref status) :
    ∃ roster role, (scanRecords records).roster = some roster ∧ roster.roleOf attemptId = some role ∧
      (scanRecords records).resolveSeat attemptId role live runActive = .inflight reported ref status := by
  simp only [resolveAttemptExecution] at inflight
  split at inflight
  · cases inflight
  · rename_i roster known
    split at inflight
    · cases inflight
    · rename_i role seat
      exact ⟨roster, role, known, seat, inflight⟩

theorem mine_ending (ends : (readRow record).ends key = true) : ∃ entry : FinishedEntry,
    entry.index = records.length ∧ entry.generation = (scanRecords records).generation ∧
      entry.ordinal = (scanRecords records).nextOrdinal key ∧
      entry.willRetry = (readRow record).announcesRetry ∧
      (scanRecords (records ++ [record])).mine key = (scanRecords records).mine key ++ [entry] := by
  rw [scanRecords_append_one]
  cases row : readRow record with
  | finished counted status output failure willRetry =>
    simp only [row, JournalRow.ends, decide_eq_true_eq] at ends
    subst ends
    refine ⟨{
      key := counted
      index := records.length
      generation := (scanRecords records).generation
      ordinal := (scanRecords records).nextOrdinal counted
      status, output, failure, willRetry }, rfl, rfl, rfl, rfl, ?_⟩
    simp [Scan.mine, Scan.note]
  | started roster => simp [row, JournalRow.ends] at ends
  | resumed reusedAttemptIds => simp [row, JournalRow.ends] at ends
  | other => simp [row, JournalRow.ends] at ends

theorem not_started_of_ends {row : JournalRow} (ends : row.ends key = true) :
    row.isStarted = false ∧ row.isResumed = false := by
  cases row with
  | finished counted status output failure willRetry => exact ⟨rfl, rfl⟩
  | started roster => cases ends
  | resumed reusedAttemptIds => cases ends
  | other => cases ends

section

variable (known : (scanRecords records).roster = some roster)
  (seat : roster.roleOf attemptId = some role)
  (ends : (readRow record).ends (role.key attemptId) = true)

include known seat ends

theorem executionRefAt_ending : executionRefAt (records ++ [record]) attemptId records.length =
      some (formatExecutionRef attemptId (scanRecords records).generation
        ((scanRecords records).nextOrdinal (role.key attemptId))) := by
  obtain ⟨entry, here, generation, ordinal, -, added⟩ := @mine_ending records record _ ends
  have after := sound_scanRecords (records ++ [record])
  have same : (scanRecords (records ++ [record])).roster = some roster := by
    rw [scanRecords_append_one, Scan.roster_note (not_started_of_ends ends).1, known]
  have member : entry ∈ (scanRecords (records ++ [record])).mine (role.key attemptId) := by
    rw [added]
    exact mem_append_right _ (mem_singleton_self entry)
  have found := find_entry (fun other there equal =>
    after.placed other there entry (Scan.mem_mine.mp member).1 equal) member
  rw [here] at found
  refine executionRefAt_some.mpr ⟨roster, role, entry, same, seat, found, ?_⟩
  rw [ref, generation, ordinal]

theorem resolve_ending (settled : (runActive && (readRow record).announcesRetry) = false) :
    ∃ status output failure,
      resolveAttemptExecution (records ++ [record]) attemptId live runActive =
        .terminal role (formatExecutionRef attemptId (scanRecords records).generation
          ((scanRecords records).nextOrdinal (role.key attemptId))) status output failure none := by
  obtain ⟨entry, here, generation, ordinal, retries, added⟩ := @mine_ending records record _ ends
  obtain ⟨notStarted, notResumed⟩ := not_started_of_ends ends
  have sound := sound_scanRecords records
  have same : (scanRecords (records ++ [record])).roster = some roster := by
    rw [scanRecords_append_one, Scan.roster_note notStarted, known]
  have resumes : (scanRecords (records ++ [record])).lastResume = (scanRecords records).lastResume := by
    rw [scanRecords_append_one, Scan.lastResume_note notResumed]
  have isAfter : entry.isAfter (scanRecords records).lastResume = true := by
    rw [isAfter, here]
    cases last : (scanRecords records).lastResume with
    | none => rfl
    | some resume => simpa using sound.resumedBefore resume last
  have notReused : ((scanRecords records).lastResume.any fun resume =>
      attemptId ∈ resume.reusedAttemptIds && entry.index < resume.index) = false := by
    cases last : (scanRecords records).lastResume with
    | none => rfl
    | some resume =>
      have before := sound.resumedBefore resume last
      simp only [any_some, Bool.and_eq_false_iff, decide_eq_false_iff_not]
      exact .inr (by omega)
  have last : ((scanRecords (records ++ [record])).mine (role.key attemptId)).getLast? = some entry := by
    rw [added, List.getLast?_concat]
  have shown : resolveAttemptExecution (records ++ [record]) attemptId live runActive =
      entry.terminal attemptId role none := by
    rw [resolve_seat _ _ _ _ same seat]
    simp only [Scan.resolveSeat, last, resumes, notReused, Bool.and_false, Bool.false_and,
      Bool.false_eq_true, if_false, isAfter, if_true, retries, settled]
  rw [shown, terminal, ref, generation, ordinal]
  exact ⟨_, _, _, rfl⟩

end

theorem recorded_of_terminal {status : TerminalExecutionStatus} {output : Option JsString}
    {failure : Option AttemptFailureInfo} {reused : Option JsString}
    (shown : resolveAttemptExecution records attemptId live runActive =
      .terminal reported ref status output failure reused) :
    ∃ index, executionRefAt records attemptId index = some ref := by
  simp only [resolveAttemptExecution] at shown
  split at shown
  · cases shown
  · rename_i roster known
    split at shown
    · cases shown
    · rename_i role seat
      have notProspective : (scanRecords records).prospective attemptId role live runActive ≠
          .terminal reported ref status output failure reused := by
        simp only [Scan.prospective]
        split <;> simp
      have ofLast {last : FinishedEntry} {why : Option JsString}
          (found : ((scanRecords records).mine (role.key attemptId)).getLast? = some last)
          (same : last.terminal attemptId role why = .terminal reported ref status output failure reused) :
          ∃ index, executionRefAt records attemptId index = some ref := by
        have member := mem_of_getLast? found
        have placed := (sound_scanRecords records).placed
        have here := find_entry (fun other there equal =>
          placed other there last (Scan.mem_mine.mp member).1 equal) member
        rw [terminal, AttemptExecutionResolution.terminal.injEq] at same
        exact ⟨last.index, executionRefAt_some.mpr ⟨roster, role, last, known, seat, here, same.2.1⟩⟩
      simp only [Scan.resolveSeat] at shown
      split at shown
      · exact absurd shown notProspective
      · rename_i last found
        split at shown
        · exact ofLast found shown
        · split at shown
          · split at shown
            · cases shown
            · exact ofLast found shown
          · exact absurd shown notProspective

/-- References in a growing journal: a recorded one stays, no two terminal records of a
seat share one, what is shown of an ended execution is recorded, and the reference of
a running one is that of its terminal record.  A resume starts new executions, so the
record that ends a running one stands before the next resume. -/
theorem execution_refs_stable
    (grows : ∀ row ∈ further, (readRow row).isStarted = false) :
    (∀ index ref, executionRefAt records attemptId index = some ref →
      executionRefAt (records ++ further) attemptId index = some ref) ∧
    (∀ first second ref, executionRefAt records attemptId first = some ref →
      executionRefAt records attemptId second = some ref → first = second) ∧
    (∀ live runActive role ref status output failure reused,
      resolveAttemptExecution records attemptId live runActive =
        .terminal role ref status output failure reused →
      ∃ index, executionRefAt records attemptId index = some ref) ∧
    ∀ live runActive role ref status record,
      resolveAttemptExecution records attemptId live runActive = .inflight role ref status →
      (∀ row ∈ further, (readRow row).isResumed = false) →
      (∀ row ∈ further, (readRow row).ends (role.key attemptId) = false) →
      (readRow record).ends (role.key attemptId) = true →
      executionRefAt (records ++ further ++ [record]) attemptId (records ++ further).length = some ref ∧
      ∀ laterLive laterActive, (laterActive && (readRow record).announcesRetry) = false →
        ∃ ended output failure,
          resolveAttemptExecution (records ++ further ++ [record]) attemptId laterLive laterActive =
            .terminal role ref ended output failure none := by
  refine ⟨fun index ref => executionRefAt_append grows, fun first second ref => executionRefAt_inj,
    fun live runActive role ref status output failure reused => recorded_of_terminal, ?_⟩
  intro live runActive role ref status record inflight goesOn apart ends
  obtain ⟨roster, seated, known, seat, shown⟩ := seat_of_inflight inflight
  have sameRole : seated = role := role_of_inflight shown
  subst sameRole
  have running := ref_of_inflight (sound_scanRecords records) shown
  obtain ⟨resumes, counters⟩ := @scan_quiet records further _ goesOn apart
  have later : formatExecutionRef attemptId (scanRecords (records ++ further)).generation
      ((scanRecords (records ++ further)).nextOrdinal (seated.key attemptId)) = ref := by
    rw [running, Scan.nextOrdinal, Scan.nextOrdinal, counters, Scan.generation, Scan.generation, resumes]
  have sameRoster := (roster_append grows).trans known
  rw [← later]
  exact ⟨executionRefAt_ending sameRoster seat ends,
    fun laterLive laterActive settled => resolve_ending sameRoster seat ends settled⟩

end

def seatOf (id : String) : Json := .object [(js "attemptId", .string (js id))]

def sampleStarted : Json := .object [(js "kind", .string (js "review.started")),
  (js "attempts", .array [seatOf "attempt-0", seatOf "attempt-1"]),
  (js "aggregator", seatOf "aggregator")]

def finishedRecord (id status : String) (willRetry : Bool) : Json :=
  .object [(js "kind", .string (js "attempt.finished")), (js "attemptId", .string (js id)),
    (js "status", .string (js status)), (js "willRetry", .bool willRetry)]

def retryJournal : List Json := [sampleStarted, finishedRecord "attempt-0" "failure" true]

example : resolveAttemptExecution retryJournal (js "attempt-0") (some .running) true =
    .inflight .attempt (js "attempt-0#1.2") .running := by decide

theorem execution_refs_retry :
    (∀ row ∈ [finishedRecord "attempt-1" "success" false], (readRow row).isStarted = false) ∧
    executionRefAt (retryJournal ++ [finishedRecord "attempt-1" "success" false] ++
      [finishedRecord "attempt-0" "success" false]) (js "attempt-0") 3 = some (js "attempt-0#1.2") := by
  have grows : ∀ row ∈ [finishedRecord "attempt-1" "success" false],
      (readRow row).isStarted = false := by decide
  have refs := @execution_refs_stable retryJournal _ (js "attempt-0") grows
  refine ⟨grows, (refs.2.2.2 (some .running) true .attempt (js "attempt-0#1.2") .running
    (finishedRecord "attempt-0" "success" false) (by decide) (by decide) (by decide) (by decide)).1⟩

end CouncilKit.Runs
