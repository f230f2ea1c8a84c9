import CouncilKit.Observation.ShownOperations

namespace CouncilKit.Observation

open Data Ranked List

variable {op : RepairOperation} {id : JsString} {nowMs : Int} {existing incoming : List RepairOperation}

theorem lookup_append : lookup (existing ++ incoming) id =
    (lookup existing id).or (lookup incoming id) := List.find?_append

def newest (incoming : List RepairOperation) (op : RepairOperation) : RepairOperation :=
  (lookupLast incoming RepairOperation.operationId op.operationId).getD op

theorem newest_id : (newest incoming op).operationId = op.operationId := by
  rw [newest]
  cases found : lookupLast incoming RepairOperation.operationId op.operationId with
  | none => rfl
  | some new => exact (lookupLast_some found).2

theorem ids_newest : ids (existing.map (newest incoming)) = ids existing := by
  rw [ids, map_map]
  exact map_congr_left fun op _ => newest_id

theorem lookup_newest : lookup (existing.map (newest incoming)) id =
    (lookup existing id).map (newest incoming) := by
  rw [lookup, List.find?_map]
  congr 2
  funext op
  exact congrArg (fun key => decide (key = id)) newest_id

theorem lookupLast_unique (unique : (ids incoming).Nodup) :
    lookupLast incoming RepairOperation.operationId id = lookup incoming id := by
  cases found : lookupLast incoming RepairOperation.operationId id with
  | none => exact (lookup_eq_none.mpr fun member => by
    obtain ⟨op, inside, key⟩ := mem_map.mp member
    exact lookupLast_none.mp found op inside key).symm
  | some op =>
    obtain ⟨member, key⟩ := lookupLast_some found
    exact ((lookup_eq_some unique).mpr ⟨member, key⟩).symm

theorem unseen_unique {seen : List JsString} (unique : (ids incoming).Nodup) :
    unseen seen incoming = incoming.filter fun op => op.operationId ∉ seen := by
  induction incoming generalizing seen with
  | nil => rfl
  | cons op rest ih =>
    rw [ids, map_cons, nodup_cons] at unique
    rw [unseen, filter_cons]
    by_cases known : op.operationId ∈ seen
    · rw [if_pos known, ih unique.2]
      simp [known]
    · rw [if_neg known, ih unique.2]
      simp only [known, not_false_eq_true, decide_true, if_true]
      congr 1
      apply filter_congr
      intro other member
      have apart : other.operationId ≠ op.operationId := by
        intro same
        exact unique.1 (same ▸ mem_map_of_mem member)
      simp [apart]

theorem nodup_mergeObservedOperations (unique : (ids existing).Nodup)
    (other : (ids incoming).Nodup) : (ids (mergeObservedOperations existing incoming)).Nodup := by
  change (ids (existing.map (newest incoming) ++ unseen (ids existing) incoming)).Nodup
  rw [ids, map_append, unseen_unique other]
  apply nodup_append.mpr
  refine ⟨?_, other.sublist (filter_sublist.map _), ?_⟩
  · change (ids _).Nodup
    rw [ids_newest]
    exact unique
  intro key member new inside same
  obtain ⟨op, kept, key'⟩ := mem_map.mp inside
  have absent := (mem_filter.mp kept).2
  rw [decide_eq_true_eq, key', ← same] at absent
  change key ∈ ids _ at member
  rw [ids_newest] at member
  exact absent member

theorem lookup_mergeObservedOperations (other : (ids incoming).Nodup) :
    lookup (mergeObservedOperations existing incoming) id =
      (lookup incoming id).or (lookup existing id) := by
  change lookup (existing.map (newest incoming) ++ unseen (ids existing) incoming) id = _
  rw [lookup_append, lookup_newest, unseen_unique other]
  cases held : lookup existing id with
  | none =>
    have fresh := lookup_eq_none.mp held
    have same : lookup (incoming.filter fun op => op.operationId ∉ ids existing) id =
        lookup incoming id := by
      rw [lookup, List.find?_filter, lookup]
      congr 1
      funext op
      by_cases key : op.operationId = id
      · simp [key, fresh]
      · simp [key]
    rw [Option.map_none, Option.none_or, Option.or_none, same]
  | some old =>
    have key : old.operationId = id := by simpa using List.find?_some held
    rw [Option.map_some, Option.some_or, newest, key, lookupLast_unique other]
    cases lookup incoming id with
    | none => rfl
    | some new => rfl

def Fixed [Dates] (nowMs : Int) (ops : List RepairOperation) : Prop :=
  ∀ id, (lookup ops id).map (·.marked nowMs) = lookup ops id

theorem fixed_marked [Dates] : Fixed nowMs (markUnfinishedTools existing nowMs) := by
  intro id
  rw [lookup_marked, Option.map_map]
  congr 1
  funext op
  exact marked_marked

theorem lookup_mergeObservation [Dates] {prev : Option (List RepairOperation)}
    (unique : (ids (prev.getD [])).Nodup) (other : (ids incoming).Nodup)
    (fixed : Fixed nowMs (prev.getD [])) (fixedOther : Fixed nowMs incoming) :
    (ids (mergeObservation prev incoming false nowMs)).Nodup ∧
      lookup (mergeObservation prev incoming false nowMs) id =
        (lookup incoming id).or (lookup (prev.getD []) id) := by
  cases prev with
  | none =>
    rw [mergeObservation, ids_marked, lookup_marked, fixedOther id]
    exact ⟨other, Option.or_none.symm⟩
  | some held =>
    rw [mergeObservation, if_neg Bool.false_ne_true, ids_marked, lookup_marked,
      lookup_mergeObservedOperations other]
    refine ⟨nodup_mergeObservedOperations unique other, ?_⟩
    have heldFixed : (lookup held id).map (·.marked nowMs) = lookup held id := fixed id
    rw [Option.map_or, fixedOther id, heldFixed, Option.getD_some]

section

variable [Unicode] {fold : TextFold} {record : RawSourceRecord} {records more : List RawSourceRecord}

def TextFold.resumed (fold : TextFold) : List RawSourceRecord → Bool
  | [] => false
  | record :: rest =>
    if record.isPrivate then fold.resumed rest
    else fold.buffer ≠ [] && toLowerCase record.type ≠ js "assistant" && record.isFragment &&
      !fold.otherRun record

def TextFold.prepend (out : List RepairOperation) (fold : TextFold) : TextFold :=
  ⟨out ++ fold.out, fold.buffer⟩

theorem resumed_append (resumed : fold.resumed records = true) : fold.resumed (records ++ more) = true := by
  induction records with
  | nil => cases resumed
  | cons record rest ih =>
    rw [cons_append, TextFold.resumed]
    rw [TextFold.resumed] at resumed
    split
    · rename_i hidden
      rw [if_pos hidden] at resumed
      exact ih resumed
    · rename_i shown
      rwa [if_neg shown] at resumed

variable [Digest] {out : List RepairOperation}

section

omit [Unicode]

theorem flush_prepend : (fold.prepend out).flush = fold.flush.prepend out := by
  simp [TextFold.flush, TextFold.prepend, append_assoc]

theorem flush_flush : fold.flush.flush = fold.flush := by
  simp [TextFold.flush, textOperation]

theorem flush_empty (empty : fold.buffer = []) : fold.flush = fold := by
  cases fold
  cases empty
  simp [TextFold.flush, textOperation]

end

theorem step_prepend :
    (fold.prepend out).step record = (fold.step record).prepend out := by
  simp only [TextFold.step, flush_prepend]
  split
  · rfl
  split
  · exact @flush_prepend ⟨fold.flush.out, [record]⟩ _ out
  split
  · by_cases other : fold.otherRun record = true
    · have also : (fold.prepend out).otherRun record = true := other
      rw [if_pos other, if_pos also]
      rfl
    · have also : ¬ (fold.prepend out).otherRun record = true := other
      rw [if_neg other, if_neg also]
      rfl
  · rfl

theorem foldl_prepend :
    records.foldl TextFold.step (fold.prepend out) = (records.foldl TextFold.step fold).prepend out := by
  induction records generalizing fold with
  | nil => rfl
  | cons record rest ih => rw [foldl_cons, step_prepend, ih, foldl_cons]

theorem foldl_flush (whole : fold.resumed records = false) :
    (records.foldl TextFold.step fold).flush = (records.foldl TextFold.step fold.flush).flush := by
  induction records generalizing fold with
  | nil => exact flush_flush.symm
  | cons record rest ih =>
    rw [TextFold.resumed] at whole
    rw [foldl_cons, foldl_cons]
    by_cases hidden : record.isPrivate = true
    · rw [if_pos hidden] at whole
      have step (fold : TextFold) : fold.step record = fold := by rw [TextFold.step, if_pos hidden]
      rw [step, step]
      exact ih whole
    rw [if_neg hidden] at whole
    by_cases empty : fold.buffer = []
    · rw [flush_empty empty]
    have same : fold.step record = fold.flush.step record := by
      rw [TextFold.step, TextFold.step, if_neg hidden, if_neg hidden, flush_flush]
      split
      · rfl
      rename_i noAssistant
      split
      · rename_i fragment
        have other : fold.otherRun record = true := by
          simpa [empty, noAssistant, fragment] using whole
        have alone : ¬ fold.flush.otherRun record = true := by
          simp [TextFold.otherRun, TextFold.flush]
        rw [if_pos other, if_neg alone]
      · rfl
    rw [same]

theorem foldPublicText_append
    (whole : (records.foldl TextFold.step {}).resumed more = false) :
    foldPublicText (records ++ more) = foldPublicText records ++ foldPublicText more := by
  have written : (records.foldl TextFold.step {}).flush = TextFold.prepend (foldPublicText records) {} := by
    simp [foldPublicText, TextFold.flush, TextFold.prepend]
  rw [foldPublicText, foldl_append, foldl_flush whole, written, foldl_prepend, flush_prepend]
  rfl

end

section

variable [Unicode] [Digest] [Dates] {generation : JsString} {page : List RawSourceRecord}
  {pages : List (List RawSourceRecord)}

/-- What the client holds after the pages, each normalised at the same clock. -/
def held (generation : JsString) (nowMs : Int) (pages : List (List RawSourceRecord)) :
    Option (List RepairOperation) :=
  pages.foldl (fun prev page =>
    some (mergeObservation prev (normalizeRecords page generation nowMs) false nowMs)) none

def spoken (generation : JsString) (nowMs : Int) (id : JsString) (page : List RawSourceRecord) :
    Option (Ranked Shown) :=
  said (reports (page.map (·.stamped generation))) nowMs id

theorem held_snoc : held generation nowMs (pages ++ [page]) =
    some (mergeObservation (held generation nowMs pages)
      (normalizeRecords page generation nowMs) false nowMs) := by
  rw [held, foldl_append]
  rfl

theorem held_shows : (ids ((held generation nowMs pages).getD [])).Nodup ∧
    Fixed nowMs ((held generation nowMs pages).getD []) ∧
    ∀ id, (lookup ((held generation nowMs pages).getD []) id).map RepairOperation.shown =
      (latest (pages.map (spoken generation nowMs id))).map (·.value) := by
  induction pages using List.reverseRecOn with
  | nil => exact ⟨nodup_nil, fun id => rfl, fun id => rfl⟩
  | append_singleton rest page ih =>
    obtain ⟨unique, fixed, shows⟩ := ih
    have pageUnique : (ids (normalizeRecords page generation nowMs)).Nodup :=
      nodup_normalizeRecords generation
    have pageFixed : Fixed nowMs (normalizeRecords page generation nowMs) := fixed_marked
    have step (id : JsString) := @lookup_mergeObservation id nowMs _ _ _ unique pageUnique fixed pageFixed
    rw [held_snoc, Option.getD_some]
    refine ⟨(step []).1, ?_, ?_⟩
    · intro id
      rw [(step id).2, Option.map_or, pageFixed id, fixed id]
    · intro id
      rw [(step id).2, map_append, map_singleton, latest_snoc, Option.map_or,
        lookup_normalizeRecords, shows id, Option.map_or, spoken]

def Uncut (generation : JsString) (pages : List (List RawSourceRecord)) : Prop :=
  ∀ before after, pages = before ++ after →
    ((before.flatten.map (·.stamped generation)).foldl TextFold.step {}).resumed
      (after.flatten.map (·.stamped generation)) = false

omit [Dates] in
theorem Uncut.init (whole : Uncut generation (pages ++ [page])) : Uncut generation pages := by
  intro before after split
  have longer := whole before (after ++ [page]) (by rw [split, append_assoc])
  rw [flatten_append, map_append] at longer
  cases resumed : ((before.flatten.map (·.stamped generation)).foldl TextFold.step {}).resumed
      (after.flatten.map (·.stamped generation)) with
  | false => rfl
  | true =>
    rw [resumed_append resumed] at longer
    cases longer

variable {chosen : Ranked Shown}

omit [Unicode] [Digest] in
theorem text_rank {ops : List RepairOperation} (texts : ∀ op ∈ ops, IsText op)
    (found : said ops nowMs id = some chosen) : chosen.rank = 1 := by
  obtain ⟨op, member, same⟩ := mem_map.mp (best_some found).1
  rw [← same]
  exact (texts op (mem_filter.mp member).1).rank

variable {records : List RawSourceRecord}

theorem tool_rank
    (found : said (records.filterMap toolOperation) nowMs id = some chosen) : chosen.rank ≠ 1 := by
  obtain ⟨op, member, same⟩ := mem_map.mp (best_some found).1
  obtain ⟨record, -, reported⟩ := mem_filterMap.mp (mem_filter.mp member).1
  rw [← same]
  change op.rank ≠ 1
  rw [(toolOperation_some reported).rank]
  split
  · omega
  · omega

theorem spoken_flatten (whole : Uncut generation pages) :
    spoken generation nowMs id pages.flatten =
      joined (pages.map (spoken generation nowMs id)) := by
  induction pages using List.reverseRecOn with
  | nil => rfl
  | append_singleton rest page ih =>
    have text := foldPublicText_append (whole rest [page] rfl)
    rw [map_append, map_singleton, joined_append, joined_singleton,
      ← ih whole.init]
    simp only [spoken, reports, flatten_append, flatten_singleton, map_append,
      filterMap_append, said_append] at text ⊢
    rw [text, said_append]
    apply join_exchange
    intro text tool isText isTool same
    rw [text_rank foldPublicText_texts isText] at same
    exact tool_rank isTool same.symm

/-- The last page that speaks of an operation speaks of it at the highest rank:
no page that only starts it comes after one that ended it. -/
def Settled (generation : JsString) (pages : List (List RawSourceRecord)) : Prop :=
  ∀ before page after, pages = before ++ page :: after → ∀ op ∈ reports (page.map (·.stamped generation)),
    (∀ later ∈ after, ∀ other ∈ reports (later.map (·.stamped generation)),
      other.operationId ≠ op.operationId) →
    ∀ earlier ∈ before, ∀ old ∈ reports (earlier.map (·.stamped generation)),
    old.operationId = op.operationId →
    ∃ best ∈ reports (page.map (·.stamped generation)),
      best.operationId = op.operationId ∧ old.rank ≤ best.rank

def RepairOperation.entry (op : RepairOperation) : JsString × Shown := (op.operationId, op.shown)

def ShowsSame (held whole : List RepairOperation) : Prop :=
  (held.map RepairOperation.entry).Perm (whole.map RepairOperation.entry)

theorem spoken_none : spoken generation nowMs id page = none ↔
    ∀ op ∈ reports (page.map (·.stamped generation)), op.operationId ≠ id := by
  rw [spoken, said, best_eq_none]
  simp

theorem spoken_some (found : spoken generation nowMs id page = some chosen) :
    (∃ op ∈ reports (page.map (·.stamped generation)), op.operationId = id ∧ op.ranked nowMs = chosen) ∧
    ∀ op ∈ reports (page.map (·.stamped generation)), op.operationId = id → op.rank ≤ chosen.rank := by
  obtain ⟨member, bound⟩ := best_some found
  obtain ⟨op, inside, same⟩ := mem_map.mp member
  obtain ⟨reported, key⟩ := mem_filter.mp inside
  refine ⟨⟨op, reported, of_decide_eq_true key, same⟩, ?_⟩
  intro other otherReported otherKey
  exact bound _ (mem_map_of_mem (mem_filter.mpr ⟨otherReported, decide_eq_true otherKey⟩))

theorem latest_of_settled (settled : Settled generation pages) :
    latest (pages.map (spoken generation nowMs id)) = joined (pages.map (spoken generation nowMs id)) := by
  rcases silent_or_last (pages.map (spoken generation nowMs id)) with silent | found
  · rw [joined_silent silent]
    exact @latest_silent _ [] _ silent
  · obtain ⟨before, last, after, split, silent⟩ := found
    rw [split, latest_last silent, joined_last silent]
    obtain ⟨early, rest, pagesSplit, earlySpoken, restSpoken⟩ := map_eq_append_iff.mp split
    obtain ⟨page, late, restSplit, pageSpoken, lateSpoken⟩ := map_eq_cons_iff.mp restSpoken
    subst restSplit earlySpoken lateSpoken
    cases found : joined (early.map (spoken generation nowMs id)) with
    | none => rfl
    | some best =>
      obtain ⟨⟨op, reported, key, ranked⟩, bound⟩ := spoken_some pageSpoken
      obtain ⟨member, -⟩ := joined_some found
      obtain ⟨earlier, inside, earlierSpoken⟩ := mem_map.mp member
      obtain ⟨⟨old, oldReported, oldKey, oldRanked⟩, -⟩ := spoken_some earlierSpoken
      obtain ⟨top, topReported, topKey, above⟩ := settled early page late pagesSplit op reported
        (fun later laterInside other otherReported same =>
          spoken_none.mp (silent _ (mem_map_of_mem laterInside)) other otherReported (same.trans key))
        earlier inside old oldReported (oldKey.trans key.symm)
      have below := bound top topReported (topKey.trans key)
      apply congrArg some
      refine (pick_later ?_).symm
      rw [← oldRanked]
      exact above.trans below

variable {first second : List RepairOperation}

section

omit [Unicode] [Digest] [Dates]

theorem showsSame_of_lookup (unique : (ids first).Nodup)
    (other : (ids second).Nodup) (same : ∀ id, (lookup first id).map RepairOperation.shown =
      (lookup second id).map RepairOperation.shown) : ShowsSame first second := by
  have fst (ops : List RepairOperation) : (ops.map RepairOperation.entry).map Prod.fst = ids ops := by
    rw [map_map]
    rfl
  have nodup {ops : List RepairOperation} (unique : (ids ops).Nodup) :
      (ops.map RepairOperation.entry).Nodup := List.Nodup.of_map Prod.fst (fst ops ▸ unique)
  have holds {ops : List RepairOperation} (unique : (ids ops).Nodup) (entry : JsString × Shown) :
      entry ∈ ops.map RepairOperation.entry ↔
        (lookup ops entry.1).map RepairOperation.shown = some entry.2 := by
    rw [mem_map, Option.map_eq_some_iff]
    constructor
    · intro inside
      obtain ⟨op, member, same⟩ := inside
      subst same
      exact ⟨op, (lookup_eq_some unique).mpr ⟨member, rfl⟩, rfl⟩
    · intro found
      obtain ⟨op, found, same⟩ := found
      obtain ⟨member, key⟩ := (lookup_eq_some unique).mp found
      exact ⟨op, member, Prod.ext key same⟩
  apply (perm_ext_iff_of_nodup (nodup unique) (nodup other)).mpr
  intro entry
  rw [holds unique, holds other, same]

theorem lookup_of_showsSame (unique : (ids first).Nodup)
    (other : (ids second).Nodup) (same : ShowsSame first second) {shown : Shown}
    (found : (lookup first id).map RepairOperation.shown = some shown) :
    (lookup second id).map RepairOperation.shown = some shown := by
  obtain ⟨op, held, isShown⟩ := Option.map_eq_some_iff.mp found
  obtain ⟨member, key⟩ := (lookup_eq_some unique).mp held
  obtain ⟨otherOp, inside, entry⟩ :=
    mem_map.mp (same.mem_iff.mp (mem_map_of_mem (f := RepairOperation.entry) member))
  rw [(lookup_eq_some other).mpr ⟨inside, (congrArg Prod.fst entry).trans key⟩, Option.map_some, ← isShown]
  exact congrArg some (congrArg Prod.snd entry)

end

theorem ended_report (member : op ∈ reports records)
    (above : 0 < op.rank) :
    (op.marked nowMs).shown = op.shown ∧ op.status ≠ .started ∧ op.status ≠ .unknown ∧
      (op.rank = 1 ↔ op.kind = .progress) ∧
      (op.status = .unfinished → ∃ record ∈ records, record.status = some (js "unfinished")) := by
  rcases mem_reports member with text | tool
  · have ended : op.status ≠ .started := by simp [text.1]
    rw [marked_of_ended ended]
    refine ⟨rfl, ended, by simp [text.1], ⟨fun _ => text.2.2, fun _ => text.rank⟩, ?_⟩
    simp [text.1]
  · obtain ⟨record, inside, tool⟩ := tool
    have rank := tool.rank
    have ended : op.status ≠ .started := by
      intro started
      rw [if_pos started] at rank
      omega
    rw [if_neg ended] at rank
    rw [marked_of_ended ended]
    have kind : op.kind ≠ .progress := tool.kind ▸ opKind_ne
    refine ⟨rfl, ended, ?_, ⟨fun one => absurd one (by omega), fun isText => absurd isText kind⟩, ?_⟩
    · rw [tool.status, RawSourceRecord.opStatus]
      split
      · exact nofun
      split
      · exact nofun
      split
      · exact nofun
      · exact nofun
    · intro unfinished
      refine ⟨record, inside, ?_⟩
      rw [tool.status, RawSourceRecord.opStatus] at unfinished
      split at unfinished
      · assumption
      split at unfinished
      · cases unfinished
      split at unfinished
      · cases unfinished
      · cases unfinished

omit [Dates] in
theorem rank_le_two (member : op ∈ reports records) : op.rank ≤ 2 := by
  rcases mem_reports member with text | tool
  · rw [text.rank]
    omega
  · obtain ⟨record, -, tool⟩ := tool
    rw [tool.rank]
    split
    · omega
    · omega

theorem start_report (member : op ∈ reports records) (zero : op.rank = 0) :
    (op.marked nowMs).status = .started ∨ (op.marked nowMs).status = .unfinished := by
  have started : op.status = .started := by
    by_contra ended
    have positive : op.Reported := by
      rcases mem_reports member with text | tool
      · exact text.reported
      · obtain ⟨record, -, tool⟩ := tool
        exact tool.reported
    have one := positive.revision_pos
    rw [RepairOperation.rank, if_neg ended] at zero
    omega
  rw [RepairOperation.marked]
  split
  · exact .inr rfl
  · exact .inl started

theorem shown_apart {records others : List RawSourceRecord} {low high : RepairOperation}
    (member : low ∈ reports records) (otherMember : high ∈ reports others)
    (below : low.rank < high.rank)
    (ends : ∀ record ∈ others, record.status ≠ some (js "unfinished")) :
    (low.marked nowMs).shown ≠ (high.marked nowMs).shown := by
  intro same
  obtain ⟨shown, ended, known, kind, unfinished⟩ :=
    @ended_report high nowMs _ _ _ _ otherMember (by omega)
  have finished : high.status ≠ .unfinished := by
    intro status
    obtain ⟨record, inside, said⟩ := unfinished status
    exact ends record inside said
  rw [shown] at same
  by_cases zero : low.rank = 0
  · have status : (low.marked nowMs).status = high.status := congrArg Shown.status same
    rcases @start_report _ nowMs _ _ _ _ member zero with started | aged
    · exact ended (status ▸ started)
    · exact finished (status ▸ aged)
  · obtain ⟨lowShown, -, -, lowKind, -⟩ := @ended_report low nowMs _ _ _ _ member (by omega)
    rw [lowShown] at same
    have sameKind : low.kind = high.kind := congrArg Shown.kind same
    have two := rank_le_two otherMember
    have one : low.rank = 1 := by omega
    have highOne := kind.mpr (sameKind ▸ lowKind.mp one)
    omega

omit [Unicode] [Digest] [Dates] in
theorem stamped_status {status : Option JsString}
    (ends : ∀ record ∈ records, record.status ≠ status) :
    ∀ record ∈ records.map (·.stamped generation), record.status ≠ status := by
  intro record member
  obtain ⟨raw, inside, same⟩ := mem_map.mp member
  rw [← same]
  exact ends raw inside

theorem settled_of_shows (whole : Uncut generation pages)
    (ends : ∀ page ∈ pages, ∀ record ∈ page, record.status ≠ some (js "unfinished"))
    (same : ShowsSame ((held generation nowMs pages).getD [])
      (normalizeRecords pages.flatten generation nowMs)) : Settled generation pages := by
  intro before page after split op reported silent earlier inside old oldReported oldKey
  by_contra outdone
  cases pageSpoken : spoken generation nowMs op.operationId page with
  | none => exact spoken_none.mp pageSpoken op reported rfl
  | some last =>
  obtain ⟨⟨low, lowReported, lowKey, lowRanked⟩, -⟩ := spoken_some pageSpoken
  have below : low.rank < old.rank := by
    by_contra above
    exact outdone ⟨low, lowReported, lowKey, by omega⟩
  -- the best of the pages before outranks the last page
  have earlierSpoken : some (spoken generation nowMs op.operationId earlier) ≠ some none := by
    intro none_
    exact spoken_none.mp (Option.some.inj none_) old oldReported oldKey
  obtain ⟨first, firstSpoken⟩ := Option.ne_none_iff_exists'.mp fun none_ =>
    earlierSpoken (congrArg some none_)
  have firstRank := (spoken_some firstSpoken).2 old oldReported oldKey
  have firstMember : some first ∈ before.map (spoken generation nowMs op.operationId) :=
    firstSpoken ▸ mem_map_of_mem inside
  cases joined : joined (before.map (spoken generation nowMs op.operationId)) with
  | none =>
    have empty := best_eq_none.mp joined
    have present := reduceOption_mem_iff.mpr firstMember
    rw [empty] at present
    cases present
  | some best =>
  obtain ⟨bestMember, bound⟩ := joined_some joined
  have bestRank := bound first firstMember
  obtain ⟨top, topInside, topSpoken⟩ := mem_map.mp bestMember
  obtain ⟨⟨high, highReported, -, highRanked⟩, -⟩ := spoken_some topSpoken
  have highRank : high.rank = best.rank := congrArg rank highRanked
  have quiet : ∀ value ∈ after.map (spoken generation nowMs op.operationId), value = none := by
    intro value member
    obtain ⟨later, laterInside, spoke⟩ := mem_map.mp member
    rw [← spoke]
    exact spoken_none.mpr fun other otherReported => silent later laterInside other otherReported
  have parts : pages.map (spoken generation nowMs op.operationId) =
      before.map (spoken generation nowMs op.operationId) ++
        some last :: after.map (spoken generation nowMs op.operationId) := by
    rw [split, map_append, map_cons, pageSpoken]
  have lastShown := (@held_shows nowMs _ _ _ generation pages).2.2 op.operationId
  rw [parts, latest_last quiet] at lastShown
  have wholeShown := @lookup_normalizeRecords nowMs op.operationId pages.flatten _ _ _ generation
  have total := @spoken_flatten op.operationId nowMs _ _ _ generation _ whole
  have lower : last.rank < best.rank := by
    have lowRank : low.rank = last.rank := congrArg rank lowRanked
    omega
  rw [parts, joined_last quiet, joined] at total
  change said _ _ _ = some (pick best last) at total
  rw [pick_earlier lower] at total
  rw [total] at wholeShown
  have agree := lookup_of_showsSame (@held_shows nowMs _ _ _ generation pages).1
    (nodup_normalizeRecords generation) same lastShown
  rw [wholeShown] at agree
  have topPage : top ∈ pages := by
    rw [split]
    exact mem_append_left _ topInside
  have ended := @stamped_status generation top _ (ends top topPage)
  apply @shown_apart nowMs _ _ _ _ _ low high lowReported highReported (by omega) ended
  have lowShown : (low.marked nowMs).shown = last.value := congrArg value lowRanked
  have highShown : (high.marked nowMs).shown = best.value := congrArg value highRanked
  rw [lowShown, highShown]
  exact (Option.some.inj agree).symm

theorem shows_of_settled (whole : Uncut generation pages) (settled : Settled generation pages) :
    ShowsSame ((held generation nowMs pages).getD [])
      (normalizeRecords pages.flatten generation nowMs) := by
  obtain ⟨unique, -, shows⟩ := @held_shows nowMs _ _ _ generation pages
  apply showsSame_of_lookup unique (nodup_normalizeRecords generation)
  intro id
  rw [shows id, lookup_normalizeRecords, latest_of_settled settled, ← spoken_flatten whole, spoken]

theorem ended_stays (settled : Settled generation pages) {before after : List (List RawSourceRecord)}
    (split : pages = before ++ after)
    (found : lookup ((held generation nowMs before).getD []) id = some op)
    (terminal : TERMINAL_STATUS op.status = true) :
    ∃ later, lookup ((held generation nowMs pages).getD []) id = some later ∧
      later.status ≠ .started ∧ later.status ≠ .unknown ∧
      (later.status = .unfinished → ∃ record ∈ pages.flatten, record.status = some (js "unfinished")) := by
  have shows := (@held_shows nowMs _ _ _ generation before).2.2 id
  rw [found] at shows
  obtain ⟨first, latest, isShown⟩ := Option.map_eq_some_iff.mp shows.symm
  -- the page that ended it speaks above a start
  have firstMember : some first ∈ before.map (spoken generation nowMs id) := by
    rcases silent_or_last (before.map (spoken generation nowMs id)) with silent | last
    · have none_ := @latest_silent _ [] _ silent
      rw [nil_append, latest] at none_
      cases none_
    · obtain ⟨early, last, late, parts, silent⟩ := last
      rw [parts, latest_last silent] at latest
      rw [parts, ← latest]
      simp
  have above : 0 < first.rank := by
    obtain ⟨page, -, spoke⟩ := mem_map.mp firstMember
    obtain ⟨⟨report, reported, -, ranked⟩, -⟩ := spoken_some spoke
    by_contra zero
    have status : (report.marked nowMs).shown.status = op.status :=
      (congrArg (fun chosen => chosen.value.status) ranked).trans (congrArg Shown.status isShown)
    have rank : report.rank = first.rank := congrArg rank ranked
    rcases @start_report _ nowMs _ _ _ _ reported (by omega) with started | aged
    · rw [← status, show (report.marked nowMs).shown.status = .started from started] at terminal
      cases terminal
    · rw [← status, show (report.marked nowMs).shown.status = .unfinished from aged] at terminal
      cases terminal
  -- so what all pages come to is above a start too
  have inside : some first ∈ pages.map (spoken generation nowMs id) := by
    rw [split, map_append]
    exact mem_append_left _ firstMember
  cases total : joined (pages.map (spoken generation nowMs id)) with
  | none =>
    have present := reduceOption_mem_iff.mpr inside
    rw [best_eq_none.mp total] at present
    cases present
  | some best =>
  obtain ⟨bestMember, bound⟩ := joined_some total
  have bestAbove := bound first inside
  obtain ⟨page, pageInside, spoke⟩ := mem_map.mp bestMember
  obtain ⟨⟨report, reported, -, ranked⟩, -⟩ := spoken_some spoke
  have rank : report.rank = best.rank := congrArg rank ranked
  obtain ⟨shown, ended, known, -, unfinished⟩ :=
    @ended_report report nowMs _ _ _ _ reported (by omega)
  have finalShows := (@held_shows nowMs _ _ _ generation pages).2.2 id
  rw [latest_of_settled settled, total] at finalShows
  obtain ⟨later, held, laterShown⟩ := Option.map_eq_some_iff.mp finalShows
  have status : later.status = report.status := by
    have same : later.shown = (report.marked nowMs).shown :=
      laterShown.trans (congrArg value ranked).symm
    rw [shown] at same
    exact congrArg Shown.status same
  refine ⟨later, held, status ▸ ended, status ▸ known, ?_⟩
  intro isUnfinished
  obtain ⟨record, stamped, said⟩ := unfinished (status ▸ isUnfinished)
  obtain ⟨raw, rawInside, same⟩ := mem_map.mp stamped
  refine ⟨raw, mem_flatten_of_mem pageInside rawInside, ?_⟩
  rw [← said, ← same]
  rfl

/-- Where no page cuts a run of text, the client shows what the whole source
shows as soon as the last word on every operation has the highest rank, and,
unless a record says unfinished, only then.  What ended does not come back. -/
theorem pages_show_source (whole : Uncut generation pages) :
    (Settled generation pages →
      ShowsSame ((held generation nowMs pages).getD []) (normalizeRecords pages.flatten generation nowMs) ∧
      ∀ before after, pages = before ++ after → ∀ id op,
        lookup ((held generation nowMs before).getD []) id = some op →
        TERMINAL_STATUS op.status = true →
        ∃ later, lookup ((held generation nowMs pages).getD []) id = some later ∧
          later.status ≠ .started ∧ later.status ≠ .unknown ∧
          (later.status = .unfinished → ∃ record ∈ pages.flatten, record.status = some (js "unfinished"))) ∧
    ((∀ page ∈ pages, ∀ record ∈ page, record.status ≠ some (js "unfinished")) →
      ShowsSame ((held generation nowMs pages).getD [])
        (normalizeRecords pages.flatten generation nowMs) → Settled generation pages) := by
  constructor
  · intro settled
    refine ⟨shows_of_settled whole settled, ?_⟩
    intro before after split id op found terminal
    exact ended_stays settled split found terminal
  · exact settled_of_shows whole

end

section

variable [Unicode] {generation : JsString} {pages : List (List RawSourceRecord)}

theorem resumed_tools {fold : TextFold} {records : List RawSourceRecord}
    (tools : ∀ record ∈ records, record.isFragment = false) : fold.resumed records = false := by
  induction records with
  | nil => rfl
  | cons record rest ih =>
    rw [TextFold.resumed, tools record mem_cons_self]
    split
    · exact ih fun other member => tools other (mem_cons_of_mem _ member)
    · simp

theorem uncut_of_tools [Digest] (tools : ∀ page ∈ pages, ∀ record ∈ page, record.isFragment = false) :
    Uncut generation pages := by
  intro before after split
  apply resumed_tools
  intro record member
  obtain ⟨raw, inside, same⟩ := mem_map.mp member
  obtain ⟨page, pageInside, rawInside⟩ := mem_flatten.mp inside
  have inPages : page ∈ pages := split ▸ mem_append_right before pageInside
  rw [← same]
  exact tools page inPages raw rawInside

end

@[reducible] def silentClock : Dates := ⟨fun _ => none⟩

@[reducible] def plainDigest : Digest := ⟨fun _ => js "digest"⟩

def callRecord (type : String) (byteOffset : Nat) : RawSourceRecord where
  sourceId := js "source"
  sourceGeneration := []
  executionRef := js "execution"
  round := 1
  roleKey := js "reviewer"
  byteOffset
  receivedAt := js "2026-01-01T00:00:00.000Z"
  type := js type
  callId := some (js "call")
  name := some (js "search")

def shownCall (status : RepairOpStatus) : JsString × Shown :=
  (js "execution|generation|call", ⟨.tool, status, js "search"⟩)

theorem ended_call_shown :
    letI := Unicode.ascii
    letI := plainDigest
    letI := silentClock
    let pages := [[callRecord "tool.started" 0], [callRecord "tool.completed" 90]]
    ShowsSame ((held (js "generation") 0 pages).getD [])
      (normalizeRecords pages.flatten (js "generation") 0) := by
  intro pages
  let _ := Unicode.ascii
  let _ := plainDigest
  let _ := silentClock
  have whole : Uncut (js "generation") pages := uncut_of_tools (by decide +kernel)
  apply ((@pages_show_source 0 _ _ _ _ pages whole).1 _).1
  intro before page after split op reported _ earlier inside old oldReported _
  match before, split with
  | [], _ => cases inside
  | [first], split =>
    obtain ⟨one, two, none⟩ : [callRecord "tool.started" 0] = first ∧
      [callRecord "tool.completed" 90] = page ∧ [] = after := by simpa [pages] using split
    subst one two none
    cases mem_singleton.mp inside
    have ranks : ∀ op ∈ reports ([callRecord "tool.completed" 90].map
        (·.stamped (js "generation"))), ∀ old ∈ reports ([callRecord "tool.started" 0].map
        (·.stamped (js "generation"))), old.rank ≤ op.rank := by decide +kernel
    exact ⟨op, reported, rfl, ranks op reported old oldReported⟩
  | first :: second :: rest, split =>
    simp [pages] at split

theorem ended_comes_back :
    letI := Unicode.ascii
    letI := plainDigest
    letI := silentClock
    let pages := [[callRecord "tool.completed" 0], [callRecord "tool.started" 90]]
    ((held (js "generation") 0 pages).getD []).map RepairOperation.entry = [shownCall .started] ∧
    (normalizeRecords pages.flatten (js "generation") 0).map RepairOperation.entry =
      [shownCall .completed] ∧
    ¬ ShowsSame ((held (js "generation") 0 pages).getD [])
      (normalizeRecords pages.flatten (js "generation") 0) := by
  intro pages
  let _ := Unicode.ascii
  let _ := plainDigest
  let _ := silentClock
  have client : ((held (js "generation") 0 pages).getD []).map RepairOperation.entry =
      [shownCall .started] := by decide +kernel
  have whole : (normalizeRecords pages.flatten (js "generation") 0).map RepairOperation.entry =
      [shownCall .completed] := by decide +kernel
  refine ⟨client, whole, ?_⟩
  intro same
  rw [ShowsSame, client, whole] at same
  exact absurd (perm_singleton.mp same) (by decide)

end CouncilKit.Observation
