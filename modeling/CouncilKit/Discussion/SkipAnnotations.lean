import CouncilKit.Data.SortedPrefix
import CouncilKit.Discussion.ContextSnapshot

namespace CouncilKit.Discussion

open Data List TimedItem

namespace TimedItem

variable {first second third left right : TimedItem}

theorem Before.trans (earlier : first.Before second) (later : second.Before third) :
    first.Before third := by
  simp only [Before] at earlier later ⊢
  split at earlier
  · rename_i same
    split at later
    · rename_i alike
      rw [if_pos (same.trans alike)]
      exact JsString.Before.trans earlier later
    · rename_i apart
      rw [same, if_neg apart]
      exact later
  · rename_i apart
    split at later
    · rename_i alike
      rw [← alike, if_neg apart]
      exact earlier
    · have across := JsString.Before.trans earlier later
      rw [if_neg fun same => JsString.not_before_self _ (same ▸ across)]
      exact across

theorem Before.asymm (earlier : left.Before right) : ¬ right.Before left := by
  intro later
  have itself := Before.trans earlier later
  simp only [Before, if_true] at itself
  exact JsString.not_before_self _ itself

theorem before_or_same_or_before (left right : TimedItem) :
    left.Before right ∨ (left.at = right.at ∧ left.item.id = right.item.id) ∨ right.Before left := by
  simp only [Before]
  by_cases same : left.at = right.at
  · rw [if_pos same, if_pos same.symm]
    rcases JsString.before_or_eq_or_before left.item.id right.item.id with earlier | alike | later
    · exact .inl earlier
    · exact .inr (.inl ⟨same, alike⟩)
    · exact .inr (.inr later)
  · rw [if_neg same, if_neg fun alike => same alike.symm]
    rcases JsString.before_or_eq_or_before left.at right.at with earlier | alike | later
    · exact .inl earlier
    · exact absurd alike same
    · exact .inr (.inr later)

instance : Std.Total Order where
  total left right := by
    by_cases later : right.Before left
    · exact .inr later.asymm
    · exact .inl later

theorem before_congr (times : left.at = right.at) (ids : left.item.id = right.item.id) :
    left.Before third ↔ right.Before third := by
  simp only [Before, times, ids]

instance : IsTrans TimedItem Order where
  trans first second third := by
    intro ordered next later
    rcases before_or_same_or_before first second with earlier | ⟨times, ids⟩ | back
    · exact next (later.trans earlier)
    · have back : second.Before third ∨ third.Before second := by
        rcases before_or_same_or_before second third with before | ⟨sameTimes, sameIds⟩ | after
        · exact .inl before
        · simp only [Before, times, ids, sameTimes, sameIds, if_true] at later
          exact absurd later (JsString.not_before_self _)
        · exact .inr after
      rcases back with before | after
      · exact ((before_congr times ids).mpr before).asymm later
      · exact next after
    · exact ordered back

end TimedItem

def terminalExecutionStates (execution : ModelExecution) : Bool :=
  execution.state = .failed ∨ execution.state = .discarded ∨ execution.state = .interrupted

def ModelExecution.Speaks (execution : ModelExecution) (roundId participantId : JsString) : Prop :=
  execution.roundId = roundId ∧ execution.participantId = participantId ∧ execution.resultKind = .message

instance (execution : ModelExecution) (roundId participantId : JsString) :
    Decidable (execution.Speaks roundId participantId) := inferInstanceAs (Decidable (_ ∧ _))

def slotExecutions (executions : List ModelExecution) (roundId participantId : JsString) :
    List ModelExecution :=
  executions.filter fun execution => execution.Speaks roundId participantId

/-- `reduce` to the last created one; the first of equals stays. -/
def lastCreated : List ModelExecution → Option ModelExecution
  | [] => none
  | first :: rest => some (rest.foldl (fun latest execution =>
    if latest.createdAt.Before execution.createdAt then execution else latest) first)

def skipId (roundId participantId : JsString) : JsString :=
  js "skip-" ++ roundId ++ js "-" ++ participantId

def skipContent (roundNumber : Nat) (modelId : JsString) : JsString :=
  js "【调度记录】第 " ++ JsString.ofNat roundNumber ++ js " 轮中 Participant（" ++ modelId ++
    js "）的发言执行失败，已被跳过；该轮没有其发言。"

def skipItem (participants : List Participant) (roundId : JsString) (roundNumber : Nat)
    (participantId : JsString) : SnapshotItem where
  id := skipId roundId participantId
  role := .user
  content := skipContent roundNumber
    (((lookupLast participants Participant.id participantId).map (·.modelId)).getD (js "unknown"))

def slotNote (executions : List ModelExecution) (participants : List Participant)
    (round : DiscussionRound) (participantId : JsString) : Option TimedItem :=
  if (slotExecutions executions round.id participantId).any (·.state = .committed) then none
  else (lastCreated ((slotExecutions executions round.id participantId).filter
      terminalExecutionStates)).map fun last =>
    ⟨last.createdAt, skipItem participants round.id round.roundNumber participantId⟩

def deriveSkipAnnotations (rounds : List DiscussionRound) (executions : List ModelExecution)
    (participants : List Participant) : List TimedItem :=
  rounds.flatMap fun round =>
    (round.participantOrder.take round.nextParticipantIndex).filterMap
      (slotNote executions participants round)

def timestampById (messages : List DiscussionMessage) (summaries : List DiscussionSummary)
    (id : JsString) : Option JsString :=
  (lookupLast ((messages.map fun message => (message.id, message.createdAt)) ++
    summaries.map fun summary => (summary.id, summary.generatedAt)) (·.1) id).map (·.2)

def ProjectionFirst (projection note : TimedItem) : Prop :=
  projection.at.Before note.at ∨
    projection.at = note.at ∧ ¬ note.item.id.Before projection.item.id

instance : DecidableRel ProjectionFirst := fun _ _ => inferInstanceAs (Decidable (_ ∨ _))

/-- The notes that come before a projection item, that item, and the rest. -/
def weaveNotes (projection : TimedItem) (rest : List TimedItem → List TimedItem) :
    List TimedItem → List TimedItem
  | [] => projection :: rest []
  | note :: notes =>
    if ProjectionFirst projection note then projection :: rest (note :: notes)
    else note :: weaveNotes projection rest notes

def weave : List TimedItem → List TimedItem → List TimedItem
  | [] => id
  | projection :: projections => weaveNotes projection (weave projections)

def weaveSkipAnnotations (projectionItems : List SnapshotItem)
    (atById : JsString → Option JsString) (notes : List TimedItem) : List SnapshotItem :=
  let sortedNotes := notes.insertionSort Order
  let withAt := projectionItems.map fun item => ⟨(atById item.id).getD [], item⟩
  (weave withAt sortedNotes).map (·.item)

structure RoomRows where
  messages : List DiscussionMessage
  summaries : List DiscussionSummary
  executions : List ModelExecution
  rounds : List DiscussionRound
  participants : List Participant

namespace RoomRows

variable (rows : RoomRows)

/-- The item list `dispatchTurn` puts into the snapshot. -/
def items (room : DiscussionRoom) : List SnapshotItem :=
  let projectionItems :=
    (projectSharedContext room.topic room.background rows.messages rows.summaries).items
  if rows.executions.any terminalExecutionStates then
    weaveSkipAnnotations projectionItems (timestampById rows.messages rows.summaries)
      (deriveSkipAnnotations rows.rounds rows.executions rows.participants)
  else projectionItems

def projected : List TimedItem := timedItems rows.messages rows.summaries

def annotations : List TimedItem :=
  deriveSkipAnnotations rows.rounds rows.executions rows.participants

def context : List TimedItem :=
  weave (rows.projected.insertionSort Order)
    (rows.annotations.insertionSort Order)

end RoomRows

section Weave

variable {projection note entry : TimedItem} {projections notes : List TimedItem}

theorem projectionFirst_iff : ProjectionFirst projection note ↔ projection.Order note := by
  simp only [ProjectionFirst, Order, Before]
  by_cases same : projection.at = note.at
  · rw [if_pos same.symm]
    simp [same, JsString.not_before_self]
  · rw [if_neg fun alike => same alike.symm]
    rcases JsString.before_or_eq_or_before projection.at note.at with earlier | alike | later
    · simp [earlier, earlier.asymm]
    · exact absurd alike same
    · simp [same, later, later.asymm]

theorem weave_perm : (weave projections notes).Perm (projections ++ notes) := by
  induction projections generalizing notes with
  | nil => exact .refl _
  | cons projection projections ih =>
    rw [weave]
    induction notes with
    | nil => exact ih.cons _
    | cons note notes inner =>
      rw [weaveNotes]
      split
      · exact ih.cons _
      · exact (inner.cons _).trans perm_middle.symm

theorem mem_weave : entry ∈ weave projections notes ↔ entry ∈ projections ∨ entry ∈ notes :=
  weave_perm.mem_iff.trans mem_append

theorem weave_nil : weave projections [] = projections := by
  induction projections with
  | nil => rfl
  | cons projection projections ih => rw [weave, weaveNotes, ih]

theorem weave_sorted (sorted : projections.Pairwise Order)
    (notesSorted : notes.Pairwise Order) :
    (weave projections notes).Pairwise Order := by
  induction projections generalizing notes with
  | nil => exact notesSorted
  | cons projection projections ih =>
    obtain ⟨first, restSorted⟩ := pairwise_cons.mp sorted
    rw [weave]
    induction notes with
    | nil =>
      rw [weaveNotes, weave_nil]
      exact sorted
    | cons note notes inner =>
      obtain ⟨noteFirst, notesRest⟩ := pairwise_cons.mp notesSorted
      rw [weaveNotes]
      split
      · rename_i ahead
        have ordered := projectionFirst_iff.mp ahead
        refine pairwise_cons.mpr ⟨fun entry member => ?_, ih restSorted notesSorted⟩
        rcases mem_weave.mp member with own | other
        · exact first entry own
        · rcases mem_cons.mp other with rfl | later
          · exact ordered
          · exact IsTrans.trans _ _ _ ordered (noteFirst entry later)
      · rename_i behind
        have ordered : note.Order projection := by
          rcases Std.Total.total (r := Order) projection note with ahead | back
          · exact absurd (projectionFirst_iff.mpr ahead) behind
          · exact back
        refine pairwise_cons.mpr ⟨fun entry member => ?_, inner notesRest⟩
        have among : entry ∈ weave (projection :: projections) notes := member
        rw [mem_weave, mem_cons] at among
        rcases among with (rfl | own) | other
        · exact ordered
        · exact IsTrans.trans _ _ _ ordered (first entry own)
        · exact noteFirst entry other

end Weave

section Annotations

variable {executions : List ModelExecution} {participants : List Participant}
  {rounds : List DiscussionRound} {round : DiscussionRound} {participantId : JsString}
  {note : TimedItem}

theorem lastCreated_some {first : ModelExecution} {rest : List ModelExecution} :
    ∃ last ∈ first :: rest, lastCreated (first :: rest) = some last ∧
      ∀ execution ∈ first :: rest, ¬ last.createdAt.Before execution.createdAt := by
  induction rest generalizing first with
  | nil =>
    refine ⟨first, mem_cons_self, rfl, fun execution member => ?_⟩
    rw [mem_singleton.mp member]
    exact JsString.not_before_self _
  | cons second rest ih =>
    simp only [lastCreated, foldl_cons]
    split
    · rename_i later
      obtain ⟨last, member, found, most⟩ := @ih second
      refine ⟨last, mem_cons_of_mem _ member, found, fun execution other => ?_⟩
      rcases mem_cons.mp other with rfl | other
      · exact fun beyond => most second mem_cons_self (beyond.trans later)
      · exact most execution other
    · rename_i earlier
      obtain ⟨last, member, found, most⟩ := @ih first
      have kept : ∀ execution ∈ first :: rest, execution ∈ first :: second :: rest :=
        fun execution other => (mem_cons.mp other).elim
          (fun same => same ▸ mem_cons_self)
          fun inRest => mem_cons_of_mem _ (mem_cons_of_mem _ inRest)
      refine ⟨last, kept last member, found, fun execution other => ?_⟩
      rcases mem_cons.mp other with rfl | other
      · exact most execution mem_cons_self
      · rcases mem_cons.mp other with rfl | other
        · intro beyond
          rcases JsString.before_or_eq_or_before first.createdAt execution.createdAt with
            before | same | after
          · exact earlier before
          · exact most first mem_cons_self (same ▸ beyond)
          · exact most first mem_cons_self (beyond.trans after)
        · exact most execution (mem_cons_of_mem _ other)

theorem mem_slotExecutions {roundId : JsString} {execution : ModelExecution} :
    execution ∈ slotExecutions executions roundId participantId ↔
      execution ∈ executions ∧ execution.Speaks roundId participantId := by
  simp [slotExecutions]

/-- A slot that shows: none of its executions committed, and the last of the
failed ones gives the time. -/
structure SlotShows (executions : List ModelExecution) (roundId participantId : JsString)
    (time : JsString) : Prop where
  uncommitted : ∀ execution ∈ executions, execution.Speaks roundId participantId →
    execution.state ≠ .committed
  failed : ∃ execution ∈ executions, execution.Speaks roundId participantId ∧
    terminalExecutionStates execution = true ∧ execution.createdAt = time
  last : ∀ execution ∈ executions, execution.Speaks roundId participantId →
    terminalExecutionStates execution = true → ¬ time.Before execution.createdAt

theorem SlotShows.time_unique {roundId time other : JsString}
    (shows : SlotShows executions roundId participantId time)
    (alike : SlotShows executions roundId participantId other) : time = other := by
  obtain ⟨execution, member, speaks, ended, rfl⟩ := shows.failed
  obtain ⟨second, secondMember, secondSpeaks, secondEnded, rfl⟩ := alike.failed
  rcases JsString.before_or_eq_or_before execution.createdAt second.createdAt with
    earlier | same | later
  · exact absurd earlier (shows.last second secondMember secondSpeaks secondEnded)
  · exact same
  · exact absurd later (alike.last execution member speaks ended)

theorem slotNote_some :
    slotNote executions participants round participantId = some note ↔
      ∃ time, SlotShows executions round.id participantId time ∧
        note = ⟨time, skipItem participants round.id round.roundNumber participantId⟩ := by
  have terminals : ∀ execution,
      execution ∈ (slotExecutions executions round.id participantId).filter terminalExecutionStates ↔
        execution ∈ executions ∧ execution.Speaks round.id participantId ∧
          terminalExecutionStates execution = true := by
    intro execution
    rw [mem_filter, mem_slotExecutions, and_assoc]
  simp only [slotNote, any_eq_true, decide_eq_true_eq]
  split
  · rename_i committed
    obtain ⟨execution, member, state⟩ := committed
    obtain ⟨stored, speaks⟩ := mem_slotExecutions.mp member
    simp only [reduceCtorEq, false_iff, not_exists, not_and]
    exact fun time shows _ => shows.uncommitted execution stored speaks state
  · rename_i silent
    have uncommitted : ∀ execution ∈ executions, execution.Speaks round.id participantId →
        execution.state ≠ .committed := fun execution member speaks state =>
      silent ⟨execution, mem_slotExecutions.mpr ⟨member, speaks⟩, state⟩
    cases ended : (slotExecutions executions round.id participantId).filter
        terminalExecutionStates with
    | nil =>
      simp only [lastCreated, Option.map_none, reduceCtorEq, false_iff, not_exists, not_and]
      intro time shows _
      obtain ⟨execution, member, speaks, terminal, -⟩ := shows.failed
      have := (terminals execution).mpr ⟨member, speaks, terminal⟩
      rw [ended] at this
      exact not_mem_nil this
    | cons first rest =>
      obtain ⟨last, lastMember, found, most⟩ := @lastCreated_some first rest
      rw [ended] at terminals
      obtain ⟨stored, speaks, terminal⟩ := (terminals last).mp lastMember
      have shows : SlotShows executions round.id participantId last.createdAt :=
        ⟨uncommitted, ⟨last, stored, speaks, terminal, rfl⟩, fun execution member speaks ended =>
          most execution ((terminals execution).mpr ⟨member, speaks, ended⟩)⟩
      simp only [found, Option.map_some, Option.some.injEq]
      constructor
      · intro same
        exact ⟨last.createdAt, shows, same.symm⟩
      · intro given
        obtain ⟨time, alike, rfl⟩ := given
        rw [shows.time_unique alike]

theorem mem_deriveSkipAnnotations :
    note ∈ deriveSkipAnnotations rounds executions participants ↔
      ∃ round ∈ rounds, ∃ participantId ∈
        round.participantOrder.take round.nextParticipantIndex,
        slotNote executions participants round participantId = some note := by
  simp only [deriveSkipAnnotations, mem_flatMap, mem_filterMap]

end Annotations

namespace RoomRows

variable {rows : RoomRows}

structure Distinct (rows : RoomRows) : Prop where
  projected : (rows.projected.map fun timed => timed.item.id).Nodup
  annotations : (rows.annotations.map fun timed => timed.item.id).Nodup
  apart : ∀ projection ∈ rows.projected, ∀ note ∈ rows.annotations, projection.item.id ≠ note.item.id

theorem mem_context {entry : TimedItem} :
    entry ∈ rows.context ↔ entry ∈ rows.projected ∨ entry ∈ rows.annotations := by
  rw [context, mem_weave, mem_insertionSort, mem_insertionSort]

variable {first second : TimedItem}

theorem Distinct.same (distinct : rows.Distinct)
    (member : first ∈ rows.context) (other : second ∈ rows.context)
    (ids : first.item.id = second.item.id) : first = second := by
  rcases mem_context.mp member with projected | noted <;>
    rcases mem_context.mp other with otherProjected | otherNoted
  · exact inj_on_of_nodup_map distinct.projected projected otherProjected ids
  · exact absurd ids (distinct.apart first projected second otherNoted)
  · exact absurd ids.symm (distinct.apart second otherProjected first noted)
  · exact inj_on_of_nodup_map distinct.annotations noted otherNoted ids

theorem before_of_order (ordered : first.Order second)
    (ids : first.item.id ≠ second.item.id) : first.Before second := by
  rcases before_or_same_or_before first second with earlier | ⟨-, same⟩ | later
  · exact earlier
  · exact absurd same ids
  · exact absurd later ordered

theorem Distinct.nodup (distinct : rows.Distinct) : rows.context.Nodup := by
  have whole : (rows.projected ++ rows.annotations).Nodup := by
    refine nodup_append.mpr ⟨.of_map _ distinct.projected, .of_map _ distinct.annotations, ?_⟩
    exact fun first member second other same =>
      distinct.apart first member second other (congrArg (·.item.id) same)
  exact (weave_perm.trans ((perm_insertionSort ..).append (perm_insertionSort ..)))
    |>.nodup_iff.mpr whole

theorem Distinct.sorted (distinct : rows.Distinct) : rows.context.Pairwise Before := by
  have ordered : rows.context.Pairwise Order :=
    weave_sorted (pairwise_insertionSort ..) (pairwise_insertionSort ..)
  refine (ordered.and distinct.nodup).imp_of_mem fun member other both => ?_
  exact before_of_order both.1 fun ids => both.2 (distinct.same member other ids)

theorem timestampById_projected
    (unique : (rows.projected.map fun timed => timed.item.id).Nodup) {timed : TimedItem}
    (member : timed ∈ rows.projected) :
    timestampById rows.messages rows.summaries timed.item.id = some timed.at := by
  have entries : ((rows.messages.map fun message => (message.id, message.createdAt)) ++
      rows.summaries.map fun summary => (summary.id, summary.generatedAt)) =
      rows.projected.map fun timed => (timed.item.id, timed.at) := by
    rw [projected, timedItems, map_append, map_map, map_map]
    rfl
  rw [timestampById, entries]
  cases found : lookupLast (rows.projected.map fun timed => (timed.item.id, timed.at)) (·.1)
      timed.item.id with
  | none =>
    exact absurd rfl (lookupLast_none.mp found _ (mem_map_of_mem member))
  | some entry =>
    obtain ⟨stored, key⟩ := lookupLast_some found
    obtain ⟨other, otherMember, rfl⟩ := mem_map.mp stored
    rw [inj_on_of_nodup_map unique otherMember member key]
    rfl

theorem annotations_nil (quiet : ¬ rows.executions.any terminalExecutionStates = true) :
    rows.annotations = [] := by
  refine eq_nil_iff_forall_not_mem.mpr fun note member => ?_
  obtain ⟨round, -, participantId, -, shown⟩ := mem_deriveSkipAnnotations.mp member
  obtain ⟨time, shows, -⟩ := slotNote_some.mp shown
  obtain ⟨execution, stored, -, terminal, -⟩ := shows.failed
  exact quiet (any_eq_true.mpr ⟨execution, stored, terminal⟩)

theorem items_eq (unique : (rows.projected.map fun timed => timed.item.id).Nodup) (room : DiscussionRoom) :
    rows.items room = rows.context.map (·.item) := by
  simp only [items, projectSharedContext]
  split
  · have restored : ((rows.projected.insertionSort Order).map (·.item)).map (fun item =>
        (⟨(timestampById rows.messages rows.summaries item.id).getD [], item⟩ : TimedItem)) =
        rows.projected.insertionSort Order := by
      rw [map_map]
      refine (map_congr_left fun timed member => ?_).trans (map_id _)
      rw [Function.comp_apply,
        timestampById_projected unique ((mem_insertionSort _).mp member)]
      rfl
    rw [weaveSkipAnnotations, ← projected, restored]
    rfl
  · rename_i quiet
    rw [context, annotations_nil quiet, insertionSort_nil, weave_nil]
    rfl

end RoomRows

end CouncilKit.Discussion
