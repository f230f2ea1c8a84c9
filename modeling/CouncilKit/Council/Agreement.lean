import CouncilKit.Council.CouncilRun
import CouncilKit.Council.TurnCalls

namespace CouncilKit.Council

open Data List

def recordIds (records : List TranscriptRecord) : List ExecutionId :=
  records.filterMap fun
    | .completed record => some record.executionId
    | _ => none

namespace Report

def ids : Report → List ExecutionId
  | .success reporter => (reporter.map (·.1)).toList
  | .partial_ turns => turns.map (·.executionId)

end Report

namespace CouncilEvent

def ids : CouncilEvent → List ExecutionId
  | .host .. => []
  | .transcript records => recordIds records
  | .report content | .copy content => content.ids

def written : CouncilEvent → Option (List TranscriptRecord)
  | .transcript records => some records
  | _ => none

end CouncilEvent

def transcriptOnDisk (log : List CouncilEvent) : Option (List TranscriptRecord) :=
  (log.filterMap (·.written)).getLast?

def Told (log : List CouncilEvent) (id : ExecutionId) (disposition : AckDisposition) : Prop :=
  ∃ finalSeq, .host id (.ack disposition finalSeq) ∈ log

def Durable (log : List CouncilEvent) : Prop :=
  ∀ before id finalSeq after, log = before ++ .host id (.ack .committed finalSeq) :: after →
    ∃ records, transcriptOnDisk before = some records ∧ (recordIds records).count id = 1

/-- A discarded execution is in no transcript and no report, a committed one is once
on disk before its ACK is sent, no execution gets both dispositions, and none is posted
twice. -/
structure Agreement (log : List CouncilEvent) : Prop where
  discarded : ∀ id, Told log id .discarded → ∀ event ∈ log, id ∉ event.ids
  committed : Durable log
  single : ∀ id, ¬ (Told log id .committed ∧ Told log id .discarded)
  once : ∀ id, log.count (.host id .execute) ≤ 1

section

variable {log events : List CouncilEvent} {id : ExecutionId} {disposition : AckDisposition}

theorem told_append : Told (log ++ events) id disposition ↔
    Told log id disposition ∨ Told events id disposition := by
  simp only [Told, mem_append, exists_or]

theorem Told.grows (told : Told log id disposition) : Told (log ++ events) id disposition :=
  told_append.mpr (.inl told)

def Local (events : List CouncilEvent) : Prop := ∀ id call, .host id call ∉ events

theorem Durable.append (durable : Durable log)
    (later : ∀ before id finalSeq after,
      events = before ++ .host id (.ack .committed finalSeq) :: after →
        ∃ records, transcriptOnDisk (log ++ before) = some records ∧
          (recordIds records).count id = 1) : Durable (log ++ events) := by
  intro before id finalSeq after split
  rcases append_eq_append_iff.mp split with ⟨middle, earlier, rest⟩ | ⟨middle, earlier, rest⟩
  · subst earlier
    exact later middle id finalSeq after rest
  · cases middle with
    | nil =>
      rw [append_nil] at earlier
      have here := later [] id finalSeq after (by simpa using rest.symm)
      rwa [append_nil, earlier] at here
    | cons first middle =>
      rw [cons_append, List.cons.injEq] at rest
      obtain ⟨same, -⟩ := rest
      subst same
      exact durable before id finalSeq middle earlier

theorem split_last {event : CouncilEvent} {before after : List CouncilEvent} (absent : event ∉ events)
    (split : events ++ [event] = before ++ event :: after) : events = before := by
  rcases append_eq_append_iff.mp split with ⟨middle, earlier, rest⟩ | ⟨middle, earlier, rest⟩
  · cases middle with
    | nil => simpa using earlier.symm
    | cons first middle => simp at rest
  · cases middle with
    | nil => simpa using earlier
    | cons first middle =>
      rw [cons_append, List.cons.injEq] at rest
      exact absurd (by rw [earlier, ← rest.1]; simp) absent

theorem transcriptOnDisk_written (records : List TranscriptRecord) (unwritten : ∀ event ∈ events,
    event.written = none) :
    transcriptOnDisk (log ++ .transcript records :: events) = some records := by
  have nothing : events.filterMap (·.written) = [] := by
    rw [filterMap_eq_nil_iff]
    exact unwritten
  have here : CouncilEvent.written (.transcript records) = some records := rfl
  rw [transcriptOnDisk, filterMap_append, filterMap_cons, here, nothing,
    List.getLast?_concat]

end

namespace CouncilRun

variable {run next : CouncilRun} {label : CouncilLabel} {id : ExecutionId}

def remembered (run : CouncilRun) : List ExecutionId :=
  recordIds run.transcript ++ run.completedTurns.map (·.executionId) ++
    (run.reporterOutput.map (·.1)).toList ++ (run.reporterSuccess.map (·.ids)).getD [] ++
    match run.stage with
      | .copying content => content.ids
      | _ => []

def Standing (log : List CouncilEvent) (turn : Turn) : Prop :=
  (turn.phase.progress = .unsent → ∀ call, .host turn.executionId call ∉ log) ∧
  (turn.phase.progress = .open_ → ∀ disposition, ¬ Told log turn.executionId disposition) ∧
  (turn.phase.claimsCompleted = true → Told log turn.executionId .committed)

structure Sound (run : CouncilRun) : Prop where
  durable : Durable run.log
  single : ∀ id, ¬ (Told run.log id .committed ∧ Told run.log id .discarded)
  once : ∀ id, run.log.count (.host id .execute) ≤ 1
  remembers : ∀ id ∈ run.remembered, Told run.log id .committed
  shows : ∀ event ∈ run.log, ∀ id ∈ event.ids, Told run.log id .committed
  apart : (recordIds run.transcript).Nodup
  drawn : ∀ id call, .host id call ∈ run.log → id ∈ run.drawn
  standing : ∀ seat turn, run.stage = .turning seat turn →
    turn.executionId ∈ run.drawn ∧ Standing run.log turn

def PersistLands (run : CouncilRun) : CouncilLabel → Prop
  | .persist transcriptOk reportError => transcriptOk = true ∧
      ((match run.stage with
        | .turning seat _ => seat.role = .report
        | _ => False) → reportError = none)
  | _ => True

theorem Sound.agreement (sound : run.Sound) : Agreement run.log where
  discarded id told event member shown := sound.single id ⟨sound.shows event member id shown, told⟩
  committed := sound.durable
  single := sound.single
  once := sound.once

/-- A step writes files and then makes at most one call.  `next` is sound when the call
is the first execute or the only ACK, a committed ACK comes after its record, and all
that is written or remembered is committed by then. -/
theorem Sound.extend {files : List CouncilEvent} {called : ExecutionId} {call : Option HostCall}
    (sound : run.Sound) (logged : next.log = run.log ++ (files ++ hostEvents called call.toList))
    (local_ : Local files) (known : call.isSome = true → called ∈ next.drawn)
    (first : call = some .execute → ∀ other, .host called other ∉ run.log)
    (only : ∀ disposition finalSeq, call = some (.ack disposition finalSeq) →
      ∀ other, ¬ Told run.log called other)
    (stored : ∀ finalSeq, call = some (.ack .committed finalSeq) → ∃ records,
      transcriptOnDisk (run.log ++ files) = some records ∧ (recordIds records).count called = 1)
    (shows : ∀ event ∈ files, ∀ id ∈ event.ids, Told next.log id .committed)
    (remembers : ∀ id ∈ next.remembered, Told next.log id .committed)
    (apart : (recordIds next.transcript).Nodup) (drawn : run.drawn ⊆ next.drawn)
    (standing : ∀ seat turn, next.stage = .turning seat turn →
      turn.executionId ∈ next.drawn ∧ Standing next.log turn) : next.Sound := by
  have calls : ∀ id other, .host id other ∈ files ++ hostEvents called call.toList →
      id = called ∧ call = some other := by
    intro id other member
    rcases mem_append.mp member with inFiles | inCalls
    · exact absurd inFiles (local_ id other)
    · obtain ⟨sent, among, same⟩ := mem_map.mp inCalls
      cases same
      exact ⟨rfl, Option.mem_toList.mp among⟩
  have tells : ∀ id disposition, Told next.log id disposition →
      Told run.log id disposition ∨ (id = called ∧ ∃ finalSeq, call = some (.ack disposition finalSeq)) := by
    intro id disposition told
    rw [logged, told_append] at told
    rcases told with earlier | ⟨finalSeq, member⟩
    · exact .inl earlier
    · obtain ⟨same, sent⟩ := calls id _ member
      exact .inr ⟨same, finalSeq, sent⟩
  refine ⟨?_, ?_, ?_, remembers, ?_, apart, ?_, standing⟩
  · rw [logged]
    apply sound.durable.append
    intro before id finalSeq after split
    obtain ⟨same, sent⟩ := calls id (.ack .committed finalSeq) (by rw [split]; simp)
    subst same
    have alone : hostEvents id call.toList = [.host id (.ack .committed finalSeq)] := by
      rw [sent]
      rfl
    rw [alone] at split
    rw [← split_last (local_ id _) split]
    exact stored finalSeq sent
  · intro id both
    obtain ⟨committed, discarded⟩ := both
    rcases tells id _ committed with before | ⟨same, finalSeq, sent⟩
    · rcases tells id _ discarded with also | ⟨same, finalSeq, sent⟩
      · exact sound.single id ⟨before, also⟩
      · subst same
        exact only _ finalSeq sent _ before
    · rcases tells id _ discarded with also | ⟨-, otherSeq, otherSent⟩
      · subst same
        exact only _ finalSeq sent _ also
      · rw [sent] at otherSent
        cases otherSent
  · intro id
    have none_ : files.count (.host id .execute) = 0 := count_eq_zero.mpr (local_ id .execute)
    rw [logged, count_append, count_append, none_]
    by_cases executes : id = called ∧ call = some .execute
    · obtain ⟨same, sent⟩ := executes
      subst same
      have new : run.log.count (.host id .execute) = 0 :=
        count_eq_zero.mpr (first sent .execute)
      rw [new, sent]
      simp [hostEvents]
    · have nothing : (hostEvents called call.toList).count (.host id .execute) = 0 := by
        apply count_eq_zero.mpr
        intro member
        exact executes (calls id .execute (mem_append_right _ member))
      rw [nothing]
      exact sound.once id
  · intro event member id shown
    rw [logged] at member
    rcases mem_append.mp member with before | new
    · rw [logged]
      exact (sound.shows event before id shown).grows
    · rcases mem_append.mp new with inFiles | inCalls
      · exact shows event inFiles id shown
      · obtain ⟨sent, -, same⟩ := mem_map.mp inCalls
        subst same
        cases shown
  · intro id other member
    rw [logged] at member
    rcases mem_append.mp member with before | new
    · exact drawn (sound.drawn id other before)
    · obtain ⟨same, sent⟩ := calls id other new
      rw [same]
      exact known (by rw [sent]; rfl)

section

variable {seat : TurnSeat} {turn nextTurn : Turn} {turnLabel : TurnLabel} {evidence : TerminalEvidence}

theorem remembered_turning (run : CouncilRun) (here : run.stage = .turning seat turn) : run.remembered =
    recordIds run.transcript ++ run.completedTurns.map (·.executionId) ++
      (run.reporterOutput.map (·.1)).toList ++ (run.reporterSuccess.map (·.ids)).getD [] := by
  simp [remembered, here]

def afterCall (run : CouncilRun) (seat : TurnSeat) (called : ExecutionId) (call : Option HostCall)
    (nextTurn : Turn) : CouncilRun :=
  (run.append (hostEvents called call.toList)).goto (.turning seat nextTurn)

theorem local_nil : Local [] := fun _ _ member => by cases member

theorem Sound.moved (sound : run.Sound) (here : run.stage = .turning seat turn)
    (stepped : run.turnStep seat turn turnLabel = some next)
    (plain : turnLabel ≠ .persisted none) : next.Sound := by
  obtain ⟨⟨nextTurn, calls⟩, moved, result⟩ := Option.map_eq_some_iff.mp stepped
  subst result
  obtain ⟨known, unsent, opened, claimed⟩ := sound.standing seat turn here
  have remembers (call : Option HostCall) :
      ∀ id ∈ (run.afterCall seat turn.executionId call nextTurn).remembered,
      Told (run.log ++ hostEvents turn.executionId call.toList) id .committed := by
    intro id member
    have before : id ∈ run.remembered := by
      rw [remembered_turning run here]
      rwa [remembered_turning (run.afterCall seat turn.executionId call nextTurn) rfl] at member
    exact (sound.remembers id before).grows
  have stands (call : Option HostCall) (same : nextTurn.executionId = turn.executionId)
      (standing : Standing (run.log ++ hostEvents turn.executionId call.toList) nextTurn) :
      ∀ other later, (run.afterCall seat turn.executionId call nextTurn).stage = .turning other later →
        later.executionId ∈ run.drawn ∧
          Standing (run.log ++ hostEvents turn.executionId call.toList) later := by
    intro other later stage
    cases stage
    rw [same]
    exact ⟨known, standing⟩
  cases Turn.step_sends moved with
  | nothing silent =>
    apply @Sound.extend run (run.afterCall seat turn.executionId none nextTurn) []
      turn.executionId none sound rfl local_nil (by simp) (by simp)
      (by simp) (by simp) (by simp) (remembers none) sound.apart (List.Subset.refl _)
    apply stands none silent.same
    have log : run.log ++ hostEvents turn.executionId (none : Option HostCall).toList = run.log :=
      append_nil _
    rw [log]
    refine ⟨fun still => ?_, fun still => ?_, fun claim => ?_⟩
    · rw [silent.same]
      rcases silent.progress with kept | ended
      · exact unsent (kept ▸ still)
      · rw [ended] at still
        cases still
    · rw [silent.same]
      rcases silent.progress with kept | ended
      · exact opened (kept ▸ still)
      · rw [ended] at still
        cases still
    · rw [silent.same]
      exact claimed (silent.claims claim)
  | execute same before after claims =>
    apply @Sound.extend run (run.afterCall seat turn.executionId (some .execute) nextTurn) []
      turn.executionId (some .execute) sound rfl local_nil
      (fun _ => known) (fun _ => unsent before) (by simp) (by simp) (by simp)
      (remembers (some .execute)) sound.apart (List.Subset.refl _)
    apply stands (some .execute) same
    refine ⟨fun still => ?_, fun _ disposition told => ?_, fun claim => ?_⟩
    · rw [after] at still
      cases still
    · rw [same] at told
      rcases told_append.mp told with ⟨finalSeq, earlier⟩ | ⟨finalSeq, new⟩
      · exact unsent before _ earlier
      · simp [hostEvents] at new
    · rw [claims] at claim
      cases claim
  | cancel same before after claims =>
    apply @Sound.extend run (run.afterCall seat turn.executionId (some .cancel) nextTurn) []
      turn.executionId (some .cancel) sound rfl local_nil
      (fun _ => known) (by simp) (by simp) (by simp) (by simp)
      (remembers (some .cancel)) sound.apart (List.Subset.refl _)
    apply stands (some .cancel) same
    refine ⟨fun still => ?_, fun _ disposition told => ?_, fun claim => ?_⟩
    · rw [after] at still
      cases still
    · rw [same] at told
      rcases told_append.mp told with earlier | ⟨finalSeq, new⟩
      · exact opened before disposition earlier
      · simp [hostEvents] at new
    · rw [claims] at claim
      cases claim
  | ack disposition finalSeq acks =>
    have uncommitted : disposition ≠ .committed := fun same => plain (acks.persisted same)
    apply @Sound.extend run (run.afterCall seat turn.executionId (some (.ack disposition finalSeq)) nextTurn) []
      turn.executionId (some (.ack disposition finalSeq)) sound rfl
      local_nil (fun _ => known) (by simp) (fun _ _ _ => opened acks.before)
      (fun seq sent => by cases sent; exact absurd rfl uncommitted) (by simp)
      (remembers (some (.ack disposition finalSeq))) sound.apart (List.Subset.refl _)
    apply stands (some (.ack disposition finalSeq)) acks.same
    refine ⟨fun still => ?_, fun still => ?_, fun claim => ?_⟩
    · rw [acks.after] at still
      cases still
    · rw [acks.after] at still
      cases still
    · exact absurd (acks.claims claim) uncommitted

structure Landed (run : CouncilRun) (id : ExecutionId) (after : CouncilRun)
    (files : List CouncilEvent) : Prop where
  logged : after.log = run.log ++ .transcript after.transcript :: files
  local_ : Local files
  unwritten : ∀ event ∈ files, event.written = none
  shows : ∀ event ∈ files, ∀ shown ∈ event.ids, shown = id
  records : recordIds after.transcript = recordIds run.transcript ++ [id]
  turns : ∀ turn ∈ after.completedTurns, turn ∈ run.completedTurns ∨ turn.executionId = id
  output : after.reporterOutput = run.reporterOutput
  success : after.reporterSuccess = run.reporterSuccess ∨
    ∃ report, after.reporterSuccess = some report ∧ report.ids = [id]
  drawn : after.drawn = run.drawn

variable {reportError : Option TurnError}

theorem persist_lands (id : ExecutionId)
    (reported : seat.role = .report → reportError = none) :
    ∃ after files, run.persist seat id evidence true reportError = (after, none) ∧
      Landed run id after files := by
  have records : ∀ record : TurnCompletedRecord, record.executionId = id →
      recordIds (run.transcript ++ [.completed record]) = recordIds run.transcript ++ [id] := by
    intro record same
    simp [recordIds, same]
  cases role : seat.role with
  | message =>
    refine ⟨(run.remember seat id evidence).rewriteTranscript true, [], ?_, ?_⟩
    · simp [persist, role]
    · refine ⟨rfl, local_nil, by simp, by simp, records _ rfl, ?_, rfl, .inl rfl, rfl⟩
      intro turn member
      simp only [rewriteTranscript, remember, append, role, if_true, mem_append, mem_singleton] at member
      rcases member with before | new
      · exact .inl before
      · rw [new]
        exact .inr rfl
  | report =>
    have fine := reported role
    subst fine
    have shows : (Report.success (some (id, evidence.output))).ids = [id] := rfl
    refine ⟨{ ((run.remember seat id evidence).rewriteTranscript true).append
      [.report (.success (some (id, evidence.output)))] with
        reporterSuccess := some (.success (some (id, evidence.output))) },
      [.report (.success (some (id, evidence.output)))], ?_, ?_⟩
    · simp [persist, role]
    · refine ⟨?_, ?_, ?_, ?_, records _ rfl, ?_, rfl, .inr ⟨_, rfl, rfl⟩, rfl⟩
      · simp [rewriteTranscript, append, remember]
      · intro other call member
        simp at member
      · intro event member
        rw [mem_singleton.mp member]
        rfl
      · intro event member shown among
        rw [mem_singleton.mp member] at among
        exact mem_singleton.mp among
      · intro turn member
        simp only [rewriteTranscript, remember, append, role, if_true, append_nil] at member
        exact .inl member

theorem Sound.persisted (sound : run.Sound)
    (here : run.stage = .turning seat turn) (waiting : turn.phase = .persisting evidence)
    (reported : seat.role = .report → reportError = none)
    (stepped : (run.persist seat turn.executionId evidence true reportError).1.turnStep seat turn
      (.persisted (run.persist seat turn.executionId evidence true reportError).2) = some next) :
    next.Sound := by
  obtain ⟨after, files, outcome, landed⟩ : ∃ after files,
      run.persist seat turn.executionId evidence true reportError = (after, none) ∧
        Landed run turn.executionId after files := persist_lands turn.executionId reported
  obtain ⟨known, -, opened, -⟩ := sound.standing seat turn here
  have untold := opened (by rw [waiting]; rfl)
  have moved : turn.step (.persisted none) =
      some (turn.sendAck .committed evidence.finalSeq .completed (some evidence) none) := by
    unfold Turn.step
    rw [waiting]
  rw [outcome, turnStep, moved] at stepped
  let call : HostCall := .ack .committed (max 1 evidence.finalSeq)
  have result : next = after.afterCall seat turn.executionId (some call)
      (turn.goto (.acking .completed (some evidence) none)) := (Option.some.inj stepped).symm
  have log : next.log = run.log ++ (.transcript after.transcript :: files ++
      hostEvents turn.executionId (some call).toList) := by
    rw [result]
    change after.log ++ _ = _
    rw [landed.logged, append_assoc]
  have told : Told next.log turn.executionId .committed := by
    exists max 1 evidence.finalSeq
    rw [log]
    simp [hostEvents, call]
  have old : ∀ id ∈ run.remembered, Told next.log id .committed := by
    intro id member
    rw [log]
    exact (sound.remembers id member).grows
  have fromRecords : ∀ id ∈ recordIds after.transcript, Told next.log id .committed := by
    intro id member
    rw [landed.records, mem_append, mem_singleton] at member
    rcases member with before | same
    · exact old id (by simp [remembered, before])
    · rw [same]
      exact told
  have absent : turn.executionId ∉ recordIds run.transcript := fun member =>
    untold .committed (sound.remembers _ (by simp [remembered, member]))
  have apart : (recordIds after.transcript).Nodup := by
    rw [landed.records]
    simpa using sound.apart.concat absent
  have localFiles : Local (.transcript after.transcript :: files) := by
    intro id other member
    rcases mem_cons.mp member with same | later
    · cases same
    · exact landed.local_ id other later
  apply sound.extend log localFiles
  · intro _
    rw [result]
    change turn.executionId ∈ after.drawn
    rwa [landed.drawn]
  · simp [call]
  · exact fun _ _ _ => untold
  · intro _ _
    refine ⟨after.transcript, transcriptOnDisk_written _ landed.unwritten, ?_⟩
    rw [landed.records, count_append, count_eq_zero.mpr absent]
    simp
  · intro event member id shown
    rcases mem_cons.mp member with same | later
    · rw [same] at shown
      exact fromRecords id shown
    · rw [landed.shows event later id shown]
      exact told
  · intro id member
    rw [result, remembered_turning _ rfl] at member
    simp only [afterCall, goto, append, mem_append, mem_map] at member
    rcases member with ((inRecords | ⟨kept, among, same⟩) | inOutput) | inSuccess
    · exact fromRecords id inRecords
    · rcases landed.turns kept among with before | new
      · exact old id (by simp [remembered]; exact .inr (.inl ⟨kept, before, same⟩))
      · rw [← same, new]
        exact told
    · rw [landed.output] at inOutput
      exact old id (by simp only [remembered, mem_append]; exact .inl (.inl (.inr inOutput)))
    · rcases landed.success with same | ⟨report, is, ids⟩
      · rw [same] at inSuccess
        exact old id (by simp only [remembered, mem_append]; exact .inl (.inr inSuccess))
      · rw [is] at inSuccess
        change id ∈ report.ids at inSuccess
        rw [ids, mem_singleton] at inSuccess
        rw [inSuccess]
        exact told
  · rw [result]
    exact apart
  · rw [result]
    change run.drawn ⊆ after.drawn
    rw [landed.drawn]
    exact List.Subset.refl _
  · intro other later stage
    rw [result] at stage ⊢
    cases stage
    have still : turn.executionId ∈ after.drawn := by rwa [landed.drawn]
    refine ⟨still, ?_, ?_, fun _ => ?_⟩
    · intro unsent
      cases unsent
    · intro opened
      cases opened
    · rw [result] at told
      exact told

end

/-- Local writes of what is committed, with no new turn in memory. -/
structure Calm (committed : ExecutionId → Prop) (run next : CouncilRun) : Prop where
  logged : ∃ files, next.log = run.log ++ files ∧ Local files ∧
    ∀ event ∈ files, ∀ id ∈ event.ids, committed id
  records : recordIds next.transcript = recordIds run.transcript
  turns : next.completedTurns = run.completedTurns
  output : next.reporterOutput = run.reporterOutput ∨
    ∀ id ∈ (next.reporterOutput.map (·.1)).toList, committed id
  success : next.reporterSuccess = run.reporterSuccess
  drawn : next.drawn = run.drawn

section

variable {committed : ExecutionId → Prop} {middle : CouncilRun}

theorem Calm.trans (first : Calm committed run middle) (second : Calm committed middle next) :
    Calm committed run next := by
  obtain ⟨files, logged, local_, shows⟩ := first.logged
  obtain ⟨more, moreLogged, moreLocal, moreShows⟩ := second.logged
  refine ⟨⟨files ++ more, ?_, ?_, ?_⟩, second.records.trans first.records,
    second.turns.trans first.turns, ?_, second.success.trans first.success,
    second.drawn.trans first.drawn⟩
  · rw [moreLogged, logged, append_assoc]
  · intro id call member
    rcases mem_append.mp member with early | late
    · exact local_ id call early
    · exact moreLocal id call late
  · intro event member
    rcases mem_append.mp member with early | late
    · exact shows event early
    · exact moreShows event late
  · rcases second.output with same | all
    · rw [same]
      exact first.output
    · exact .inr all

theorem Calm.flags (log : next.log = run.log) (transcript : next.transcript = run.transcript)
    (turns : next.completedTurns = run.completedTurns)
    (output : next.reporterOutput = run.reporterOutput)
    (success : next.reporterSuccess = run.reporterSuccess) (drawn : next.drawn = run.drawn) :
    Calm committed run next :=
  ⟨⟨[], by rw [log, append_nil], local_nil, by simp⟩, by rw [transcript], turns, .inl output,
    success, drawn⟩

theorem Calm.write (event : CouncilEvent) (local_ : ∀ id call, .host id call ≠ event)
    (shows : ∀ id ∈ event.ids, committed id) : Calm committed run (run.append [event]) := by
  refine ⟨⟨[event], rfl, ?_, ?_⟩, rfl, rfl, .inl rfl, rfl, rfl⟩
  · intro id call member
    exact local_ id call (mem_singleton.mp member)
  · intro other member
    rw [mem_singleton.mp member]
    exact shows

variable {ok : Bool}

theorem rewriteTranscript_calm (known : ∀ id ∈ recordIds run.transcript, committed id) :
    Calm committed run (run.rewriteTranscript ok) := by
  unfold rewriteTranscript
  split
  · exact .write _ (by simp) known
  · exact .flags rfl rfl rfl rfl rfl rfl

theorem stop_calm {status : RunStatus} {failure : TurnError} :
    Calm committed run (run.stop status failure) := .flags rfl rfl rfl rfl rfl rfl

theorem recordIds_patchLast (id : ExecutionId) (durationMs : Nat) (records : List TranscriptRecord) :
    recordIds (patchLast id durationMs records) = recordIds records := by
  induction records with
  | nil => rfl
  | cons record rest ih =>
    have first : recordIds (patchRecord id durationMs record :: rest) = recordIds (record :: rest) := by
      cases record with
      | completed turn =>
        simp only [recordIds, patchRecord, filterMap_cons]
        split <;> rfl
      | started | finished => rfl
    rw [patchLast]
    split
    · cases record with
      | completed turn =>
        change turn.executionId :: recordIds _ = turn.executionId :: recordIds _
        rw [ih]
      | started | finished => exact ih
    · exact first

theorem patch_calm {durationMs : Nat} (known : ∀ id ∈ recordIds run.transcript, committed id) :
    Calm committed run (run.patchLastTurnDuration id durationMs ok) := by
  unfold patchLastTurnDuration
  split
  · have patched : Calm committed run { run with transcript := patchLast id durationMs run.transcript } :=
      ⟨⟨[], (append_nil _).symm, local_nil, by simp⟩, recordIds_patchLast _ _ _, rfl, .inl rfl,
        rfl, rfl⟩
    apply patched.trans
    apply rewriteTranscript_calm
    intro other member
    exact known other (by rwa [recordIds_patchLast] at member)
  · exact .flags rfl rfl rfl rfl rfl rfl

theorem Sound.calm (sound : run.Sound) (calm : Calm (Told run.log · .committed) run next)
    (between : ∀ seat turn, next.stage ≠ .turning seat turn)
    (copying : ∀ content, next.stage = .copying content → ∀ id ∈ content.ids,
      Told run.log id .committed) : next.Sound := by
  obtain ⟨files, logged, local_, shows⟩ := calm.logged
  have whole : next.log = run.log ++ (files ++ hostEvents [] (none : Option HostCall).toList) := by
    rw [logged]
    simp [hostEvents]
  have grows : ∀ id, Told run.log id .committed → Told next.log id .committed := by
    intro id told
    rw [logged]
    exact told.grows
  apply sound.extend whole local_ (by simp) (by simp) (by simp) (by simp)
  · exact fun event member id shown => grows id (shows event member id shown)
  · intro id member
    apply grows
    simp only [remembered, mem_append, calm.records, calm.turns, calm.success] at member
    rcases member with (((inRecords | inTurns) | inOutput) | inSuccess) | inStage
    · exact sound.remembers id (by simp only [remembered, mem_append]; tauto)
    · exact sound.remembers id (by simp only [remembered, mem_append]; tauto)
    · rcases calm.output with same | all
      · rw [same] at inOutput
        exact sound.remembers id (by simp only [remembered, mem_append]; tauto)
      · exact all id inOutput
    · exact sound.remembers id (by simp only [remembered, mem_append]; tauto)
    · cases stage : next.stage with
      | copying content =>
        rw [stage] at inStage
        exact copying content stage id inStage
      | _ => rw [stage] at inStage; cases inStage
  · rw [calm.records]
    exact sound.apart
  · rw [calm.drawn]
    exact List.Subset.refl _
  · exact fun seat turn stage => absurd stage (between seat turn)

def Quiet (stage : Stage) : Prop :=
  (∀ seat turn, stage ≠ .turning seat turn) ∧ ∀ content, stage ≠ .copying content

theorem Sound.quiet (sound : run.Sound) (calm : Calm (Told run.log · .committed) run next)
    (quiet : Quiet next.stage) : next.Sound :=
  sound.calm calm quiet.1 fun content stage => absurd stage (quiet.2 content)

theorem quiet_closing : Quiet .closing := ⟨by simp, by simp⟩

theorem Calm.goto {stage : Stage} (calm : Calm committed run middle) :
    Calm committed run (middle.goto stage) :=
  calm.trans (.flags rfl rfl rfl rfl rfl rfl)

theorem Calm.stop {status : RunStatus} {failure : TurnError} (calm : Calm committed run middle) :
    Calm committed run (middle.stop status failure) := calm.trans stop_calm

section

variable (sound : run.Sound)

include sound

theorem Sound.raised (error : TurnError) : (run.raised error).Sound := by
  unfold CouncilRun.raised
  split
  · exact sound.quiet stop_calm quiet_closing
  · exact sound.quiet stop_calm quiet_closing

theorem Sound.records : ∀ id ∈ recordIds run.transcript, Told run.log id .committed := by
  intro id member
  apply sound.remembers
  simp [remembered, member]

theorem Sound.begun (seat : TurnSeat) (new : id ∉ run.drawn) : (run.beginTurn seat id).Sound := by
  have log : (run.beginTurn seat id).log =
      run.log ++ ([] ++ hostEvents [] (none : Option HostCall).toList) := (append_nil _).symm
  apply sound.extend log local_nil (by simp) (by simp) (by simp) (by simp) (by simp)
  · intro other member
    apply sound.remembers
    rw [remembered_turning _ rfl] at member
    simp only [remembered, mem_append] at member ⊢
    exact .inl member
  · exact sound.apart
  · exact subset_cons_self id run.drawn
  · intro other later stage
    cases stage
    refine ⟨mem_cons_self, ?_, ?_, ?_⟩
    · exact fun _ call member => new (sound.drawn id call member)
    · intro opened
      cases opened
    · intro claims
      cases claims

theorem Sound.settled {seat : TurnSeat} {turn : Turn} {result : TurnResult}
    (here : run.stage = .turning seat turn) (ended : turn.phase = .finished result)
    (durationMs : Nat) (ok : Bool) :
    (run.settleTurn seat turn.executionId result durationMs ok).Sound := by
  obtain ⟨-, -, -, claimed⟩ := sound.standing seat turn here
  unfold settleTurn
  split
  · rename_i evidence completed _
    have told : Told run.log turn.executionId .committed :=
      claimed (by rw [ended]; simp [TurnPhase.claimsCompleted, completed])
    have patched : Calm (Told run.log · .committed) run
        (run.patchLastTurnDuration turn.executionId durationMs ok) := patch_calm sound.records
    split
    · generalize nextPosition run.input seat = position
      obtain ⟨round, turnIndex⟩ := position
      simp only
      split
      · exact sound.quiet patched.goto ⟨by simp [goto], by simp [goto]⟩
      · exact sound.quiet patched.stop quiet_closing
    · have kept : Calm (Told run.log · .committed) run
          { run.patchLastTurnDuration turn.executionId durationMs ok with
            reporterOutput := some (turn.executionId, evidence.output) } := by
        apply patched.trans
        refine ⟨⟨[], (append_nil _).symm, local_nil, by simp⟩, rfl, rfl, .inr ?_, rfl, rfl⟩
        intro id member
        have same : id = turn.executionId := by simpa using member
        rw [same]
        exact told
      split
      · exact sound.quiet kept.goto quiet_closing
      · exact sound.quiet kept.stop quiet_closing
  · unfold stopAfter
    split
    · exact sound.quiet stop_calm quiet_closing
    · exact sound.quiet stop_calm quiet_closing

end

theorem afterClose_calm (run : CouncilRun) (ok : Bool) : Calm committed run (run.afterClose ok) ∧
    (run.afterClose ok).stage = .reporting := by
  simp only [afterClose]
  split
  · exact ⟨.flags rfl rfl rfl rfl rfl rfl, rfl⟩
  · split
    · split <;> exact ⟨.flags rfl rfl rfl rfl rfl rfl, rfl⟩
    · exact ⟨.flags rfl rfl rfl rfl rfl rfl, rfl⟩

theorem Report.partial_remembered (run : CouncilRun) :
    ∀ id ∈ (Report.partial_ run.completedTurns).ids, id ∈ run.remembered := by
  intro id member
  simp only [remembered, mem_append]
  exact .inl (.inl (.inl (.inr member)))

theorem finalReport_remembered (run : CouncilRun) : ∀ id ∈ run.finalReport.1.ids, id ∈ run.remembered := by
  intro id member
  unfold finalReport at member
  split at member
  · split at member
    · rename_i kept
      simp only [remembered, mem_append, kept]
      exact .inl (.inl (.inr member))
    · rename_i kept _
      simp only [remembered, mem_append, kept]
      exact .inl (.inr member)
    · simp only [remembered, mem_append]
      exact .inl (.inl (.inr member))
  · exact Report.partial_remembered run id member

theorem Sound.reported (sound : run.Sound) (ok : Bool) : (run.afterReport ok).Sound := by
  have renders : ∀ id ∈ run.finalReport.1.ids, Told run.log id .committed :=
    fun id member => sound.remembers id (finalReport_remembered run id member)
  cases ok with
  | true =>
    have written : Calm (Told run.log · .committed) run
        (if run.finalReport.2 then run.append [.report run.finalReport.1] else run) := by
      split
      · exact .write _ (by simp) renders
      · exact .flags rfl rfl rfl rfl rfl rfl
    have whole : Calm (Told run.log · .committed) run (run.afterReport true) :=
      written.trans (.flags rfl rfl rfl rfl rfl rfl)
    have stage : (run.afterReport true).stage =
        if run.input.outPath then .copying run.finalReport.1 else .finishing := by
      cases writes : run.finalReport.2 <;> simp [afterReport, goto, writes, append]
    apply sound.calm whole
    · intro seat turn
      rw [stage]
      split <;> simp
    · intro content copying
      rw [stage] at copying
      split at copying
      · cases copying
        exact renders
      · cases copying
  | false =>
    have whole : Calm (Told run.log · .committed) run (run.afterReport false) :=
      .flags rfl rfl rfl rfl rfl rfl
    exact sound.quiet whole ⟨by simp [afterReport, goto], by simp [afterReport, goto]⟩

theorem Sound.copied {content : Report} (sound : run.Sound) (here : run.stage = .copying content)
    (ok : Bool) : (run.afterCopy content ok).Sound := by
  have renders : ∀ id ∈ content.ids, Told run.log id .committed := by
    intro id member
    apply sound.remembers
    simp only [remembered, mem_append, here]
    exact .inr member
  unfold afterCopy
  split
  · have written : Calm (Told run.log · .committed) run (run.append [.copy content]) :=
      .write _ (by simp) renders
    exact sound.quiet written.goto ⟨by simp [goto], by simp [goto]⟩
  · exact sound.quiet (.flags rfl rfl rfl rfl rfl rfl) ⟨by simp, by simp⟩

theorem extended_calm {record : TranscriptRecord} (plain : recordIds [record] = [])
    (known : ∀ id ∈ recordIds run.transcript, committed id) :
    Calm committed run (rewriteTranscript { run with transcript := run.transcript ++ [record] } ok) := by
  have same : recordIds (run.transcript ++ [record]) = recordIds run.transcript := by
    have parts : recordIds (run.transcript ++ [record]) =
        recordIds run.transcript ++ recordIds [record] := filterMap_append
    rw [parts, plain, append_nil]
  have extended : Calm committed run { run with transcript := run.transcript ++ [record] } :=
    ⟨⟨[], (append_nil _).symm, local_nil, by simp⟩, same, rfl, .inl rfl, rfl, rfl⟩
  apply extended.trans
  apply rewriteTranscript_calm
  intro id member
  exact known id (by rwa [same] at member)

variable (sound : run.Sound)

include sound

theorem Sound.finished (ok : Bool) : (run.afterFinish ok).Sound := by
  unfold afterFinish
  have written : Calm (Told run.log · .committed) run (rewriteTranscript { run with
      transcript := run.transcript ++
        [TranscriptRecord.finished run.status run.failure (run.status ≠ RunStatus.completed)] } ok) :=
    extended_calm rfl sound.records
  apply sound.quiet
  · apply Calm.goto
    split
    · exact written
    · exact written.trans (.flags rfl rfl rfl rfl rfl rfl)
  · exact ⟨by simp [goto], by simp [goto]⟩

theorem Sound.reconciled (ok : Bool) : (run.afterReconcile ok).Sound := by
  have renders : ∀ id ∈ (Report.partial_ run.completedTurns).ids, Told run.log id .committed :=
    fun id member => sound.remembers id (Report.partial_remembered run id member)
  have written : Calm (Told run.log · .committed) run
      (if (run.status ≠ .completed ∧ run.canonicalIsSuccess = true) ∧ ok = true then
        run.append [.report (.partial_ run.completedTurns)] else run) := by
    split
    · exact .write _ (by simp) renders
    · exact .flags rfl rfl rfl rfl rfl rfl
  have whole : Calm (Told run.log · .committed) run (run.afterReconcile ok) :=
    written.trans (.flags rfl rfl rfl rfl rfl rfl)
  exact sound.quiet whole ⟨by simp [afterReconcile], by simp [afterReconcile]⟩

theorem Sound.aborted : Sound { run with aborted := true } :=
  ⟨sound.durable, sound.single, sound.once, sound.remembers, sound.shows, sound.apart,
    sound.drawn, sound.standing⟩

theorem Sound.step (lands : run.PersistLands label) (stepped : run.step label = some next) :
    next.Sound := by
  unfold CouncilRun.step at stepped
  split at stepped
  case h_1 seat turn here =>
    have moved := sound.aborted
    cases turned : turnStep { run with aborted := true } seat turn (.abort .external) with
    | none =>
      simp only [turned, Option.getD_none, Option.some.injEq] at stepped
      rwa [← stepped]
    | some after =>
      simp only [turned, Option.getD_some, Option.some.injEq] at stepped
      rw [← stepped]
      exact moved.moved here turned (by simp)
  case h_2 => cases stepped
  case h_3 =>
    cases stepped
    exact sound.aborted
  case h_4 ok _ =>
    cases stepped
    have begun : Calm (Told run.log · .committed) run (rewriteTranscript
        { run with transcript := run.transcript ++ [TranscriptRecord.started] } ok) :=
      extended_calm rfl sound.records
    split
    · exact sound.quiet begun.goto ⟨by simp [goto], by simp [goto]⟩
    · exact sound.quiet begun.stop quiet_closing
  case h_5 | h_6 =>
    cases stepped
    exact sound.raised _
  case h_7 =>
    cases stepped
    split
    · exact sound.quiet (.flags rfl rfl rfl rfl rfl rfl) quiet_closing
    · split
      · exact sound.quiet (.flags rfl rfl rfl rfl rfl rfl) ⟨by simp [goto], by simp [goto]⟩
      · exact sound.quiet (.flags rfl rfl rfl rfl rfl rfl) quiet_closing
  case h_8 =>
    split at stepped
    · cases stepped
      exact sound.quiet stop_calm quiet_closing
    · cases stepped
  case h_9 =>
    split at stepped
    · cases stepped
    · rename_i fresh
      obtain ⟨seat, -, result⟩ := Option.map_eq_some_iff.mp stepped
      rw [← result]
      exact sound.begun seat fun member => fresh (.inr member)
  case h_10 seat turn turnLabel here =>
    split at stepped
    · cases stepped
    · rename_i remote
      apply sound.moved here stepped
      intro same
      rw [same] at remote
      exact remote rfl
  case h_11 seat turn transcriptOk reportError here =>
    split at stepped
    · rename_i evidence waiting
      obtain ⟨landed, reported⟩ := lands
      rw [landed] at stepped
      apply sound.persisted here waiting _ stepped
      intro role
      apply reported
      rw [here]
      exact role
    · cases stepped
  case h_12 seat turn durationMs ok here =>
    split at stepped
    · rename_i result ended
      cases stepped
      exact sound.settled here ended durationMs ok
    · cases stepped
  case h_13 =>
    split at stepped
    · cases stepped
      exact sound.raised _
    · cases stepped
  case h_14 ok _ =>
    cases stepped
    obtain ⟨calm, stage⟩ := afterClose_calm run ok
    apply sound.quiet calm
    rw [stage]
    exact ⟨by simp, by simp⟩
  case h_15 ok _ =>
    cases stepped
    exact sound.reported ok
  case h_16 content ok here =>
    cases stepped
    exact sound.copied here ok
  case h_17 ok _ =>
    cases stepped
    exact sound.finished ok
  case h_18 ok _ =>
    cases stepped
    exact sound.reconciled ok
  case h_19 => cases stepped

end

theorem sound_initial (input : RunInput) : Sound { input } where
  durable before id finalSeq after split := by simp at split
  single id both := by
    obtain ⟨⟨finalSeq, member⟩, -⟩ := both
    cases member
  once id := Nat.zero_le 1
  remembers id member := by cases member
  shows event member := by cases member
  apart := nodup_nil
  drawn id call member := by cases member
  standing seat turn stage := by cases stage

theorem host_disk_agree {labels : List CouncilLabel} {final : CouncilRun} (input : RunInput)
    (ran : Run CouncilRun.step PersistLands { input } labels final) : Agreement final.log :=
  (ran.invariant (fun sound lands stepped => Sound.step sound lands stepped)
    (sound_initial input)).agreement

instance (run : CouncilRun) (label : CouncilLabel) : Decidable (run.PersistLands label) :=
  match label with
  | .persist transcriptOk reportError =>
    match stage : run.stage with
    | .turning seat _ =>
      decidable_of_iff (transcriptOk = true ∧ (seat.role = .report → reportError = none))
        (by simp only [PersistLands, stage])
    | .starting | .scoping | .between .. | .closing | .reporting | .copying _ | .finishing
    | .reconciling | .done =>
      decidable_of_iff (transcriptOk = true) (by simp [PersistLands, stage])
  | .abort | .raise _ | .started _ | .scoped .. | .begin_ _ | .interrupt | .turn _ | .settle ..
  | .closed _ | .reported _ | .copied _ | .finished _ | .reconciled _ => .isTrue trivial

def soloInput : RunInput where
  agents := [js "ada"]
  reporter := js "ada"
  rounds := 1
  limitCode := js "LIMIT"
  outPath := false
  filled := by simp
  distinct := by simp
  member := by simp
  positive := Nat.le_refl 1

def answered (executionId output : JsString) : List CouncilLabel :=
  [.begin_ executionId, .turn (.connected true), .turn (.executed none),
    .turn (.followed (.terminal (.completed ⟨output, 4⟩)))]

def landedRun : List CouncilLabel :=
  [.started true, .scoped true none] ++ answered (js "e1") (js "yes") ++
    [.persist true none, .turn (.acked .acknowledged), .settle 20 true] ++
    answered (js "e2") (js "report") ++
    [.persist true none, .turn (.acked .acknowledged), .settle 30 true, .closed true,
      .reported true, .finished true, .reconciled true]

theorem host_disk_agree_landed : ∃ final,
    execute (guarded CouncilRun.step PersistLands) { input := soloInput } landedRun = some final ∧
      Told final.log (js "e2") .committed ∧ Agreement final.log := by
  have known : (execute (guarded CouncilRun.step PersistLands) { input := soloInput }
      landedRun).any (fun run => decide (.host (js "e2") (.ack .committed 4) ∈ run.log)) = true := by
    decide +kernel
  obtain ⟨final, ended, told⟩ := (Option.any_eq_true _ _).mp known
  exact ⟨final, ended, ⟨4, of_decide_eq_true told⟩, host_disk_agree soloInput (execute_guarded ended)⟩

def failedWriteRun : List CouncilLabel :=
  [.started true, .scoped true none] ++ answered (js "e1") (js "yes") ++
    [.persist false none, .turn (.acked .acknowledged), .settle 20 true, .closed true,
      .reported true, .finished true, .reconciled true]

def keptTurn : CompletedTurn := ⟨js "ada", js "e1", js "yes", 1, 0⟩

def keptRecord : TurnCompletedRecord := ⟨0, 1, 0, .message, js "ada", js "e1", js "yes", 0⟩

theorem discarded_on_disk : ∃ final,
    Run CouncilRun.step anyStep { input := soloInput } failedWriteRun final ∧
      Told final.log (js "e1") .discarded ∧
      transcriptOnDisk final.log = some
        [.started, .completed keptRecord, .finished .failed (some TRANSCRIPT_IO) true] ∧
      .report (.partial_ [keptTurn]) ∈ final.log ∧ ¬ Agreement final.log := by
  have logged : (execute CouncilRun.step { input := soloInput } failedWriteRun).map (·.log) = some
      [.transcript [.started], .host (js "e1") .execute, .host (js "e1") (.ack .discarded 4),
        .report (.partial_ [keptTurn]),
        .transcript [.started, .completed keptRecord, .finished .failed (some TRANSCRIPT_IO) true]] := by
    decide +kernel
  obtain ⟨final, ended, log⟩ := Option.map_eq_some_iff.mp logged
  have told : Told final.log (js "e1") .discarded := ⟨4, by simp [log]⟩
  refine ⟨final, execute_run ended (fun _ _ _ => trivial), told, ?_, by simp [log], ?_⟩
  · rw [log]
    rfl
  · intro agreement
    apply agreement.discarded (js "e1") told (.report (.partial_ [keptTurn]))
    · simp [log]
    · exact mem_singleton.mpr rfl

end CouncilRun

end CouncilKit.Council
