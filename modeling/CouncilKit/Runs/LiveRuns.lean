import CouncilKit.Runs.RunStatus

namespace CouncilKit.Runs

open Data JsString List LiveScan

section Live

variable {Result : Type*} {summarizeSeatOutput : Option JsString → Result}

/-- A started run whose end, as far as it was read, is `ending`. -/
structure Follows (scan : LiveScan Result) (run : StartedRun) (ending : Option RunEnd) : Prop where
  started : scan.started = some run
  sawFinished : scan.sawFinished = ending.isSome
  runStatus : ∀ told, ending = some told → scan.runStatus = told.status

variable {scan : LiveScan Result} {run : StartedRun} {ending : Option RunEnd} {updatedAt : Option JsString}

theorem Follows.status (follows : Follows scan run ending) :
    (scan.liveState run updatedAt).status = (ending.map RunEnd.status).getD .running := by
  have told : (scan.liveState run updatedAt).status =
      if scan.sawFinished then scan.runStatus else .running := rfl
  rw [told, follows.sawFinished]
  cases ending with
  | none => rfl
  | some ending => exact follows.runStatus ending rfl

theorem Follows.started_row (run : StartedRun) :
    Follows (note ({} : LiveScan Result) (.started run)) run none :=
  ⟨rfl, rfl, nofun⟩

theorem Follows.attempt (follows : Follows scan run ending) (attemptId : JsString)
    (seat : SeatEnd Result) (willRetry : Bool) :
    Follows (scan.note (.attempt attemptId seat willRetry)) run ending :=
  ⟨follows.started, follows.sawFinished, follows.runStatus⟩

theorem finished_attempt (attemptId : JsString) (seat : SeatEnd Result) (willRetry : Bool) :
    (scan.note (.attempt attemptId seat willRetry)).finished =
      Function.update scan.finished attemptId (some { toSeatEnd := seat, willRetry }) := rfl

section

variable (follows : Follows scan run ending)

include follows

theorem Follows.aggregation (seat : SeatEnd Result) :
    Follows (scan.note (.aggregation seat)) run ending :=
  ⟨follows.started, follows.sawFinished, follows.runStatus⟩

theorem Follows.stage (stage : IdeateStage) : Follows (scan.note (.stage stage)) run ending :=
  ⟨follows.started, follows.sawFinished, follows.runStatus⟩

theorem Follows.resumed (rerun : List JsString) :
    Follows (scan.note (.resumed rerun)) run none := ⟨follows.started, rfl, nofun⟩

theorem Follows.finished (told : RunEnd) :
    Follows (scan.note (.finished (some told))) run (some told) := by
  refine ⟨follows.started, rfl, fun other same => ?_⟩
  cases same
  rfl

end

variable {seat : SeatMeta}

theorem live_ne_running (status : FinishedStatus) : status.live ≠ .running := by
  cases status <;> nofun

section

variable (saw : scan.sawFinished = true)

include saw

theorem status_attemptRow :
    (scan.attemptRow seat).status = ((scan.finished seat.attemptId).map (·.status.live)).getD .queued := by
  have closed : ((scan.finished seat.attemptId).any (·.willRetry) && !scan.sawFinished) = false := by
    rw [saw, Bool.not_true, Bool.and_false]
  simp only [attemptRow, closed, Bool.false_eq_true, if_false]

theorem attemptRow_ne_running : (scan.attemptRow seat).status ≠ .running := by
  rw [status_attemptRow saw]
  cases scan.finished seat.attemptId with
  | none => nofun
  | some ending => exact live_ne_running ending.status

theorem isTerminal_attemptRow :
    (scan.attemptRow seat).isTerminal = (scan.finished seat.attemptId).isSome := by
  rw [CliRunAttemptProgress.isTerminal, status_attemptRow saw]
  cases scan.finished seat.attemptId with
  | none => rfl
  | some ending => cases status : ending.status <;> simp [status, FinishedStatus.live]

theorem success_attemptRow : (scan.attemptRow seat).status = .success ↔
      (scan.finished seat.attemptId).any (·.status = .success) = true := by
  rw [status_attemptRow saw]
  cases scan.finished seat.attemptId with
  | none => exact iff_of_false nofun nofun
  | some ending => cases status : ending.status <;> simp [status, FinishedStatus.live]

end

/-- An ended run shows the phase `done` and no running seat. -/
def CliRunLiveState.Quiet (live : CliRunLiveState Result) : Prop :=
  live.progress.phase = .done ∧ ∀ row ∈ live.progress.attempts, row.status ≠ .running

theorem quiet_iff (saw : scan.sawFinished = true) :
    (scan.liveState run updatedAt).Quiet ↔
      (scan.view run (run.attempts.map scan.attemptRow)).phase = .done ∧
        (scan.view run (run.attempts.map scan.attemptRow)).status ≠ .running := by
  refine and_congr_right fun _ => ⟨fun rows => ?_, fun aggregator row member => ?_⟩
  · exact rows _ (mem_append_right _ (mem_singleton_self _))
  · obtain attempt | last := mem_append.mp member
    · obtain ⟨seat, _, same⟩ := mem_map.mp attempt
      exact same ▸ attemptRow_ne_running saw
    · rw [mem_singleton.mp last]
      exact aggregator

theorem quiet_aggregated {seat : SeatEnd Result} (saw : scan.sawFinished = true) :
    (scan.aggregated seat).phase = .done ∧ (scan.aggregated seat).status ≠ .running :=
  ⟨if_pos saw, live_ne_running seat.status⟩

def ReviewRecord.standing (records : List ReviewRecord) : Option RunEnd :=
  records.foldl (fun ending record => match record with
    | .resumed _ => none
    | .finished record => some record.status
    | _ => ending) none

theorem follows_review {records : List ReviewRecord} (follows : Follows scan run none) :
    Follows (((records.map fun record => objectOf record.fields).map
      (readLiveRow summarizeSeatOutput)).foldl note scan) run (ReviewRecord.standing records) := by
  induction records using List.reverseRecOn with
  | nil => exact follows
  | append_singleton front record ih =>
    rw [map_append, map_append, foldl_append, ReviewRecord.standing, foldl_append]
    rw [ReviewRecord.standing] at ih
    simp only [map_cons, map_nil, foldl_cons, foldl_nil]
    cases record with
    | resumed record =>
      rw [ReviewRecord.fields, record.readLiveRow]
      exact ih.resumed record.rerunAttemptIds
    | attempt record =>
      rw [ReviewRecord.fields, record.readLiveRow]
      exact ih.attempt _ _ _
    | aggregation record =>
      rw [ReviewRecord.fields, record.readLiveRow]
      exact ih.aggregation _
    | finished record =>
      rw [ReviewRecord.fields, record.readLiveRow]
      exact ih.finished record.status

theorem quiet_review (saw : scan.sawFinished = true) (review : run.ideate = false) :
    (scan.liveState run updatedAt).Quiet := by
  apply (quiet_iff saw).mpr
  rw [view, review, if_neg Bool.false_ne_true, reviewView]
  cases aggregation : scan.aggregation with
  | some seat => exact quiet_aggregated saw
  | none =>
    rw [saw, Bool.not_true, Bool.and_false, if_neg Bool.false_ne_true]
    exact ⟨rfl, nofun⟩

def EndsAgain (records : List ReviewRecord) : Prop :=
  ∀ front record back, records = front ++ .resumed record :: back →
    (∃ ended, .finished ended ∈ front) → ∃ ended, .finished ended ∈ back

variable {told : RunEnd}

theorem ending_some {record : ReviewRecord} (ending : record.ending = some told) :
    ∃ ended, record = .finished ended ∧ ended.status = told := by
  cases record with
  | finished ended => exact ⟨ended, rfl, Option.some.inj ending⟩
  | resumed => cases ending
  | attempt => cases ending
  | aggregation => cases ending

theorem standing_append (front : List ReviewRecord) (record : ReviewRecord) :
    ReviewRecord.standing (front ++ [record]) = match record with
      | .resumed _ => none
      | .finished record => some record.status
      | _ => ReviewRecord.standing front := by
  rw [ReviewRecord.standing, foldl_append]
  rfl

variable {records : List ReviewRecord}

theorem standing_eq (stands : ReviewRecord.standing records = some told) :
    (records.filterMap ReviewRecord.ending).getLast? = some told := by
  induction records using List.reverseRecOn with
  | nil => cases stands
  | append_singleton front record ih =>
    rw [standing_append] at stands
    rw [filterMap_append]
    cases record with
    | resumed => cases stands
    | attempt => exact (append_nil _).symm ▸ ih stands
    | aggregation => exact (append_nil _).symm ▸ ih stands
    | finished record =>
      have single : [ReviewRecord.finished record].filterMap ReviewRecord.ending = [record.status] := rfl
      rw [single, List.getLast?_append]
      exact stands

theorem split_append {α : Type*} {front before after : List α} {last middle : α}
    (same : front ++ [last] = before ++ middle :: after) :
    (after = [] ∧ front = before ∧ last = middle) ∨
      ∃ rest, after = rest ++ [last] ∧ front = before ++ middle :: rest := by
  induction after using List.reverseRecOn with
  | nil =>
    obtain ⟨fronts, lasts⟩ := append_inj' same rfl
    exact .inl ⟨rfl, fronts, List.cons.inj lasts |>.1⟩
  | append_singleton rest other _ =>
    rw [← cons_append, ← append_assoc] at same
    obtain ⟨fronts, lasts⟩ := append_inj' same rfl
    cases lasts
    exact .inr ⟨rest, rfl, fronts⟩

theorem endsAgain_of_standing (stands : ReviewRecord.standing records = some told) : EndsAgain records := by
  induction records using List.reverseRecOn with
  | nil => cases stands
  | append_singleton front last ih =>
    rw [standing_append] at stands
    intro before record after same ended
    obtain ⟨_, _, lasts⟩ | ⟨rest, afters, fronts⟩ := split_append same
    · rw [lasts] at stands
      cases stands
    · rw [afters]
      have earlier (stood : ReviewRecord.standing front = some told) :
          ∃ ended, ReviewRecord.finished ended ∈ rest ++ [last] := by
        obtain ⟨again, member⟩ := ih stood before record rest fronts ended
        exact ⟨again, mem_append_left _ member⟩
      cases last with
      | resumed => cases stands
      | attempt => exact earlier stands
      | aggregation => exact earlier stands
      | finished record => exact ⟨record, mem_append_right _ (mem_singleton_self _)⟩

theorem not_endsAgain (open_ : ReviewRecord.standing records = none)
    (ended : ∃ ended, ReviewRecord.finished ended ∈ records) : ¬ EndsAgain records := by
  induction records using List.reverseRecOn with
  | nil =>
    obtain ⟨_, member⟩ := ended
    cases member
  | append_singleton front last ih =>
    rw [standing_append] at open_
    obtain ⟨ended, member⟩ := ended
    -- A record that neither ends the run nor takes it up again changes nothing.
    have earlier (other : ∀ record, last ≠ .finished record)
        (open_ : ReviewRecord.standing front = none) : ¬ EndsAgain (front ++ [last]) := by
      have before : ∃ ended, ReviewRecord.finished ended ∈ front := by
        obtain inFront | atEnd := mem_append.mp member
        · exact ⟨ended, inFront⟩
        · exact absurd (mem_singleton.mp atEnd).symm (other ended)
      intro ends
      refine ih open_ before fun first record rest same found => ?_
      obtain ⟨again, late⟩ := ends first record (rest ++ [last]) (by rw [same]; simp) found
      obtain inRest | atEnd := mem_append.mp late
      · exact ⟨again, inRest⟩
      · exact absurd (mem_singleton.mp atEnd).symm (other again)
    cases last with
    | finished => cases open_
    | attempt => exact earlier (fun _ => nofun) open_
    | aggregation => exact earlier (fun _ => nofun) open_
    | resumed record =>
      intro ends
      have inFront : ReviewRecord.finished ended ∈ front := by
        obtain inFront | atEnd := mem_append.mp member
        · exact inFront
        · cases mem_singleton.mp atEnd
      obtain ⟨again, late⟩ := ends front record [] rfl ⟨ended, inFront⟩
      cases late

theorem status_ne_running (ending : RunEnd) : ending.status ≠ .running := by
  cases ending <;> nofun

theorem same_status_iff :
    ((records.filterMap ReviewRecord.ending).getLast?.map RunEnd.status).getD .running =
      ((ReviewRecord.standing records).map RunEnd.status).getD .running ↔ EndsAgain records := by
  cases stands : ReviewRecord.standing records with
  | some told =>
    rw [standing_eq stands]
    exact iff_of_true rfl (endsAgain_of_standing stands)
  | none =>
    cases last : (records.filterMap ReviewRecord.ending).getLast? with
    | none =>
      refine iff_of_true rfl fun front record back same ended => ?_
      obtain ⟨ended, member⟩ := ended
      have among : ended.status ∈ records.filterMap ReviewRecord.ending :=
        mem_filterMap.mpr ⟨.finished ended, same ▸ mem_append_left _ member, rfl⟩
      rw [List.getLast?_eq_none_iff.mp last] at among
      cases among
    | some told =>
      obtain ⟨record, member, ending⟩ := mem_filterMap.mp (mem_of_getLast? last)
      obtain ⟨ended, same, _⟩ := ending_some ending
      exact iff_of_false (status_ne_running told) (not_endsAgain stands ⟨ended, same ▸ member⟩)

def IdeateRecord.attempt? : IdeateRecord → Option AttemptFinishedRecord
  | .attempt record => some record
  | _ => none

def IdeateRecord.stage? : IdeateRecord → Option IdeateStage
  | .stage record => some record.stage
  | _ => none

def lastAttempt (records : List IdeateRecord) (attemptId : JsString) : Option AttemptFinishedRecord :=
  lookupLast (records.filterMap IdeateRecord.attempt?) (·.attemptId.val) attemptId

def lastStage (records : List IdeateRecord) : Option IdeateStage :=
  (records.filterMap IdeateRecord.stage?).getLast?

structure FollowsIdeation (summarizeSeatOutput : Option JsString → Result) (scan : LiveScan Result)
    (run : StartedRun) (records : List IdeateRecord) : Prop where
  follows : Follows scan run (records.filterMap IdeateRecord.ending).getLast?
  aggregation : scan.aggregation.isSome = true ↔ ∃ record, .aggregation record ∈ records
  stage : scan.ideateStage = some ((lastStage records).getD .proposing)
  finished : ∀ attemptId, scan.finished attemptId =
    (lastAttempt records attemptId).map (·.ending summarizeSeatOutput)

theorem lastAttempt_append (front : List IdeateRecord) (record : AttemptFinishedRecord)
    (attemptId : JsString) : lastAttempt (front ++ [.attempt record]) attemptId =
      if record.attemptId.val = attemptId then some record else lastAttempt front attemptId := by
  have single : [IdeateRecord.attempt record].filterMap IdeateRecord.attempt? = [record] := rfl
  rw [lastAttempt, filterMap_append, single, lookupLast, reverse_append]
  by_cases same : record.attemptId.val = attemptId
  · rw [if_pos same]
    exact List.find?_cons_of_pos (by simpa using same)
  · rw [if_neg same]
    exact List.find?_cons_of_neg (by simpa using same)

variable {record : IdeateRecord}

variable (front : List IdeateRecord)

theorem lastAttempt_other (other : record.attempt? = none)
    (attemptId : JsString) : lastAttempt (front ++ [record]) attemptId = lastAttempt front attemptId := by
  have nothing : [record].filterMap IdeateRecord.attempt? = [] := by
    rw [filterMap_cons, other]
    rfl
  rw [lastAttempt, filterMap_append, nothing, append_nil]
  rfl

theorem lastStage_other (other : record.stage? = none) :
    lastStage (front ++ [record]) = lastStage front := by
  have nothing : [record].filterMap IdeateRecord.stage? = [] := by
    rw [filterMap_cons, other]
    rfl
  rw [lastStage, filterMap_append, nothing, append_nil]
  rfl

theorem lastEnd_other (other : record.ending = none) :
    ((front ++ [record]).filterMap IdeateRecord.ending).getLast? =
      (front.filterMap IdeateRecord.ending).getLast? := by
  have nothing : [record].filterMap IdeateRecord.ending = [] := by
    rw [filterMap_cons, other]
    rfl
  rw [filterMap_append, nothing, append_nil]

theorem aggregation_other (other : ∀ ended, record ≠ .aggregation ended) :
    (∃ ended, IdeateRecord.aggregation ended ∈ front ++ [record]) ↔
      ∃ ended, IdeateRecord.aggregation ended ∈ front := by
  refine exists_congr fun ended => ?_
  rw [mem_append, mem_singleton]
  exact or_iff_left fun same => other ended same.symm

theorem follows_ideation {records : List IdeateRecord} (ideation : run.ideate = true) :
    FollowsIdeation summarizeSeatOutput (((records.map fun record => objectOf record.fields).map
      (readLiveRow summarizeSeatOutput)).foldl note (note {} (.started run))) run records := by
  induction records using List.reverseRecOn with
  | nil =>
    refine ⟨Follows.started_row run, iff_of_false nofun ?_, ?_, fun _ => rfl⟩
    · intro some_
      obtain ⟨_, member⟩ := some_
      cases member
    · change (if run.ideate then some IdeateStage.proposing else none) = some .proposing
      rw [if_pos ideation]
  | append_singleton front record ih =>
    rw [map_append, map_append, foldl_append]
    simp only [map_cons, map_nil, foldl_cons, foldl_nil]
    cases record with
    | stage record =>
      rw [IdeateRecord.fields, record.readLiveRow]
      constructor
      · rw [lastEnd_other front rfl]
        exact ih.follows.stage record.stage
      · rw [aggregation_other front (by exact fun _ => nofun)]
        exact ih.aggregation
      · have single : [IdeateRecord.stage record].filterMap IdeateRecord.stage? = [record.stage] := rfl
        rw [lastStage, filterMap_append, single, List.getLast?_append]
        rfl
      · intro attemptId
        rw [lastAttempt_other front rfl]
        exact ih.finished attemptId
    | attempt record =>
      rw [IdeateRecord.fields, record.readLiveRow]
      constructor
      · rw [lastEnd_other front rfl]
        exact ih.follows.attempt _ _ _
      · rw [aggregation_other front (by exact fun _ => nofun)]
        exact ih.aggregation
      · rw [lastStage_other front rfl]
        exact ih.stage
      · intro attemptId
        rw [lastAttempt_append, finished_attempt]
        by_cases same : record.attemptId.val = attemptId
        · subst same
          rw [Function.update_self, if_pos rfl]
          rfl
        · rw [Function.update_of_ne (Ne.symm same), if_neg same]
          exact ih.finished attemptId
    | aggregation record =>
      rw [IdeateRecord.fields, record.readLiveRow]
      constructor
      · rw [lastEnd_other front rfl]
        exact ih.follows.aggregation _
      · exact iff_of_true rfl ⟨record, mem_append_right _ (mem_singleton_self _)⟩
      · rw [lastStage_other front rfl]
        exact ih.stage
      · intro attemptId
        rw [lastAttempt_other front rfl]
        exact ih.finished attemptId
    | finished record =>
      rw [IdeateRecord.fields, record.readLiveRow]
      constructor
      · have single : [IdeateRecord.finished record].filterMap IdeateRecord.ending = [record.status] := rfl
        rw [filterMap_append, single, List.getLast?_append]
        exact ih.follows.finished record.status
      · rw [aggregation_other front (by exact fun _ => nofun)]
        exact ih.aggregation
      · rw [lastStage_other front rfl]
        exact ih.stage
      · intro attemptId
        rw [lastAttempt_other front rfl]
        exact ih.finished attemptId

/-- No stage behind the proposals was begun, and either a proposal is missing or every
debate is there and no seat succeeded. -/
def StopsEarly (started : IdeateStartedRecord) (records : List IdeateRecord) : Prop :=
  lastStage records ≠ some .debating ∧ lastStage records ≠ some .aggregating ∧
  ((∃ meta_ ∈ started.proposals, lastAttempt records meta_.attemptId = none ∧
      meta_.attemptId.val ∉ started.debates.map (·.attemptId.val)) ∨
    ((∀ meta_ ∈ started.debates, lastAttempt records meta_.attemptId ≠ none) ∧
      ∀ meta_ ∈ started.proposals ++ started.debates, ∀ record,
        lastAttempt records meta_.attemptId = some record → record.status = .failure))

section Ideation

variable {started : IdeateStartedRecord} {records : List IdeateRecord}

section

variable (ideation : FollowsIdeation summarizeSeatOutput scan run records)
  (saw : scan.sawFinished = true)

include ideation saw

theorem terminal_iff :
    (scan.attemptRow seat).isTerminal = true ↔ lastAttempt records seat.attemptId ≠ none := by
  rw [isTerminal_attemptRow saw, ideation.finished, Option.isSome_map, Option.isSome_iff_ne_none]

theorem success_iff : (scan.attemptRow seat).status = .success ↔
      ∃ record, lastAttempt records seat.attemptId = some record ∧ record.status = .success := by
  rw [success_attemptRow saw, ideation.finished]
  cases lastAttempt records seat.attemptId with
  | none => exact iff_of_false nofun fun found => by obtain ⟨_, none_, _⟩ := found; cases none_
  | some record =>
    rw [Option.map_some, Option.any_some, decide_eq_true_eq]
    refine ⟨fun status => ⟨record, rfl, status⟩, fun found => ?_⟩
    obtain ⟨_, same, status⟩ := found
    cases same
    exact status

end

theorem mem_attempts : seat ∈ started.run.attempts ↔
    ∃ meta_ ∈ started.proposals ++ started.debates, meta_.seat = seat := mem_map

section

variable (ideation : FollowsIdeation summarizeSeatOutput scan started.run records)
  (saw : scan.sawFinished = true)

include ideation saw

theorem proposals_terminal : ((started.run.attempts.map scan.attemptRow).filter fun row =>
      row.seat.attemptId ∉ started.run.debateAttemptIds).all (·.isTerminal) = true ↔
      ∀ meta_ ∈ started.proposals, meta_.attemptId.val ∉ started.debates.map (·.attemptId.val) →
        lastAttempt records meta_.attemptId ≠ none := by
  simp only [all_eq_true, mem_filter, mem_map, decide_eq_true_eq]
  constructor
  · intro terminal meta_ member apart
    have listed : meta_.seat ∈ started.run.attempts :=
      mem_attempts.mpr ⟨meta_, mem_append_left _ member, rfl⟩
    refine (terminal_iff ideation saw).mp (terminal _ ⟨⟨meta_.seat, listed, rfl⟩, fun debated => ?_⟩)
    exact apart (mem_map.mp debated)
  · intro heard row found
    obtain ⟨⟨seat, listed, rfl⟩, apart⟩ := found
    obtain ⟨meta_, member, rfl⟩ := mem_attempts.mp listed
    apply (terminal_iff ideation saw).mpr
    obtain proposal | debate := mem_append.mp member
    · exact heard meta_ proposal fun debated => apart (mem_map.mpr debated)
    · exact absurd (mem_map_of_mem debate) apart

theorem debates_terminal : ((started.run.attempts.map scan.attemptRow).filter fun row =>
      row.seat.attemptId ∈ started.run.debateAttemptIds).all (·.isTerminal) = true ↔
      ∀ meta_ ∈ started.debates, lastAttempt records meta_.attemptId ≠ none := by
  simp only [all_eq_true, mem_filter, mem_map, decide_eq_true_eq]
  constructor
  · intro terminal meta_ member
    have listed : meta_.seat ∈ started.run.attempts :=
      mem_attempts.mpr ⟨meta_, mem_append_right _ member, rfl⟩
    refine (terminal_iff ideation saw).mp (terminal _ ⟨⟨meta_.seat, listed, rfl⟩, ?_⟩)
    exact mem_map_of_mem member
  · intro heard row found
    obtain ⟨⟨seat, _, rfl⟩, debated⟩ := found
    obtain ⟨meta_, member, same⟩ := mem_map.mp debated
    apply (terminal_iff ideation saw).mpr
    have here := heard meta_ member
    rwa [same] at here

theorem any_success :
    ((started.run.attempts.map scan.attemptRow).any fun row => row.status = .success) = true ↔
      ∃ meta_ ∈ started.proposals ++ started.debates, ∃ record,
        lastAttempt records meta_.attemptId = some record ∧ record.status = .success := by
  simp only [any_eq_true, mem_map, decide_eq_true_eq]
  constructor
  · intro found
    obtain ⟨_, ⟨seat, listed, rfl⟩, success⟩ := found
    obtain ⟨meta_, member, rfl⟩ := mem_attempts.mp listed
    exact ⟨meta_, member, (success_iff ideation saw).mp success⟩
  · intro found
    obtain ⟨meta_, member, success⟩ := found
    have listed : meta_.seat ∈ started.run.attempts := mem_attempts.mpr ⟨meta_, member, rfl⟩
    exact ⟨_, ⟨meta_.seat, listed, rfl⟩, (success_iff ideation saw).mpr success⟩

end

theorem stage_iff (ideation : FollowsIdeation summarizeSeatOutput scan run records) {stage : IdeateStage}
    (later : stage ≠ .proposing) : scan.ideateStage = some stage ↔ lastStage records = some stage := by
  rw [ideation.stage, Option.some.injEq]
  cases lastStage records with
  | none => exact iff_of_false later.symm nofun
  | some found => exact (Option.some.injEq ..).symm.to_iff

theorem stopsEarly_iff : StopsEarly started records ↔
    lastStage records ≠ some .debating ∧ lastStage records ≠ some .aggregating ∧
    (¬ (∀ meta_ ∈ started.proposals, meta_.attemptId.val ∉ started.debates.map (·.attemptId.val) →
        lastAttempt records meta_.attemptId ≠ none) ∨
      ((∀ meta_ ∈ started.debates, lastAttempt records meta_.attemptId ≠ none) ∧
        ¬ ∃ meta_ ∈ started.proposals ++ started.debates, ∃ record,
          lastAttempt records meta_.attemptId = some record ∧ record.status = .success)) := by
  have failure (status : FinishedStatus) : status = .failure ↔ status ≠ .success := by
    cases status <;> decide
  rw [StopsEarly]
  push Not
  simp only [failure, and_comm]

theorem closed_iff {aggregating debating proposals empty debates success : Prop} (none_ : empty → debates) :
    (¬ (aggregating ∨ (proposals ∧ (empty ∨ debates)) ∧ success) ∧
      ¬ (debating ∨ (proposals ∧ ¬ empty) ∧ ¬ (empty ∨ debates))) ↔
      ¬ debating ∧ ¬ aggregating ∧ (¬ proposals ∨ (debates ∧ ¬ success)) := by
  tauto

theorem quiet_closed {aggregating debating : Prop} [Decidable aggregating] [Decidable debating]
    {view : AggregatorView}
    (chosen : view = if aggregating then { status := .running, durationMs := none, phase := .aggregating }
      else if debating then { status := .pending, durationMs := none, phase := .debating }
      else { status := .pending, durationMs := none, phase := .done }) :
    (view.phase = .done ∧ view.status ≠ .running) ↔ ¬ aggregating ∧ ¬ debating := by
  rw [chosen]
  by_cases aggregates : aggregating
  · rw [if_pos aggregates]
    exact iff_of_false (fun quiet => by cases quiet.1) fun closed => closed.1 aggregates
  · rw [if_neg aggregates]
    by_cases debates : debating
    · rw [if_pos debates]
      exact iff_of_false (fun quiet => by cases quiet.1) fun closed => closed.2 debates
    · rw [if_neg debates]
      exact iff_of_true ⟨rfl, nofun⟩ ⟨aggregates, debates⟩

theorem quiet_ideation (ideation : FollowsIdeation summarizeSeatOutput scan started.run records)
    (saw : scan.sawFinished = true) :
    (scan.liveState started.run updatedAt).Quiet ↔
      (∃ record, .aggregation record ∈ records) ∨ StopsEarly started records := by
  have ideate : started.run.ideate = true := rfl
  rw [quiet_iff saw, view, ideate, if_pos rfl, ideateView]
  cases aggregation : scan.aggregation with
  | some seat =>
    have found := ideation.aggregation.mp (by rw [aggregation]; rfl)
    exact iff_of_true (quiet_aggregated saw) (.inl found)
  | none =>
    have absent : ¬ ∃ record, .aggregation record ∈ records := by
      rw [← ideation.aggregation, aggregation]
      nofun
    have proposals := proposals_terminal ideation saw
    have debates := debates_terminal ideation saw
    have success := any_success ideation saw
    have aggregating := @stage_iff _ _ _ _ _ ideation .aggregating nofun
    have debating := @stage_iff _ _ _ _ _ ideation .debating nofun
    simp only [saw, if_true]
    rw [quiet_closed rfl, stopsEarly_iff, ne_eq, ne_eq, ← aggregating, ← debating, ← proposals, ← debates,
      ← success]
    have none_ (rows : List (CliRunAttemptProgress Result)) (empty : rows.isEmpty = true) :
        rows.all (·.isTerminal) = true := by
      rw [isEmpty_iff.mp empty]
      rfl
    rw [or_iff_right absent]
    simp only [Bool.or_eq_true, Bool.and_eq_true, Bool.not_eq_true', decide_eq_true_eq, ← Bool.not_eq_true]
    exact closed_iff (none_ _)

end Ideation

def Agree {Integrity : Type*} (told : TranscriptMeta Integrity) (live : CliRunLiveState Result) : Prop :=
  told.status = live.status ∧
    (live.status = .completed ∨ live.status = .failed ∨ live.status = .interrupted → live.Quiet)

/-- No end of a review is taken back for good, and an ended ideation has its aggregation
or stopped before any later stage was open. -/
def Transcript.Consistent : Transcript → Prop
  | review _ records => EndsAgain records
  | ideate started records => (∃ ended, .finished ended ∈ records) →
      (∃ record, .aggregation record ∈ records) ∨ StopsEarly started records

theorem ended_iff (ending : Option RunEnd) :
    ((ending.map RunEnd.status).getD .running = .completed ∨
      (ending.map RunEnd.status).getD .running = .failed ∨
      (ending.map RunEnd.status).getD .running = .interrupted) ↔ ending.isSome = true := by
  rcases ending with _ | _ | _ | _ <;> decide

theorem finished_iff {records : List IdeateRecord} :
    (records.filterMap IdeateRecord.ending).getLast?.isSome = true ↔
      ∃ ended, IdeateRecord.finished ended ∈ records := by
  rw [List.getLast?_isSome, ne_eq, filterMap_eq_nil_iff]
  push Not
  constructor
  · intro found
    obtain ⟨record, member, told⟩ := found
    cases record with
    | finished ended => exact ⟨ended, member⟩
    | stage => exact absurd rfl told
    | attempt => exact absurd rfl told
    | aggregation => exact absurd rfl told
  · intro found
    obtain ⟨ended, member⟩ := found
    exact ⟨_, member, nofun⟩

theorem liveStateFromRecords_follows {records : List Json} (started : scan.started = some run)
    (scanned : scanLive summarizeSeatOutput records = scan) :
    liveStateFromRecords summarizeSeatOutput records updatedAt = some (scan.liveState run updatedAt) := by
  rw [liveStateFromRecords, scanned, started]
  rfl

/-- The run index and the live view agree on a transcript exactly when it is consistent. -/
theorem run_status {Integrity : Type*} (schema : IntegritySchema Integrity)
    (summarizeSeatOutput : Option JsString → Result) (transcript : Transcript) (runId : JsString)
    (updatedAt : Option JsString) :
    ∃ live, liveStateFromRecords summarizeSeatOutput (parseRows transcript.text) updatedAt = some live ∧
      (Agree (parseTranscriptMeta schema transcript.text runId) live ↔ transcript.Consistent) := by
  have index := @status_index _ schema transcript runId
  rw [transcript.parseRows_text]
  cases transcript with
  | review started records =>
    have follows := @follows_review _ summarizeSeatOutput _ _ records (Follows.started_row started.run)
    refine ⟨_, liveStateFromRecords_follows follows.started ?_, ?_⟩
    · rw [scanLive, Transcript.rows, map_cons, started.readLiveRow, foldl_cons]
    · rw [Agree, index, follows.status, ended_iff]
      have quiet (ended : (ReviewRecord.standing records).isSome = true) :=
        @quiet_review _ _ started.run updatedAt (follows.sawFinished.trans ended) rfl
      exact (and_iff_left quiet).trans same_status_iff
  | ideate started records =>
    have ideation := @follows_ideation _ summarizeSeatOutput started.run records rfl
    have follows := ideation.follows
    refine ⟨_, liveStateFromRecords_follows follows.started ?_, ?_⟩
    · rw [scanLive, Transcript.rows, map_cons, started.readLiveRow, foldl_cons]
    · rw [Agree, index, follows.status, ended_iff]
      have quiet (ended : (records.filterMap IdeateRecord.ending).getLast?.isSome = true) :=
        @quiet_ideation _ _ _ updatedAt _ _ ideation (follows.sawFinished.trans ended)
      refine (and_iff_right rfl).trans ?_
      rw [Transcript.Consistent, ← finished_iff]
      exact imp_congr_right quiet

end Live

def stamp : Stamp := ⟨js "2026-01-01T00:00:00.000Z", by decide⟩

def reviewer : AttemptMeta where
  attemptId := ⟨js "a1", by decide⟩
  agentId := js "reviewer"
  agentName := js "reviewer"
  driverId := js "codex"
  modelId := js "m"

def resumedReview : Transcript :=
  .review {
    reviewModels := none
    runId := js "ck-review-1"
    startedAt := stamp
    task := {
      pr := none, task := some (js "t"), focus := none, specSource := none, councilTopic := none
      against := none, repairPackageHash := none }
    attempts := [reviewer]
    aggregator := reviewer
    probe := none }
    [.finished {
      status := .failed, endedAt := stamp, incomplete := none, reportPath := none, failure := none },
     .resumed {
      runId := js "ck-review-1", resumedAt := stamp, reusedAttemptIds := []
      rerunAttemptIds := [js "a1"], probe := ⟨.array [], trivial⟩ }]

def interruptedIdeation : Transcript :=
  .ideate {
    runId := js "ck-ideate-1"
    startedAt := stamp
    idea := js "i"
    background := []
    debateRounds := 1
    proposals := [{ reviewer with stage := .proposal, round := 0, proposalRef := js "p1" }]
    debates := [{ reviewer with
      attemptId := ⟨js "d1", by decide⟩, stage := .debate, round := 1, proposalRef := js "p1" }]
    aggregator := { reviewer with
      attemptId := ⟨js "aggregate-final", by decide⟩, stage := .aggregate, round := 0
      proposalRef := js "all" }
    probe := none
    configuredModels := ⟨.array [], trivial⟩ }
    [.stage { stage := .debating, at_ := stamp },
     .finished {
      status := .interrupted, endedAt := stamp, incomplete := true, reportPath := none
      integrity := ⟨.null, trivial⟩, failure := none }]

def noIntegrity : IntegritySchema Unit := ⟨fun _ => none, fun _ => true⟩

theorem readers_disagree :
    (∃ live, liveStateFromRecords (fun _ => ()) (parseRows resumedReview.text) none = some live ∧
      ¬ Agree (parseTranscriptMeta noIntegrity resumedReview.text (js "ck-review-1")) live) ∧
    ∃ live, liveStateFromRecords (fun _ => ()) (parseRows interruptedIdeation.text) none = some live ∧
      ¬ Agree (parseTranscriptMeta noIntegrity interruptedIdeation.text (js "ck-ideate-1")) live := by
  constructor
  · have failed : (parseTranscriptMeta noIntegrity resumedReview.text (js "ck-review-1")).status =
        .failed := by decide +kernel
    have shown : (liveStateFromRecords (fun _ => ()) (parseRows resumedReview.text) none).map (·.status) =
        some .running := by decide +kernel
    obtain ⟨live, found, running⟩ := Option.map_eq_some_iff.mp shown
    refine ⟨live, found, fun agree => ?_⟩
    have same := agree.1
    rw [failed, running] at same
    cases same
  · have shown : (liveStateFromRecords (fun _ => ()) (parseRows interruptedIdeation.text) none).map
        (fun live => (live.status, live.progress.phase)) = some (.interrupted, .debating) := by
      decide +kernel
    obtain ⟨live, found, both⟩ := Option.map_eq_some_iff.mp shown
    obtain ⟨interrupted, debating⟩ := Prod.mk.inj both
    refine ⟨live, found, fun agree => ?_⟩
    have done := (agree.2 (.inr (.inr interrupted))).1
    rw [debating] at done
    cases done

end CouncilKit.Runs
