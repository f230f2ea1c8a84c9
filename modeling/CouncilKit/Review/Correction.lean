import CouncilKit.Review.AssessmentCoverage

namespace CouncilKit.Review

open Data Repair Option Json List

def outcomeText : VerificationOutcome → JsString
  | .verified_closed => js "verified_closed"
  | .still_open => js "still_open"
  | .not_evaluated => js "not_evaluated"

def methodText : VerificationMethod → JsString
  | .regression_test => js "regression_test"
  | .code_trace => js "code_trace"
  | .not_evaluated => js "not_evaluated"

structure OriginalRow where
  findingId : JsString
  row : Members

def blockRows (raw : JsString) : List Json :=
  match parse raw with
  | some (.array rows) => rows
  | _ => []

def originalRow : Json → Option OriginalRow
  | .object row => (stringOf (property row "findingId")).map fun findingId => ⟨findingId, row⟩
  | _ => none

def originalAssessmentRows (output : JsString) : List OriginalRow :=
  ((extractAssessmentBlocks output).flatMap blockRows).filterMap originalRow

def sameEvidenceField (left right : Option Json) : Bool :=
  match left, right with
  | none, none => true
  | some left, some right => left.stringify = right.stringify
  | _, _ => false

def ReviewerAssessment.evidenceField (assessment : ReviewerAssessment) : String → Option Json
  | "method" => some (.string (methodText assessment.method))
  | "reason" => some (.string assessment.reason)
  | "evidence" => some (.string assessment.evidence)
  | "command" => assessment.command.map .string
  | "locations" => assessment.locations.map fun locations => .array (locations.map .string)
  | _ => none

def EVIDENCE_FIELDS : List String := ["method", "reason", "evidence", "command", "locations"]

structure Projection where
  valid : List DiagnosedAssessment
  rejected : List AssessmentDiagnosticItem
  substantialChange : Bool

def correctionItem (findingId : JsString) (errorClass : String) (suffix : JsString) :
    AssessmentDiagnosticItem :=
  { findingId := findingId
    attemptId := js "correction"
    status := .semantic_mismatch
    errorClass := js errorClass
    errorPath := js "/correction/" ++ findingId ++ suffix }

/-- Why a corrected row is not taken; an unrequested id is no substantial change. -/
structure Refusal where
  item : AssessmentDiagnosticItem
  substantial : Bool := true

def PROVABLE_OUTCOMES : List JsString :=
  [js "verified_closed", js "still_open", js "not_evaluated"]

def projectRow (originals : List OriginalRow) (candidateSha : JsString)
    (requested : List JsString) (assessment : ReviewerAssessment) : Except Refusal Unit :=
  let id := assessment.findingId
  let prior := (lookupLast originals OriginalRow.findingId id).map (·.row)
  let priorText (key : String) := prior.bind fun row => stringOf (property row key)
  if !requested.contains id then .error ⟨correctionItem id "unrequested_id" [], false⟩
  else match (priorText "outcome").filter PROVABLE_OUTCOMES.contains with
    | none => .error ⟨correctionItem id "unprovable_outcome" (js "/outcome"), true⟩
    | some priorOutcome =>
      if priorOutcome ≠ outcomeText assessment.outcome then
        .error ⟨correctionItem id "substantial_rejudgment" (js "/outcome"), true⟩
      else if (priorText "candidateSha").getD [] ≠ candidateSha ∨
          assessment.candidateSha ≠ candidateSha then
        .error ⟨correctionItem id "candidate_sha_replaced" (js "/candidateSha"), true⟩
      else match EVIDENCE_FIELDS.find? fun field =>
          !sameEvidenceField (prior.bind fun row => property row field)
            (assessment.evidenceField field) with
        | some fieldReplaced =>
          .error ⟨correctionItem id "evidence_field_replaced" (js "/" ++ js fieldReplaced), true⟩
        | none => .ok ()

def projectCorrectionOutput (originalOutput correctionOutput candidateSha : JsString)
    (requestedFindingIds : List JsString) (sourceAttemptId : JsString) : Projection :=
  let originals := originalAssessmentRows originalOutput
  let corrected := diagnoseAttemptAssessments (js "correction") correctionOutput candidateSha
  let results := corrected.valid.map fun row =>
    (row, projectRow originals candidateSha requestedFindingIds row.assessment)
  { valid := results.filterMap fun result => match result.2 with
      | .ok () => some { result.1 with attemptId := sourceAttemptId }
      | .error _ => none
    rejected := corrected.items.filter (·.status ≠ .valid) ++
      results.filterMap fun result => match result.2 with
        | .ok () => none
        | .error refusal => some refusal.item
    substantialChange := results.any fun result => match result.2 with
      | .ok () => false
      | .error refusal => refusal.substantial }

structure ReviewerIdentity where
  agentId : JsString
  driverId : JsString
  modelId : JsString
deriving DecidableEq

structure AssessmentCorrectionRecord where
  sourceRunId : JsString
  sourceAttemptId : JsString
  identity : ReviewerIdentity
  sourceOutputSha256 : JsString
  candidateSha : JsString
  requestedFindingIds : List JsString
  correctionOutputSha256 : Option JsString
  accepted : Bool
  trackedCleanBefore : Bool
  trackedCleanAfter : Option Bool

structure ReplayAttempt where
  attemptId : JsString
  output : JsString
  identity : ReviewerIdentity

section

variable [Digest]

/-- The rows of one record, `correctionText` being the file of its attempt when it can be read. -/
def replayRecord (runId candidateSha : JsString) (attempts : List ReplayAttempt)
    (correctionText : JsString → Option JsString) (rec_ : AssessmentCorrectionRecord) :
    List DiagnosedAssessment :=
  if !rec_.accepted then []
  else if rec_.sourceRunId ≠ runId then []
  else if rec_.candidateSha ≠ candidateSha then []
  else if rec_.trackedCleanBefore ≠ true ∨ rec_.trackedCleanAfter ≠ some true then []
  else match lookupLast attempts ReplayAttempt.attemptId rec_.sourceAttemptId with
    | none => []
    | some attempt =>
      if rec_.identity ≠ attempt.identity then []
      else if rec_.sourceOutputSha256 ≠ Digest.sha256 attempt.output then []
      else match correctionText rec_.sourceAttemptId with
        | none => []
        | some correctionOutput =>
          if rec_.correctionOutputSha256 ≠ some (Digest.sha256 correctionOutput) then []
          else
            let projected := projectCorrectionOutput attempt.output correctionOutput
              candidateSha rec_.requestedFindingIds rec_.sourceAttemptId
            if projected.substantialChange then [] else projected.valid

/-- `records` are those of the file of corrections, `none` when there is none. -/
def replayAcceptedCorrections (runId candidateSha : JsString) (attempts : List ReplayAttempt)
    (correctionText : JsString → Option JsString)
    (records : Option (List AssessmentCorrectionRecord)) : List DiagnosedAssessment :=
  match records with
  | none => []
  | some records =>
    if !FULL_COMMIT_SHA candidateSha then []
    else records.flatMap (replayRecord runId candidateSha attempts correctionText)

end

/-- A row of the output says the same in every field that carries the judgement. -/
structure SaidBefore (output : JsString) (assessment : ReviewerAssessment) (row : Members) :
    Prop where
  written : ∃ raw ∈ extractAssessmentBlocks output, ∃ rows, parse raw = some (.array rows) ∧
    .object row ∈ rows
  findingId : property row "findingId" = some (.string assessment.findingId)
  outcome : property row "outcome" = some (.string (outcomeText assessment.outcome))
  candidateSha : property row "candidateSha" = some (.string assessment.candidateSha)
  method : property row "method" = some (.string (methodText assessment.method))
  reason : property row "reason" = some (.string assessment.reason)
  evidence : property row "evidence" = some (.string assessment.evidence)
  command : property row "command" = assessment.command.map .string
  locations : property row "locations" =
    assessment.locations.map fun locations => .array (locations.map .string)

theorem stringOf_some {value : Option Json} {text : JsString} (isText : stringOf value = some text) :
    value = some (.string text) := by
  cases value with
  | none => cases isText
  | some value =>
    cases value with
    | string found =>
      cases isText
      rfl
    | null => cases isText
    | bool flag => cases isText
    | number found => cases isText
    | fraction literal => cases isText
    | array items => cases isText
    | object members => cases isText

variable {row : Members} {key : String}

theorem property_proper {value : Json}
    (proper : (object row).Proper) (found : property row key = some value) :
    value.Proper := by
  obtain ⟨entry, among, rfl⟩ := map_eq_some_iff.mp found
  exact properMembers_iff.mp proper entry (lookupLast_some among).1

theorem originalAssessmentRows_mem {output : JsString} {original : OriginalRow}
    (member : original ∈ originalAssessmentRows output) :
    (∃ raw ∈ extractAssessmentBlocks output, ∃ rows, parse raw = some (.array rows) ∧
      .object original.row ∈ rows) ∧
    property original.row "findingId" = some (.string original.findingId) ∧
    (object original.row).Proper := by
  obtain ⟨row, listed, read⟩ := mem_filterMap.mp member
  obtain ⟨raw, block, inside⟩ := mem_flatMap.mp listed
  unfold blockRows at inside
  split at inside
  · rename_i rows parsed
    cases row with
    | object members =>
      obtain ⟨findingId, named, rfl⟩ := map_eq_some_iff.mp read
      exact ⟨⟨raw, block, rows, parsed, inside⟩, stringOf_some named,
        properItems_iff.mp (proper_parse parsed) _ inside⟩
    | null => cases read
    | bool flag => cases read
    | number found => cases read
    | fraction literal => cases read
    | string text => cases read
    | array items => cases read
  · cases inside

theorem same_text {text : JsString} (proper : (object row).Proper)
    (same : sameEvidenceField (property row key) (some (.string text)) = true) :
    property row key = some (.string text) := by
  cases found : property row key with
  | none =>
    rw [found] at same
    cases same
  | some value =>
    rw [found] at same
    rw [stringify_string_inj (property_proper proper found) (of_decide_eq_true same)]

theorem same_option {α : Type} {content : Option α} {write : α → Json}
    (faithful : ∀ {value : Json} {wanted : α}, value.Proper →
      value.stringify = (write wanted).stringify → value = write wanted)
    (proper : (object row).Proper)
    (same : sameEvidenceField (property row key) (content.map write) = true) :
    property row key = content.map write := by
  cases found : property row key with
  | none =>
    cases content with
    | none => rfl
    | some wanted =>
      rw [found] at same
      cases same
  | some value =>
    cases content with
    | none =>
      rw [found] at same
      cases same
    | some wanted =>
      rw [found] at same
      rw [faithful (property_proper proper found) (of_decide_eq_true same), map_some]

variable {candidateSha : JsString} {assessment : ReviewerAssessment} {requested : List JsString}

theorem projectRow_requested {originals : List OriginalRow}
    (accepted : projectRow originals candidateSha requested assessment = .ok ()) :
    requested.contains assessment.findingId = true := by
  unfold projectRow at accepted
  dsimp only at accepted
  split at accepted
  · cases accepted
  · rename_i asked
    exact Bool.not_eq_false _ ▸ fun missing => asked (by rw [missing]; rfl)

theorem textMember_ok {α : Type} {check : JsString → Option α}
    {value : α} (read : textMember row key check = .ok value) :
    ∃ text, check text = some value := by
  unfold textMember at read
  split at read
  · rename_i found checked
    cases read
    obtain ⟨text, -, checks⟩ := bind_eq_some_iff.mp checked
    exact ⟨text, checks⟩
  · cases read

theorem schema_sha {value : Json} (parsed : reviewerAssessmentSchema value = .ok assessment) :
    FULL_COMMIT_SHA assessment.candidateSha = true := by
  unfold reviewerAssessmentSchema at parsed
  split at parsed
  · obtain ⟨findingId, -, parsed⟩ := except_bind_ok.mp parsed
    obtain ⟨candidateSha, sha, parsed⟩ := except_bind_ok.mp parsed
    obtain ⟨outcome, -, parsed⟩ := except_bind_ok.mp parsed
    obtain ⟨method, -, parsed⟩ := except_bind_ok.mp parsed
    obtain ⟨reason, -, parsed⟩ := except_bind_ok.mp parsed
    obtain ⟨evidence, -, parsed⟩ := except_bind_ok.mp parsed
    obtain ⟨command, -, parsed⟩ := except_bind_ok.mp parsed
    obtain ⟨locations, -, parsed⟩ := except_bind_ok.mp parsed
    split at parsed
    · cases parsed
      obtain ⟨text, checks⟩ := textMember_ok sha
      split at checks
      · rename_i full
        cases checks
        exact full
      · cases checks
    · cases parsed
  · cases parsed

theorem projectRow_accepted {output : JsString}
    (accepted : projectRow (originalAssessmentRows output) candidateSha requested assessment =
      .ok ()) (shaGiven : assessment.candidateSha ≠ []) :
    assessment.candidateSha = candidateSha ∧
      ∃ row, SaidBefore output assessment row := by
  unfold projectRow at accepted
  dsimp only at accepted
  split at accepted
  · cases accepted
  split at accepted
  · cases accepted
  rename_i priorOutcome provable
  obtain ⟨prior, -⟩ := filter_eq_some_iff.mp provable
  split at accepted
  · cases accepted
  rename_i judged
  split at accepted
  · cases accepted
  rename_i shas
  split at accepted
  · cases accepted
  rename_i kept
  obtain ⟨row, found, outcome⟩ := bind_eq_some_iff.mp prior
  obtain ⟨original, last, rfl⟩ := map_eq_some_iff.mp found
  obtain ⟨listed, named⟩ := lookupLast_some last
  obtain ⟨written, id, proper⟩ := originalAssessmentRows_mem listed
  rw [not_or, not_not, not_not] at shas
  rw [last, map_some, bind_some] at shas
  have fields (field : String) (listed : field ∈ EVIDENCE_FIELDS) :
      sameEvidenceField (property original.row field) (assessment.evidenceField field) = true := by
    have same := find?_eq_none.mp kept field listed
    rw [last] at same
    simpa using same
  refine ⟨shas.2, original.row, written, ?_, ?_, ?_, ?_, ?_, ?_, ?_, ?_⟩
  · rw [id, named]
  · rw [stringOf_some outcome, not_not.mp judged]
  · rw [shas.2]
    cases sha : stringOf (property original.row "candidateSha") with
    | none =>
      rw [sha, getD_none] at shas
      exact absurd (shas.2.trans shas.1.symm) shaGiven
    | some text =>
      rw [sha, getD_some] at shas
      rw [stringOf_some sha, shas.1]
  · exact same_text proper (fields "method" (by decide))
  · exact same_text proper (fields "reason" (by decide))
  · exact same_text proper (fields "evidence" (by decide))
  · exact same_option stringify_string_inj proper (fields "command" (by decide))
  · exact same_option stringify_strings_inj proper (fields "locations" (by decide))

variable {originalOutput correctionOutput sourceAttemptId : JsString}

variable {requestedFindingIds : List JsString} {row : DiagnosedAssessment}

section

variable
  (member : row ∈ (projectCorrectionOutput originalOutput correctionOutput candidateSha requestedFindingIds sourceAttemptId).valid)

include member

theorem projected_row :
    ValidRow candidateSha correctionOutput row.assessment ∧ row.attemptId = sourceAttemptId ∧
      projectRow (originalAssessmentRows originalOutput) candidateSha requestedFindingIds
        row.assessment = .ok () := by
  obtain ⟨result, listed, taken⟩ := mem_filterMap.mp member
  obtain ⟨corrected, valid, rfl⟩ := mem_map.mp listed
  dsimp only at taken
  split at taken
  · rename_i accepted
    cases taken
    exact ⟨diagnoseAttemptAssessments_valid.mp ⟨corrected, valid, rfl⟩, rfl, accepted⟩
  · cases taken

theorem correction_keeps_judgement : row.assessment.candidateSha = candidateSha ∧
      row.assessment.findingId ∈ requestedFindingIds ∧
      ∃ original, SaidBefore originalOutput row.assessment original := by
  obtain ⟨⟨raw, -, rows, -, -, json, -, parsed, -, -⟩, -, accepted⟩ := projected_row member
  have given : row.assessment.candidateSha ≠ [] := by
    intro empty
    have full := schema_sha parsed
    rw [empty] at full
    cases full
  obtain ⟨sha, kept⟩ := projectRow_accepted accepted given
  exact ⟨sha, contains_iff_mem.mp (projectRow_requested accepted), kept⟩

end

section

variable [Digest]

/-- The record, the attempt and the file that a replayed row is taken from. -/
structure ReplayedFrom (runId candidateSha : JsString) (attempts : List ReplayAttempt)
    (correctionText : JsString → Option JsString) (rec_ : AssessmentCorrectionRecord)
    (attempt : ReplayAttempt) (correctionOutput : JsString) : Prop where
  accepted : rec_.accepted = true
  run : rec_.sourceRunId = runId
  candidate : rec_.candidateSha = candidateSha
  clean : rec_.trackedCleanBefore = true ∧ rec_.trackedCleanAfter = some true
  listed : attempt ∈ attempts ∧ attempt.attemptId = rec_.sourceAttemptId
  identity : rec_.identity = attempt.identity
  source : rec_.sourceOutputSha256 = Digest.sha256 attempt.output
  text : correctionText rec_.sourceAttemptId = some correctionOutput
  correction : rec_.correctionOutputSha256 = some (Digest.sha256 correctionOutput)

variable {correctionText : JsString → Option JsString} {runId candidateSha : JsString}

variable {attempts : List ReplayAttempt} {row : DiagnosedAssessment}

theorem replayRecord_row
    {rec_ : AssessmentCorrectionRecord}
    (member : row ∈ replayRecord runId candidateSha attempts correctionText rec_) :
    ∃ attempt correctionOutput,
      ReplayedFrom runId candidateSha attempts correctionText rec_ attempt correctionOutput ∧
      row ∈ (projectCorrectionOutput attempt.output correctionOutput candidateSha
        rec_.requestedFindingIds rec_.sourceAttemptId).valid := by
  unfold replayRecord at member
  split at member
  · cases member
  rename_i accepted
  split at member
  · cases member
  rename_i run
  split at member
  · cases member
  rename_i candidate
  split at member
  · cases member
  rename_i clean
  split at member
  · cases member
  rename_i attempt last
  split at member
  · cases member
  rename_i identity
  split at member
  · cases member
  rename_i source
  split at member
  · cases member
  rename_i correctionOutput text
  split at member
  · cases member
  rename_i correction
  dsimp only at member
  split at member
  · cases member
  · rw [not_or, not_not, not_not] at clean
    exact ⟨attempt, correctionOutput,
      { accepted := by simpa using accepted
        run := not_not.mp run
        candidate := not_not.mp candidate
        clean
        listed := lookupLast_some last
        identity := not_not.mp identity
        source := not_not.mp source
        text
        correction := not_not.mp correction }, member⟩

theorem replayed_row
    {records : Option (List AssessmentCorrectionRecord)}
    (member : row ∈ replayAcceptedCorrections runId candidateSha attempts correctionText records) :
    ∃ listed, records = some listed ∧ ∃ rec_ ∈ listed, ∃ attempt correctionOutput,
      ReplayedFrom runId candidateSha attempts correctionText rec_ attempt correctionOutput ∧
      row ∈ (projectCorrectionOutput attempt.output correctionOutput candidateSha
        rec_.requestedFindingIds rec_.sourceAttemptId).valid := by
  unfold replayAcceptedCorrections at member
  split at member
  · cases member
  · rename_i listed
    split at member
    · cases member
    · obtain ⟨rec_, among, inside⟩ := mem_flatMap.mp member
      exact ⟨listed, rfl, rec_, among, replayRecord_row inside⟩

/-- What is projected keeps the judgement of the original output, and what is replayed was
projected from the texts that an accepted record names. -/
theorem corrections_keep_judgement :
    (∀ {originalOutput correctionOutput candidateSha sourceAttemptId : JsString}
      {requestedFindingIds : List JsString},
      ∀ row ∈ (projectCorrectionOutput originalOutput correctionOutput candidateSha
        requestedFindingIds sourceAttemptId).valid,
      ∃ original, SaidBefore originalOutput row.assessment original) ∧
    ∀ {runId candidateSha : JsString} {attempts : List ReplayAttempt}
      {correctionText : JsString → Option JsString}
      {records : Option (List AssessmentCorrectionRecord)},
      ∀ row ∈ replayAcceptedCorrections runId candidateSha attempts correctionText records,
      ∃ listed, records = some listed ∧ ∃ rec_ ∈ listed, ∃ attempt correctionOutput,
        ReplayedFrom runId candidateSha attempts correctionText rec_ attempt correctionOutput ∧
        row ∈ (projectCorrectionOutput attempt.output correctionOutput candidateSha
          rec_.requestedFindingIds rec_.sourceAttemptId).valid := by
  constructor
  · intro originalOutput correctionOutput candidateSha sourceAttemptId requested row member
    exact (correction_keeps_judgement member).2.2
  · intro runId candidateSha attempts correctionText records row member
    exact replayed_row member

end

def sampleSha : JsString := replicate 40 0x61

def sampleOutput : JsString :=
  js "```councilkit-findings\n[\x7b\"findingId\":\"F1\"\x7d,\x7b\"findingId\":\"F1\",\"candidateSha\":\"" ++
    sampleSha ++ js "\",\"outcome\":\"still_open\",\"method\":\"code_trace\"," ++
    js "\"reason\":\"r\",\"evidence\":\"e\"\x7d]\n```"

def sampleAssessment : ReviewerAssessment :=
  ⟨js "F1", sampleSha, .still_open, .code_trace, js "r", js "e", none, none⟩

theorem corrections_keep_judgement_sample :
    ∃ original, SaidBefore sampleOutput sampleAssessment original := by
  have projected : (projectCorrectionOutput sampleOutput sampleOutput sampleSha [js "F1"]
      (js "attempt")).valid = [⟨sampleAssessment, js "attempt", []⟩] := by decide +kernel
  have member : (⟨sampleAssessment, js "attempt", []⟩ : DiagnosedAssessment) ∈
      (projectCorrectionOutput sampleOutput sampleOutput sampleSha [js "F1"] (js "attempt")).valid := by
    rw [projected]
    exact mem_singleton_self _
  exact (@corrections_keep_judgement ⟨id⟩).1 _ member

end CouncilKit.Review
