import Mathlib
import CouncilKit.Repair.CommandLog

namespace CouncilKit.Repair

open Data Data.JsString Data.Utf8 Review Regex CommandRun Option

def isHeaderText (text : JsString) : Bool :=
  text.all (fun unit => !isLineTerminator unit) && wellFormed text = text

section

variable {header : LogHeader} {line : JsString} {lines rest : List JsString} {field : HeaderField}
  {value : JsString}

theorem fieldLine_own (field : HeaderField) (value : JsString) :
    fieldLine (field.mark ++ value) field =
      if value.all fun unit => !isLineTerminator unit then some (field, value) else none := by
  have own : List.isPrefixOf field.mark (field.mark ++ value) = true := by simp
  simp only [fieldLine, own, Bool.true_and, List.drop_left]

theorem fieldLine_other {other : HeaderField} (different : other ≠ field) (value : JsString) :
    fieldLine (field.mark ++ value) other = none := by
  have apart : List.isPrefixOf other.mark (field.mark ++ value) = false := by
    cases other <;> cases field <;> first | rfl | exact absurd rfl different
  rw [fieldLine, apart, Bool.false_and]
  rfl

theorem headerLine_mark (field : HeaderField) (value : JsString) :
    headerLine (field.mark ++ value) =
      if value.all fun unit => !isLineTerminator unit then some (field, value) else none := by
  rw [← fieldLine_own]
  cases own : fieldLine (field.mark ++ value) field with
  | none =>
    refine List.findSome?_eq_none_iff.mpr fun other _ => ?_
    by_cases same : other = field
    · rwa [same]
    · exact fieldLine_other same value
  | some read =>
    cases field <;> simp [headerLine, HeaderField.all, fieldLine_other, own]

theorem headerLine_single (found : headerLine line = some (field, value)) :
    value.all (fun unit => !isLineTerminator unit) = true := by
  obtain ⟨tried, -, given⟩ := List.exists_of_findSome?_eq_some found
  rw [fieldLine] at given
  split at given
  · rename_i passed
    cases given
    exact (Bool.and_eq_true_iff.mp passed).2
  · cases given

theorem readHeader_marker (header : LogHeader) (lines rest : List JsString) :
    (readHeader header (lines ++ HEADER_END :: rest)).1 =
      (readHeader header (lines ++ [HEADER_END])).1 := by
  induction lines generalizing header with
  | nil => rw [List.nil_append, List.nil_append, readHeader, readHeader, if_pos rfl, if_pos rfl]
  | cons line lines ih =>
    rw [List.cons_append, List.cons_append, readHeader, readHeader]
    split
    · rfl
    · split
      · rfl
      · exact ih _

theorem readHeader_single (given : ∀ field value, header field = some value →
      value.all (fun unit => !isLineTerminator unit) = true)
    (found : (readHeader header lines).1 field = some value) :
    value.all (fun unit => !isLineTerminator unit) = true := by
  induction lines generalizing header with
  | nil => exact given field value found
  | cons line lines ih =>
    rw [readHeader] at found
    split at found
    · exact given field value found
    · split at found
      · exact given field value found
      · rename_i written text read
        refine ih ?_ found
        intro other content stored
        by_cases same : other = written
        · subst same
          rw [Function.update_self, some_inj] at stored
          exact stored ▸ headerLine_single read
        · rw [Function.update_of_ne same] at stored
          exact given other content stored

theorem readHeader_line (field : HeaderField) (single : value.all (fun unit =>
      !isLineTerminator unit) = true) :
    readHeader header ((field.mark ++ value) :: rest) =
      readHeader (Function.update header field (some value)) rest := by
  have notEnd : field.mark ++ value ≠ HEADER_END := by
    intro same
    have opens : field.mark.head? ≠ HEADER_END.head? := by cases field <;> decide
    have heads := congrArg List.head? same
    rw [List.head?_append_of_ne_nil _ (by cases field <;> decide)] at heads
    exact opens heads
  rw [readHeader, if_neg notEnd, headerLine_mark, if_pos single]

end

section

variable [Unicode] {run : CommandRun}

/-- The facts that the verifier records: a small exit code, a commit, a digest and a
directory. -/
structure CommandRun.Recorded (run : CommandRun) : Prop where
  exitCode : run.exitCode.natAbs ≤ 2 ^ 53
  snapshotSha : FULL_SHA run.snapshotSha = true
  cacheKey : isSha256 run.cacheKey = true
  cwd : run.cwd ≠ []

def CommandRun.dirtyText (run : CommandRun) : JsString := if run.dirtyTree then js "1" else js "0"

def CommandRun.front (run : CommandRun) : JsString :=
  HeaderField.exit.mark ++ .ofInt run.exitCode ++ LINE_FEED ::
    (HeaderField.cwd.mark ++ run.cwd ++ LINE_FEED ::
      (HeaderField.sha.mark ++ toLowerCase run.snapshotSha ++ LINE_FEED ::
        (HeaderField.dirty.mark ++ run.dirtyText ++ LINE_FEED ::
          (HeaderField.cache.mark ++ run.cacheKey ++ LINE_FEED ::
            (HeaderField.command.mark ++ run.command)))))

theorem commandLog_eq (run : CommandRun) : run.commandLog =
    run.front ++ LINE_FEED :: (HEADER_END ++ LINE_FEED :: run.body) := by
  have named (field : HeaderField) (text : String) (same : js text = LINE_FEED :: field.mark)
      (rest : JsString) : js text ++ rest = LINE_FEED :: (field.mark ++ rest) := by
    rw [same, List.cons_append]
  have opens : js "\n---\n" = LINE_FEED :: (HEADER_END ++ [LINE_FEED]) := rfl
  simp only [commandLog, front, dirtyText, opens,
    named .cwd "\ncwd=" rfl, named .sha "\nsha=" rfl, named .dirty "\ndirty=" rfl,
    named .cache "\ncache=" rfl, named .command "\ncommand=" rfl, List.append_assoc,
    List.cons_append, List.nil_append, HeaderField.mark]

omit [Unicode] in
theorem line_feed_plain : isSurrogate LINE_FEED = false := rfl

theorem storedLog_eq (run : CommandRun) : run.storedLog =
    wellFormed run.front ++ LINE_FEED :: (HEADER_END ++ LINE_FEED :: wellFormed run.body) := by
  have marker : wellFormed HEADER_END = HEADER_END := wellFormed_ascii (List.all_iff_forall_prop.mp (by decide))
  rw [storedLog, decode_encode, commandLog_eq, wellFormed_append line_feed_plain,
    wellFormed_append line_feed_plain, marker]

theorem lines_storedLog (run : CommandRun) : splitOn LINE_FEED run.storedLog =
    splitOn LINE_FEED (wellFormed run.front) ++ HEADER_END :: splitOn LINE_FEED (wellFormed run.body) := by
  have single : splitOn LINE_FEED HEADER_END = [HEADER_END] := splitOn_single (by decide)
  rw [storedLog_eq, splitOn_append, splitOn_append, single]
  rfl

theorem facts_front {first second : CommandRun} (same : first.front = second.front) :
    (parseCommandLogMetadata first.storedLog).map (·.facts) =
      (parseCommandLogMetadata second.storedLog).map (·.facts) := by
  have outputs (header : LogHeader) (output other : JsString) :
      (metadataOf header output).map (·.facts) = (metadataOf header other).map (·.facts) := by
    simp only [metadataOf]
    split
    · rfl
    · repeat' split
      all_goals rfl
  simp only [parseCommandLogMetadata]
  rw [lines_storedLog, lines_storedLog, same,
    readHeader_marker _ _ (splitOn LINE_FEED (wellFormed first.body)),
    readHeader_marker _ _ (splitOn LINE_FEED (wellFormed second.body))]
  exact outputs _ _ _

section

omit [Unicode]

theorem isLine_hex {text : JsString} (hex : text.all isHex = true) :
    text.all (fun unit => !isLineTerminator unit) = true ∧ ∀ unit ∈ text, unit < 0x80 := by
  have one (unit : CodeUnit) (hex : isHex unit = true) : unit < 0x80 ∧ (!isLineTerminator unit) = true := by
    have lower := hex
    simp only [isHex, Bool.or_eq_true, Bool.and_eq_true, decide_eq_true_eq,
      UInt16.le_iff_toNat_le, UInt16.reduceToNat] at lower
    refine ⟨UInt16.lt_iff_toNat_lt.mpr (by change unit.toNat < 0x80; omega), ?_⟩
    have other (terminator : CodeUnit) (plain : isHex terminator = false) : unit ≠ terminator := by
      intro same
      rw [same, plain] at hex
      contradiction
    simp [isLineTerminator, other 0xA rfl, other 0xD rfl, other 0x2028 rfl, other 0x2029 rfl]
  rw [List.all_eq_true] at hex
  exact ⟨List.all_eq_true.mpr fun unit member => (one unit (hex unit member)).2,
    fun unit member => (one unit (hex unit member)).1⟩

theorem isHex_of_isDigit {unit : CodeUnit} (digit : isDigit unit = true) :
    isHex unit = true := by
  rw [isHex, Bool.or_eq_true]
  exact .inl digit

theorem isLine_ofInt (value : Int) :
    (ofInt value).all (fun unit => !isLineTerminator unit) = true ∧ ∀ unit ∈ ofInt value, unit < 0x80 := by
  have digits (value : Nat) : (ofNat value).all isHex = true :=
    List.all_eq_true.mpr fun unit member => isHex_of_isDigit (isDigit_ofNat member)
  cases value with
  | ofNat value => exact isLine_hex (digits value)
  | negSucc value =>
    obtain ⟨line, ascii⟩ := isLine_hex (digits (value + 1))
    have dash : ofInt (.negSucc value) = 0x2D :: ofNat (value + 1) := rfl
    rw [dash]
    refine ⟨by rw [List.all_cons, line]; rfl, fun unit member => ?_⟩
    cases member with
    | head => decide
    | tail _ later => exact ascii unit later

theorem splitOn_field (field : HeaderField) {value : JsString}
    (line : value.all (fun unit => !isLineTerminator unit) = true) :
    splitOn LINE_FEED (field.mark ++ value) = [field.mark ++ value] := by
  apply splitOn_single
  intro member
  rcases List.mem_append.mp member with marked | valued
  · exact absurd marked (by cases field <;> decide)
  · exact absurd (List.all_eq_true.mp line _ valued) (by decide)

theorem wellFormed_field (field : HeaderField) (value : JsString) :
    wellFormed (field.mark ++ value) = field.mark ++ wellFormed value :=
  wellFormed_ascii_append (by cases field <;> exact List.all_iff_forall_prop.mp (by decide)) value

end

abbrev CommandRun.headerText (run : CommandRun) : HeaderField → JsString
  | .exit => ofInt run.exitCode
  | .cwd => wellFormed run.cwd
  | .sha => toLowerCase run.snapshotSha
  | .dirty => run.dirtyText
  | .cache => run.cacheKey
  | .command => wellFormed run.command

theorem metadata_lines (recorded : run.Recorded)
    (cwd : run.cwd.all (fun unit => !isLineTerminator unit) = true)
    (command : run.command.all (fun unit => !isLineTerminator unit) = true) :
    parseCommandLogMetadata run.storedLog = some {
      exitCode := run.exitCode
      cwd := wellFormed run.cwd
      snapshotSha := toLowerCase run.snapshotSha
      dirtyTree := run.dirtyTree
      cacheKey := run.cacheKey
      command := wellFormed run.command
      output := wellFormed run.body } := by
  have line_feed : (!isLineTerminator replacement) = true := by decide
  have surrogates : ∀ unit, isSurrogate unit = true → (!isLineTerminator unit) = true := by
    intro unit surrogate
    have other (terminator : CodeUnit) (plain : isSurrogate terminator = false) : unit ≠ terminator := by
      intro same
      rw [same, plain] at surrogate
      contradiction
    simp [isLineTerminator, other 0xA rfl, other 0xD rfl, other 0x2028 rfl, other 0x2029 rfl]
  have cwdLine := (all_wellFormed line_feed surrogates run.cwd).trans cwd
  have commandLine := (all_wellFormed line_feed surrogates run.command).trans command
  obtain ⟨exitLine, exitAscii⟩ := isLine_ofInt run.exitCode
  have sha := FULL_COMMIT_SHA_toLowerCase recorded.snapshotSha
  have shaHex := (Bool.and_eq_true_iff.mp sha).2
  have keyHex := (Bool.and_eq_true_iff.mp recorded.cacheKey).2
  have dirty : run.dirtyText.all isHex = true := by
    cases flag : run.dirtyTree <;> rw [dirtyText, flag] <;> rfl
  have front : wellFormed run.front =
      HeaderField.exit.mark ++ ofInt run.exitCode ++ LINE_FEED ::
        (HeaderField.cwd.mark ++ wellFormed run.cwd ++ LINE_FEED ::
          (HeaderField.sha.mark ++ toLowerCase run.snapshotSha ++ LINE_FEED ::
            (HeaderField.dirty.mark ++ run.dirtyText ++ LINE_FEED ::
              (HeaderField.cache.mark ++ run.cacheKey ++ LINE_FEED ::
                (HeaderField.command.mark ++ wellFormed run.command))))) := by
    rw [front, wellFormed_append line_feed_plain, wellFormed_append line_feed_plain,
      wellFormed_append line_feed_plain, wellFormed_append line_feed_plain,
      wellFormed_append line_feed_plain, wellFormed_field, wellFormed_field, wellFormed_field,
      wellFormed_field, wellFormed_field, wellFormed_field, wellFormed_ascii exitAscii,
      wellFormed_ascii (isLine_hex shaHex).2, wellFormed_ascii (isLine_hex dirty).2,
      wellFormed_ascii (isLine_hex keyHex).2]
  have lines : splitOn LINE_FEED (wellFormed run.front) =
      [HeaderField.exit.mark ++ ofInt run.exitCode, HeaderField.cwd.mark ++ wellFormed run.cwd,
        HeaderField.sha.mark ++ toLowerCase run.snapshotSha,
        HeaderField.dirty.mark ++ run.dirtyText, HeaderField.cache.mark ++ run.cacheKey,
        HeaderField.command.mark ++ wellFormed run.command] := by
    rw [front, splitOn_append, splitOn_append, splitOn_append, splitOn_append, splitOn_append,
      splitOn_field _ exitLine, splitOn_field _ cwdLine, splitOn_field _ (isLine_hex shaHex).1,
      splitOn_field _ (isLine_hex dirty).1, splitOn_field _ (isLine_hex keyHex).1,
      splitOn_field _ commandLine]
    rfl
  have someCwd : wellFormed run.cwd ≠ [] := by
    have length := List.length_pos_iff.mpr recorded.cwd
    rw [← length_wellFormed] at length
    exact List.length_pos_iff.mp length
  have header : readHeader (fun _ => none) (splitOn LINE_FEED run.storedLog) =
      (fun field => some (run.headerText field),
        HEADER_END :: splitOn LINE_FEED (wellFormed run.body)) := by
    rw [lines_storedLog, lines]
    simp only [List.cons_append, List.nil_append]
    rw [readHeader_line _ exitLine, readHeader_line _ cwdLine, readHeader_line _ (isLine_hex shaHex).1,
      readHeader_line _ (isLine_hex dirty).1, readHeader_line _ (isLine_hex keyHex).1,
      readHeader_line _ commandLine, readHeader, if_pos rfl, Prod.mk.injEq]
    refine ⟨funext fun field => ?_, rfl⟩
    cases field <;> rfl
  have flag : run.dirtyText = js "0" ∨ run.dirtyText = js "1" := by
    cases dirtyTree : run.dirtyTree
    · exact .inl (by rw [dirtyText, dirtyTree]; rfl)
    · exact .inr (by rw [dirtyText, dirtyTree]; rfl)
  have read : decide (some run.dirtyText = some (js "1")) = run.dirtyTree := by
    cases dirtyTree : run.dirtyTree <;> rw [dirtyText, dirtyTree] <;> rfl
  have output : join [LINE_FEED] (splitOn LINE_FEED (wellFormed run.body)) = wellFormed run.body :=
    joinLines_splitOn _
  rw [parseCommandLogMetadata, header]
  simp only [List.head?_cons, if_true, List.tail_cons, output, metadataOf, headerText, bind_some,
    getD_some, integerOfText_ofInt recorded.exitCode, FULL_COMMIT_SHA_lower sha, sha,
    recorded.cacheKey, someCwd, Bool.not_true, Bool.false_eq_true, if_false, decide_false,
    Bool.or_false, read]
  rw [if_neg]
  rcases flag with clean | dirty
  · simp [clean]
  · simp [dirty]

theorem lines_of_metadata {log : JsString} {metadata : CommandLogMetadata}
    (parsed : parseCommandLogMetadata log = some metadata) :
    metadata.cwd.all (fun unit => !isLineTerminator unit) = true ∧
      metadata.command.all (fun unit => !isLineTerminator unit) = true := by
  simp only [parseCommandLogMetadata] at parsed
  have single (field : HeaderField) : (((readHeader (fun _ => none) (splitOn LINE_FEED log)).1
      field).getD []).all (fun unit => !isLineTerminator unit) = true := by
    cases found : (readHeader (fun _ => none) (splitOn LINE_FEED log)).1 field with
    | none => rfl
    | some value => exact readHeader_single (fun _ _ given => by cases given) found
  simp only [metadataOf] at parsed
  split at parsed
  · cases parsed
  · split at parsed
    · cases parsed
    · split at parsed
      · cases parsed
      · split at parsed
        · cases parsed
        · obtain rfl := some_inj.mp parsed
          exact ⟨single .cwd, single .command⟩

def CommandRun.metadata (run : CommandRun) : CommandLogMetadata where
  exitCode := run.exitCode
  cwd := run.cwd
  snapshotSha := toLowerCase run.snapshotSha
  dirtyTree := run.dirtyTree
  cacheKey := run.cacheKey
  command := run.command
  output := wellFormed run.body

def CommandRun.logged (run : CommandRun) (assertionId testAssetVersion : JsString) : LoggedCommand where
  assertionId := assertionId
  command := run.command
  cwd := run.cwd
  snapshotSha := run.snapshotSha
  testAssetVersion := testAssetVersion
  cacheKey := run.cacheKey

/-- The log of a recorded run gives its metadata back, and a receipt, exactly when its
directory and its command are single lines of well formed text; and what the program
prints changes none of the facts of any run. -/
theorem command_log_read (interpretTestLog : JsString → JsString → Int → TestLogReading)
    (assertionId testAssetVersion : JsString) (recorded : run.Recorded) :
    ((parseCommandLogMetadata run.storedLog = some run.metadata ∧
        (receiptFromIsolatedLog interpretTestLog (run.logged assertionId testAssetVersion)
          run.storedLog).isSome = true) ↔
      isHeaderText run.cwd = true ∧ isHeaderText run.command = true) ∧
    ∀ stdout stderr,
      (parseCommandLogMetadata { run with stdout, stderr }.storedLog).map (·.facts) =
        (parseCommandLogMetadata run.storedLog).map (·.facts) := by
  refine ⟨⟨fun ⟨parsed, _⟩ => ?_, fun ⟨cwd, command⟩ => ?_⟩, fun stdout stderr => facts_front rfl⟩
  · obtain ⟨cwd, command⟩ := lines_of_metadata parsed
    have stored := metadata_lines recorded cwd command
    rw [parsed, some_inj, metadata, CommandLogMetadata.mk.injEq] at stored
    simp only [isHeaderText, Bool.and_eq_true, decide_eq_true_eq]
    exact ⟨⟨cwd, stored.2.1.symm⟩, command, stored.2.2.2.2.2.1.symm⟩
  · simp only [isHeaderText, Bool.and_eq_true, decide_eq_true_eq] at cwd command
    have stored := metadata_lines recorded cwd.1 command.1
    rw [cwd.2, command.2] at stored
    have parsed : parseCommandLogMetadata run.storedLog = some run.metadata := stored
    refine ⟨parsed, ?_⟩
    rw [receiptFromIsolatedLog, parsed]
    simp [metadata, logged]

end

section

attribute [local instance] Unicode.ascii

def testRun : CommandRun where
  exitCode := 0
  stdout := js "exit=1\ncommand=true\n"
  stderr := []
  snapshotSha := List.replicate 40 0x61
  cwd := js "/work"
  dirtyTree := false
  cacheKey := List.replicate 64 0x62
  command := js "npm test"

def scriptRun : CommandRun := { testRun with command := js "npm ci\nnpm test" }

theorem testRun_recorded : testRun.Recorded := ⟨by decide, by decide, by decide, by decide⟩

def silentReading (_ _ : JsString) (_ : Int) : TestLogReading := ⟨false, false, false⟩

theorem command_log_read_test :
    testRun.Recorded ∧ parseCommandLogMetadata testRun.storedLog = some testRun.metadata :=
  ⟨testRun_recorded, ((command_log_read silentReading (js "A1") (js "v1") testRun_recorded).1.mpr
    ⟨by decide, by decide⟩).1⟩

theorem script_log_unread :
    scriptRun.Recorded ∧ parseCommandLogMetadata scriptRun.storedLog ≠ some scriptRun.metadata ∧
      receiptFromIsolatedLog silentReading (scriptRun.logged (js "A1") (js "v1"))
        scriptRun.storedLog = none := by
  have lines : ¬ scriptRun.command.all (fun unit => !isLineTerminator unit) = true := by decide
  refine ⟨⟨by decide, by decide, by decide, by decide⟩, fun parsed => ?_, ?_⟩
  · exact lines (lines_of_metadata parsed).2
  · cases parsed : parseCommandLogMetadata scriptRun.storedLog with
    | none => rw [receiptFromIsolatedLog, parsed, bind_none]
    | some metadata =>
      have other : metadata.command ≠ (scriptRun.logged (js "A1") (js "v1")).command := by
        intro same
        have single := (lines_of_metadata parsed).2
        rw [same] at single
        exact lines single
      rw [receiptFromIsolatedLog, parsed, bind_some]
      simp only [other, ne_eq, not_false_eq_true, if_true, ite_self]

end

end CouncilKit.Repair
