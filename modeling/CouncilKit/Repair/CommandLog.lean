import CouncilKit.Data.FencedLines
import CouncilKit.Data.NumberText
import CouncilKit.Data.Utf8Encode
import CouncilKit.Repair.GroupBuild

namespace CouncilKit.Repair

open Data Data.JsString Review

structure CommandRun where
  exitCode : Int
  stdout : JsString
  stderr : JsString
  snapshotSha : JsString
  cwd : JsString
  dirtyTree : Bool
  cacheKey : JsString
  command : JsString

inductive HeaderField where
  | exit | cwd | sha | dirty | cache | command
deriving DecidableEq

namespace HeaderField

def mark : HeaderField → JsString
  | .exit => js "exit="
  | .cwd => js "cwd="
  | .sha => js "sha="
  | .dirty => js "dirty="
  | .cache => js "cache="
  | .command => js "command="

def all : List HeaderField := [.exit, .cwd, .sha, .dirty, .cache, .command]

end HeaderField

def LINE_FEED : CodeUnit := 0xA

def HEADER_END : JsString := js "---"

namespace CommandRun

variable (run : CommandRun)

def body : JsString :=
  if run.stdout ≠ [] ∧ run.stderr ≠ [] ∧ run.stdout.getLast? ≠ some LINE_FEED then
    run.stdout ++ LINE_FEED :: run.stderr
  else run.stdout ++ run.stderr

variable [Unicode]

/-- The text that `writeCommandLog` writes. -/
def commandLog : JsString :=
  js "exit=" ++ .ofInt run.exitCode ++ js "\ncwd=" ++ run.cwd ++
    js "\nsha=" ++ toLowerCase run.snapshotSha ++
    js "\ndirty=" ++ (if run.dirtyTree then js "1" else js "0") ++
    js "\ncache=" ++ run.cacheKey ++ js "\ncommand=" ++ run.command ++ js "\n---\n" ++ run.body

def storedLog : JsString := Utf8.decode (Utf8.encode run.commandLog)

end CommandRun

/-- One alternative of the pattern; its value ends before a line terminator. -/
def fieldLine (line : JsString) (field : HeaderField) : Option (HeaderField × JsString) :=
  let value := line.drop field.mark.length
  if field.mark.isPrefixOf line && value.all fun unit => !Regex.isLineTerminator unit then
    some (field, value)
  else none

/-- `/^(exit|cwd|sha|dirty|cache|command)=(.*)$/` -/
def headerLine (line : JsString) : Option (HeaderField × JsString) :=
  HeaderField.all.findSome? (fieldLine line)

abbrev LogHeader := HeaderField → Option JsString

def readHeader (header : LogHeader) : List JsString → LogHeader × List JsString
  | [] => (header, [])
  | line :: rest =>
    if line = HEADER_END then (header, line :: rest)
    else match headerLine line with
      | none => (header, line :: rest)
      | some (field, value) => readHeader (Function.update header field (some value)) rest

structure CommandLogMetadata where
  exitCode : Int
  cwd : JsString
  snapshotSha : JsString
  dirtyTree : Bool
  cacheKey : JsString
  command : JsString
  output : JsString

def CommandLogMetadata.facts (metadata : CommandLogMetadata) : CommandLogMetadata :=
  { metadata with output := [] }

section

variable [Unicode]

def metadataOf (header : LogHeader) (output : JsString) : Option CommandLogMetadata :=
  let snapshotSha := toLowerCase ((header .sha).getD [])
  let cacheKey := (header .cache).getD []
  let cwd := (header .cwd).getD []
  match (header .exit).bind integerOfText with
  | none => none
  | some exitCode =>
    if !FULL_COMMIT_SHA snapshotSha then none
    else if !isSha256 cacheKey || cwd = [] then none
    else if header .dirty ≠ some (js "0") ∧ header .dirty ≠ some (js "1") then none
    else some {
      exitCode, cwd, snapshotSha, cacheKey, output
      dirtyTree := header .dirty = some (js "1")
      command := (header .command).getD [] }

def parseCommandLogMetadata (log : JsString) : Option CommandLogMetadata :=
  let (header, rest) := readHeader (fun _ => none) (splitOn LINE_FEED log)
  metadataOf header (if rest.head? = some HEADER_END then join [LINE_FEED] rest.tail else [])

structure TestLogReading where
  skipped : Bool
  ranZeroTests : Bool
  failed : Bool

structure LoggedCommand where
  assertionId : JsString
  command : JsString
  cwd : JsString
  snapshotSha : JsString
  testAssetVersion : JsString
  cacheKey : JsString

/-- The receipt of a log that was read; `interpretTestLog` looks at the output alone. -/
def receiptFromIsolatedLog (interpretTestLog : JsString → JsString → Int → TestLogReading)
    (input : LoggedCommand) (log : JsString) : Option VerificationAsset :=
  (parseCommandLogMetadata log).bind fun metadata =>
    if metadata.snapshotSha ≠ toLowerCase input.snapshotSha then none
    else if metadata.cacheKey ≠ input.cacheKey then none
    else if metadata.cwd ≠ input.cwd then none
    else if metadata.command ≠ input.command then none
    else
      let interpreted := interpretTestLog metadata.output [] metadata.exitCode
      some {
        assertionId := input.assertionId
        snapshotSha := metadata.snapshotSha
        testAssetVersion := input.testAssetVersion
        extraProbesDeclared := false
        extraProbeManifestVersion := some EMPTY_EXTRA_PROBE_MANIFEST
        kind := some .command_receipt
        receipts := [{
          command := some metadata.command
          cwd := some metadata.cwd
          exitCode := some metadata.exitCode
          snapshotSha := metadata.snapshotSha
          testAssetVersion := input.testAssetVersion
          dirtyTree := metadata.dirtyTree
          skipped := interpreted.skipped
          ranZeroTests := interpreted.ranZeroTests
          failed := some interpreted.failed
          role := .independent_adjudicator
          executionSource := some .ck_isolated_run }] }

end

end CouncilKit.Repair
