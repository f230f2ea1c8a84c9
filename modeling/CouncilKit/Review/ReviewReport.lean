import CouncilKit.Review.CommandText
import CouncilKit.Review.Verdict

namespace CouncilKit.Review

open Data Data.JsString

inductive AttemptStatus where
  | success | failure
deriving DecidableEq

structure AttemptFailure where
  code : JsString
  message : JsString

structure AttemptActivity where
  toolCalls : Nat
  commands : List JsString
  strippedProxy : Bool := false

structure AttemptResult where
  agentName : JsString
  driverId : JsString
  modelId : JsString
  status : AttemptStatus
  output : JsString
  durationMs : Int
  failure : Option AttemptFailure := none
  activity : Option AttemptActivity := none
  reused : Bool := false
  retryOf : Option Nat := none
  resumedAfterFailure : Bool := false

structure ReviewTask where
  pr : Option JsString := none
  task : Option JsString := none
  focus : Option JsString := none

structure ReviewReportMeta where
  agentName : JsString
  driverId : JsString
  modelId : JsString

inductive ReviewStatus where
  | completed | failed | interrupted
deriving DecidableEq

abbrev Line := { text : JsString // text.SingleLine }

structure ReviewReportInput where
  runId : Line
  startedAt : Line
  endedAt : Line
  task : ReviewTask
  attempts : List AttemptResult
  aggregator : ReviewReportMeta
  aggregation : Option AttemptResult
  status : ReviewStatus
  incomplete : Bool
  reason : Option JsString := none
  failurePhase : Option JsString := none

/-- `text.replace(/\s+/g, " ")` -/
def collapseSpaces : JsString → JsString
  | [] => []
  | unit :: rest =>
    if isSpace unit then
      if rest.head?.any isSpace then collapseSpaces rest else 0x20 :: collapseSpaces rest
    else unit :: collapseSpaces rest

def oneLine (text : JsString) : JsString := trim (collapseSpaces text)

/-- `text.replace(/[\r\n]+/g, " ")` -/
def collapseBreaks : JsString → JsString
  | [] => []
  | unit :: rest =>
    if unit = 0xA ∨ unit = 0xD then
      if rest.head?.any (fun next => next == 0xA || next == 0xD) then collapseBreaks rest
      else 0x20 :: collapseBreaks rest
    else unit :: collapseBreaks rest

def escapeCell (unit : CodeUnit) : JsString :=
  if unit = 0x5C ∨ unit = 0x7C then [0x5C, unit] else [unit]

/-- A value that never splits its row: backslashes and pipes escaped, breaks folded. -/
def cell (value : JsString) : JsString := collapseBreaks (value.flatMap escapeCell)

def pad2 (n : Nat) : JsString := if n < 10 then js "0" ++ .ofNat n else .ofNat n

def formatDurationMs (ms : Int) : JsString :=
  let totalSeconds := (ms / 1000).toNat
  let seconds := totalSeconds % 60
  let totalMinutes := totalSeconds / 60
  let minutes := totalMinutes % 60
  let hours := totalMinutes / 60
  if 0 < hours then .ofNat hours ++ js "h" ++ pad2 minutes ++ js "m" ++ pad2 seconds ++ js "s"
  else if 0 < totalMinutes then .ofNat minutes ++ js "m" ++ pad2 seconds ++ js "s"
  else .ofNat seconds ++ js "s"

def present (text : Option JsString) : Option JsString := (text.map trim).filter (· ≠ [])

def taskLine (task : ReviewTask) : JsString :=
  match present task.pr, present task.task with
  | some pr, _ => js "review PR " ++ pr
  | none, some text => text
  | none, none => js "(unspecified)"

def attemptRow (a : AttemptResult) : JsString :=
  let result := match a.status with
    | .success => js "ok"
    | .failure => js "failed:" ++ (a.failure.map (·.code)).getD (js "unknown")
  let toolCalls := (a.activity.map fun activity => .ofNat activity.toolCalls).getD (js "无过程数据")
  js "| " ++ cell a.agentName ++ js " | " ++ cell (a.driverId ++ js "/" ++ a.modelId) ++ js " | " ++
    cell result ++ js " | " ++ cell (formatDurationMs a.durationMs) ++ js " | " ++ cell toolCalls ++
    js " |"

def renderAttemptsTable (attempts : List AttemptResult) : List JsString :=
  [js "| Attempt | Driver/Model | 结果 | 耗时 | 工具调用 |", js "| --- | --- | --- | --- | --- |"] ++
    attempts.map attemptRow

variable (input : ReviewReportInput)

def statusLabel : JsString :=
  match input.status with
  | .interrupted => js "interrupted"
  | .failed => js "failed"
  | .completed => if input.incomplete then js "partial" else js "complete"

/-- `name (driver/model)` -/
def seat (name driverId modelId : JsString) : JsString :=
  oneLine name ++ js " (" ++ oneLine driverId ++ js "/" ++ oneLine modelId ++ js ")"

def field (label : String) (value : JsString) : JsString := js "- " ++ js label ++ js ": " ++ value

def headerLines : List JsString :=
  [js "# Autonomous Review Report", [], field "Run" input.runId.val,
    field "Task" (oneLine (taskLine input.task))] ++
  ((present input.task.focus).toList.map fun focus => field "Focus" (oneLine focus)) ++
  [field "Aggregator"
      (seat input.aggregator.agentName input.aggregator.driverId input.aggregator.modelId), []] ++
  renderAttemptsTable input.attempts ++ [field "Status" (statusLabel input)] ++
  ((present input.reason).toList.map fun reason => field "Reason" (oneLine reason)) ++
  [field "Started" input.startedAt.val, field "Ended" input.endedAt.val, []]

def renderHeader : JsString := joinLines (headerLines input)

def rawDeliverables : JsString :=
  js "What follows is the deterministic header plus each Attempt's raw deliverable in the " ++
    js "appendix; no consensus is fabricated."

def incompleteBanner : JsString :=
  if input.status = .interrupted then
    js "> INCOMPLETE — the run was interrupted before a synthesis could be produced. " ++ rawDeliverables
  else if input.aggregation = none ∧ input.failurePhase ≠ some (js "aggregation") ∧
      input.failurePhase ≠ some (js "attempts") then
    js "> INCOMPLETE — the run stopped before the Aggregator could start (" ++
      oneLine ((present input.reason).getD (js "see transcript")) ++ js "). " ++ rawDeliverables
  else if input.attempts.any (·.status = .success) then
    js "> INCOMPLETE — the Aggregator failed to produce a synthesis. " ++ rawDeliverables
  else
    js "> INCOMPLETE — every Attempt failed, so no Aggregator was run. What follows is the " ++
      js "deterministic header plus each Attempt's failure in the appendix; no consensus is " ++
      js "fabricated."

variable (a : AttemptResult)

def reusedMark : JsString := if a.reused then js " [reused]" else []

def processLine : JsString :=
  let head := js "- " ++ seat a.agentName a.driverId a.modelId ++ reusedMark a ++ js " — " ++
    formatDurationMs a.durationMs
  match a.activity with
  | none => head ++ js " — 无过程数据"
  | some activity =>
    let rendered := dedupCommands activity.commands
    let commandSeg :=
      if rendered = [] then []
      else js " — " ++ join (js "; ") (rendered.map fun command => codeSpan command.1)
    head ++ js " — 工具调用 " ++ .ofNat activity.toolCalls ++ js " 次" ++ commandSeg

def omitsProxy : Bool :=
  a.activity.any fun activity =>
    activity.strippedProxy || (dedupCommands activity.commands).any (·.2)

def PROCESS_HEADING : JsString := js "## 过程对比"

def processLines (attempts : List AttemptResult) : List JsString :=
  PROCESS_HEADING ::
    ((if attempts.any omitsProxy then
        [js "> 已省略命令前的 NO_PROXY/HTTPS_PROXY/HTTP_PROXY 等代理前缀。", []]
      else []) ++ [[]] ++ attempts.map processLine ++ [[]])

def renderProcessComparison (attempts : List AttemptResult) : JsString :=
  joinLines (processLines attempts)

/-- `/^( {0,3})(#{1,6})(?=[ \t]|$)(.*)$/`, with two more marks. -/
def downgradeHeading (line : JsString) : JsString :=
  let indent := (line.takeWhile (· == 0x20)).length
  let text := line.drop indent
  let marks := (text.takeWhile (· == 0x23)).length
  let rest := text.drop marks
  if indent ≤ 3 ∧ 1 ≤ marks ∧ marks ≤ 6 ∧ rest.head?.all (fun unit => unit == 0x20 || unit == 0x9) ∧
      !rest.any Regex.isLineTerminator then
    line.take indent ++ js "##" ++ text
  else line

/-- The lines outside fences with their headings two levels down, and the fence
left open at the end. -/
def downgradeLines : Option Fence → List JsString → List JsString
  | none, [] => []
  | some fence, [] =>
    [List.replicate fence.indent 0x20 ++ List.replicate (max 3 fence.length) fence.char]
  | fence, line :: rest =>
    let kept := if fence.isSome || (fenceOpen line).isSome then line else downgradeHeading line
    kept :: downgradeLines (fenceAfterLine fence line) rest

def downgradeHeadingsOutsideFences (text : JsString) : JsString :=
  joinLines (downgradeLines none (linesOf text))

def deliverableText : JsString :=
  if a.status = .success ∧ trim a.output ≠ [] then
    downgradeHeadingsOutsideFences (trimEnd a.output)
  else
    js "failed: " ++ (a.failure.map (·.code)).getD (js "unknown") ++ js " — " ++
      (downgradeHeadingsOutsideFences ((a.failure.map (·.message)).getD (js "no output"))).map
        fun unit => if unit = 0xA then 0x20 else unit

def appendixEntry : List JsString :=
  [js "### " ++ seat a.agentName a.driverId a.modelId ++ reusedMark a, []] ++
    (if a.retryOf.isSome then [js "> 第 1 次尝试（失败，已重试）", []] else []) ++
    (if a.resumedAfterFailure then [js "> 上一轮失败，resume 重跑后的交付物", []] else []) ++
    [deliverableText a, []]

def renderAppendix (attempts : List AttemptResult) : JsString :=
  joinLines ([js "## 附录:各审查者交付物", []] ++
    if attempts = [] then [js "_(no attempts ran.)_", []] else attempts.flatMap appendixEntry)

def synthesis : Option JsString :=
  input.aggregation.bind fun aggregation =>
    if aggregation.status = .success then present (some aggregation.output) else none

def reportSections : List JsString :=
  [renderHeader input] ++
    (match synthesis input with
      | some body => [js "---", [], body, []]
      | none => [incompleteBanner input, []]) ++
    [renderProcessComparison input.attempts, renderAppendix input.attempts]

def renderReviewReport : JsString := joinLines (reportSections input)

end CouncilKit.Review
