import CouncilKit.Review.VerdictSeam

namespace CouncilKit.Review

open Data Data.JsString Data.Regex

/-- The fence walk of `markdownLinesLf`, where a bare CR stays on its line. -/
def markdownLinesLf (markdown : JsString) : List (JsString × Bool) :=
  fenceWalk none (splitOn 0xA markdown)

/-- `/^## (.+)$/`, the title trimmed. -/
def sectionTitle (line : JsString) : Option JsString :=
  match afterPrefix (js "## ") line with
  | none => none
  | some [] => none
  | some title => if title.any isLineTerminator then none else some (trim title)

/-- `/([^\n#])(## (?:概览|共识发现|独有发现|分歧|结论|过程对比|附录))/g` -/
def GLUED_HEADING : Regex :=
  all [.capture 1 (noneOf (js "\n#")),
    .capture 2 (all [lit (js "## "), any (["概览", "共识发现", "独有发现", "分歧", "结论", "过程对比",
      "附录"].map fun title => lit (js title))])]

def unglue (line : JsString) : JsString :=
  replaceAll GLUED_HEADING (fun found =>
    (found.group 1).getD [] ++ [0xA] ++ (found.group 2).getD []) line

theorem replaceAll_of_test {pattern : Regex} {replacement : Match → JsString} {text : JsString}
    (absent : test pattern text = false) : replaceAll pattern replacement text = text := by
  have missing : execFrom pattern false (text.length + 1) [] text = none := by
    cases found : execFrom pattern false (text.length + 1) [] text with
    | none => rfl
    | some hit =>
      rw [test, exec, found] at absent
      cases absent
  rw [replaceAll, matchAll, matchesFrom, missing]
  rfl

theorem unglue_plain {line : JsString} (absent : test GLUED_HEADING line = false) :
    unglue line = line := replaceAll_of_test absent

def unglueHeadings (markdown : JsString) : JsString :=
  joinLines ((markdownLinesLf markdown).map fun entry =>
    if entry.2 then entry.1 else unglue entry.1)

structure ReviewSection where
  title : JsString
  body : JsString

/-- `raw.replace(/^\n+/, "").replace(/\n+$/, "")` -/
def trimNewlines (raw : JsString) : JsString :=
  ((dropNewlines raw).reverse.dropWhile (· == 0xA)).reverse

def toSection (title : JsString) (lines : List JsString) : ReviewSection where
  title
  body := trimNewlines (joinLines lines)

/-- The loop of `splitH2Sections`. -/
structure SectionSplit where
  sections : List ReviewSection := []
  lead : List JsString := []
  current : Option (JsString × List JsString) := none

def SectionSplit.closed (split : SectionSplit) : List ReviewSection :=
  split.sections ++ (split.current.map fun current => toSection current.1 current.2).toList

def SectionSplit.heading (split : SectionSplit) (title : JsString) : SectionSplit :=
  { split with sections := split.closed, current := some (title, []) }

def SectionSplit.push (split : SectionSplit) (line : JsString) : SectionSplit :=
  match split.current with
  | some (title, lines) => { split with current := some (title, lines ++ [line]) }
  | none => if trim line ≠ [] then { split with lead := split.lead ++ [line] } else split

def SectionSplit.step (split : SectionSplit) (entry : JsString × Bool) : SectionSplit :=
  match if entry.2 then none else sectionTitle entry.1 with
  | some title => split.heading title
  | none => split.push entry.1

def splitH2Sections (markdown : JsString) : JsString × List ReviewSection :=
  let split := (markdownLinesLf markdown).foldl SectionSplit.step {}
  (trim (joinLines split.lead), split.closed)

/-- `markdown.replace(/^\uFEFF/, "").replace(/\r\n/g, "\n")` -/
def reportText (markdown : JsString) : JsString :=
  let rec lineFeeds : JsString → JsString
    | [] => []
    | unit :: rest =>
      if unit = 0xD ∧ rest.head? = some 0xA then lineFeeds rest else unit :: lineFeeds rest
  lineFeeds (if markdown.head? = some 0xFEFF then markdown.tail else markdown)

/-- `/^# Autonomous Review Report\s*$/m` -/
def REPORT_TITLE : Regex :=
  all [.lineStart, lit (js "# Autonomous Review Report"), star space, .lineStop]

/-- What stands before and after the first match of `/\n---\n/`. -/
def splitAtRule : JsString → Option (JsString × JsString)
  | [] => none
  | unit :: rest =>
    match afterPrefix (js "\n---\n") (unit :: rest) with
    | some after => some ([], after)
    | none => (splitAtRule rest).map fun parts => (unit :: parts.1, parts.2)

/-- `/^- ([A-Za-z][A-Za-z ]*): (.+)$/` -/
def META_FIELD : Regex :=
  all [.start, lit (js "- "),
    .capture 1 (all [.unitWhere isAlpha, star (.unitWhere fun unit => isAlpha unit || unit == 0x20)]),
    lit (js ": "), .capture 2 (plus dot), .stop]

def metaField (line : JsString) : Option (JsString × JsString) :=
  (exec META_FIELD line).map fun found => ((found.group 1).getD [], (found.group 2).getD [])

structure ParsedReviewReport where
  /-- The fields of the header in their order; of two with one name the later counts. -/
  metaFields : List (JsString × JsString)
  preface : JsString
  sections : List ReviewSection
  verdict : Option AggregatorVerdict

def leftoverLines (header : JsString) : List JsString :=
  (splitOn 0xA header).filter fun line =>
    line ≠ js "# Autonomous Review Report" && trim line ≠ [] && (metaField line).isNone &&
      line.head? != some 0x7C

def reportParts (text : JsString) : JsString × JsString :=
  match splitAtRule text with
  | some parts => (parts.1, unglueHeadings parts.2)
  | none => (text, unglueHeadings [])

def parseReviewReport [Unicode] (markdown : JsString) : Option ParsedReviewReport :=
  let text := reportText markdown
  if test REPORT_TITLE text then
    let parts := reportParts text
    let split := splitH2Sections parts.2
    some {
      metaFields := (splitOn 0xA parts.1).filterMap metaField
      preface := join (js "\n\n") ([trim (joinLines (leftoverLines parts.1)), split.1].filter (· ≠ []))
      sections := split.2
      verdict := extractAggregatorVerdict (some text) }
  else none

def conclusionSectionVerdict [Unicode] (body : JsString) : Option AggregatorVerdict :=
  extractAggregatorVerdict (some (js "## 结论\n" ++ body))

end CouncilKit.Review
