import CouncilKit.Review.FindingMatch

namespace CouncilKit.Review.FindingList

open Data Data.Regex Data.JsString

def FINDING_TITLE_DISPLAY_LIMIT : Nat := 80

variable (text : JsString)

def firstLine : JsString := trim ((text.splitOn 0xA).headD [])

/-- `text.split(/[ends]/)` -/
def splitWhere (ends : CodeUnit → Bool) : JsString → List JsString
  | [] => [[]]
  | unit :: rest =>
    if ends unit then [] :: splitWhere ends rest
    else match splitWhere ends rest with
      | [] => [[unit]]
      | piece :: pieces => (unit :: piece) :: pieces

/-- A unit of `[units\s]`. -/
def spaceOr (units : JsString) : Regex := .unitWhere fun unit => isSpace unit || units.contains unit

/-- `text.replace(/^[units\s]+/, "")` -/
def dropLeading (units text : JsString) : JsString :=
  replaceFirst (all [.start, plus (spaceOr units)]) (fun _ => []) text

def stripLocations (title : JsString) : JsString :=
  trim (dropLeading (js "—–-:：") (replaceAll FILE_LINE_CITATION_SOURCE (fun _ => js " ") title))

def baseName (path : JsString) : JsString :=
  let parts := (replaceAll (lit (js "\\")) (fun _ => js "/") path).splitOn 0x2F
  match parts.getLast? with
  | none | some [] => path
  | some last => last

def hexUnitOf : Regex :=
  .unitWhere fun unit => isDigit unit || (0x61 ≤ unit && unit ≤ 0x66)

/-- `h-[a-f\d]{6,}\b` -/
def historicalId : Regex := all [lit (js "h-"), .many true 6 none hexUnitOf, .wordBoundary]

/-- `review-[\w-]+\b` -/
def reviewName : Regex :=
  all [lit (js "review-"), plus (.unitWhere fun unit => isWord unit || unit == 0x2D), .wordBoundary]

/-- `F-?\d+` -/
def listedId : Regex := all [lit (js "F"), optional (lit (js "-")), plus digit]

/-- `/^h-[a-f\d]{6,}\b|^F-?\d+\b|--|^review-[\w-]+\b/u` -/
def IDENTITY_PREFIX : Regex :=
  any [all [.start, historicalId], all [.start, listedId, .wordBoundary], lit (js "--"),
    all [.start, reviewName]]

/-- `/\s+[—–]\s+/u` -/
def DASH_SEPARATOR : Regex := all [plus space, oneOf (js "—–"), plus space]

/-- `^(?:[\w.-]+\/)*SOURCE_FILE_EXT\s+` -/
def FILENAME_PREFIX : Regex :=
  all [.start, star (all [plus pathUnit, lit (js "/")]), SOURCE_FILE_EXT, plus space]

/-- `[\w.-]` under the `iu` flags, which fold two more letters into `\w`. -/
def foldedPathUnit : Regex :=
  .unitWhere fun unit =>
    isWord unit || unit == 0x2E || unit == 0x2D || unit == 0x17F || unit == 0x212A

/-- `/^(?:F-?\d+|[\w.-]+--\S+)$/iu` -/
def BARE_ID : Regex :=
  all [.start, any [all [caseless (js "F"), optional (lit (js "-")), plus digit],
    all [plus foldedPathUnit, lit (js "--"), plus (.unitWhere fun unit => !isSpace unit)]], .stop]

/-- `/^(?:[一二三四五六七八九\d]+席|review-[\w-]+\b).*(?:still_open|verified_closed|not_evaluated)/u` -/
def SEAT_VERDICT : Regex :=
  all [.start,
    any [all [plus (.unitWhere fun unit => isDigit unit || (js "一二三四五六七八九").contains unit),
      lit (js "席")], reviewName],
    star dot, any [lit (js "still_open"), lit (js "verified_closed"), lit (js "not_evaluated")]]

/-- `/^(?:仍成立|已关闭|本轮阻塞|h-[a-f\d]{6,}\b)/u` -/
def STATUS_CLAUSE : Regex :=
  all [.start, any [lit (js "仍成立"), lit (js "已关闭"), lit (js "本轮阻塞"), historicalId]]

/-- `/^反例[:：]/u` -/
def COUNTEREXAMPLE_CLAUSE : Regex := all [.start, lit (js "反例"), oneOf (js ":：")]

def withoutIdentity (findingId : Option JsString) : JsString :=
  match exec DASH_SEPARATOR text with
  | none => text
  | some separator =>
    let before := separator.before
    if findingId = some before ∨ test IDENTITY_PREFIX before then
      dropLeading (js "—–") (separator.whole ++ separator.after)
    else text

def withoutFilename : JsString :=
  match exec (lit (js "：")) text with
  | some colon => if test FILENAME_PREFIX text then colon.after else text
  | none => text

def substantiveClauses (source : JsString) (findingId : Option JsString) : List JsString :=
  let plain := replaceAll (plus (lit (js "`"))) (fun _ => []) (firstLine source)
  let text := trim (replaceAll (.many true 2 none (lit (js "*"))) (fun _ => []) plain)
  if findingId = some text then []
  else
    let body := stripLocations (withoutFilename (withoutIdentity text findingId))
    let clauses := splitWhere (js "。！？\n").contains (dropLeading (js ":：—–、") body)
    (clauses.map fun clause => trim (replaceAll (plus space) (fun _ => js " ") clause)).filter
      fun clause => clause ≠ [] && !test BARE_ID clause && !test SEAT_VERDICT clause &&
        !test STATUS_CLAUSE clause

/-- `text.replace(/[，。；、\s—–\-]+$/u, "")` -/
def dropTrailing : JsString :=
  replaceFirst (all [plus (spaceOr (js "，。；、—–-")), .stop]) (fun _ => []) text

def truncateDisplayTitle (limit : Nat) : JsString :=
  let chars := codePoints text
  if chars.length ≤ limit then text
  else dropTrailing (chars.take (limit - 1)).flatten ++ js "…"

/-- An explicit counterexample keeps its consequence when it is shortened. -/
def counterexampleTitle (clause : JsString) : JsString :=
  let chars := codePoints (replaceFirst (.seq COUNTEREXAMPLE_CLAUSE (star space)) (fun _ => []) clause)
  if chars.length ≤ FINDING_TITLE_DISPLAY_LIMIT then chars.flatten
  else
    let tailLength := FINDING_TITLE_DISPLAY_LIMIT / 2
    (chars.take (FINDING_TITLE_DISPLAY_LIMIT - tailLength - 1)).flatten ++ js "…" ++
      (chars.drop (chars.length - tailLength)).flatten

/-- `readableFindingTitle` of a ledger row. -/
def readableFindingTitle (row : LedgerFinding) : JsString :=
  let body := substantiveClauses row.text (some row.id)
  let heading := substantiveClauses row.title (some row.id)
  let reason := substantiveClauses (row.verification.elim [] (·.reason)) none
  let candidates := if body ≠ [] then body else if heading ≠ [] then heading else reason
  match candidates with
  | [] => js "问题原因待补充（展开查看原始记录）"
  | first :: _ =>
    match candidates.find? (test COUNTEREXAMPLE_CLAUSE) with
    | some clause => counterexampleTitle clause
    | none => truncateDisplayTitle first FINDING_TITLE_DISPLAY_LIMIT

/-- `/^\s*(?:触发与后果|证据|建议|验证|结论)\s*[:：]/` -/
def NARRATIVE_LINE : Regex :=
  all [.start, star space,
    any [lit (js "触发与后果"), lit (js "证据"), lit (js "建议"), lit (js "验证"), lit (js "结论")],
    star space, oneOf (js ":：")]

def declaredCitationText (row : LedgerFinding) : JsString :=
  join (js "\n") (((row.title ++ js "\n" ++ row.text).splitOn 0xA).takeWhile fun line =>
    !test NARRATIVE_LINE line)

section Locations

variable [Unicode]

def primaryLocations (row : LedgerFinding) : List FileLineCitation :=
  parseFileLineCitations (declaredCitationText row)

def lineRange (location : FileLineCitation) : JsString :=
  if location.start = location.end then wholeText location.start
  else wholeText location.start ++ js "-" ++ wholeText location.end

def rowLocation (row : LedgerFinding) : Option FileLineCitation :=
  (primaryLocations row).head?.or
    (parseFileLineCitations
      (join (js " ") ((row.verification.bind (·.locations)).getD []))).head?

def problemLocation (members : List LedgerFinding) : Option JsString :=
  match members.findSome? rowLocation with
  | some location => some (baseName location.path ++ js ":" ++ lineRange location)
  | none => ((members.flatMap (·.files)).find? (·.contains 0x2E)).map baseName

end Locations

/-- `^(?:[-*+]\s+)?[*`_\s]*` -/
def HEAD_DECORATION : Regex :=
  all [.start, optional (all [oneOf (js "-*+"), plus space]), star (spaceOr (js "*`_"))]

/-- `/^[*`_]*\s*(?:[—–：]\s*|:\s+)/u` -/
def ID_DELIMITER : Regex :=
  all [.start, star (oneOf (js "*`_")), star space,
    any [all [oneOf (js "—–："), star space], all [lit (js ":"), plus space]]]

/-- Only a leading, delimited ID is an identity declaration; body mentions are not. -/
def explicitlyReferences (row : LedgerFinding) (id : JsString) : Bool :=
  [row.title, row.text].any fun source =>
    let line := replaceFirst HEAD_DECORATION (fun _ => []) (firstLine source)
    id.isPrefixOf line && test ID_DELIMITER (line.drop id.length)

end CouncilKit.Review.FindingList
