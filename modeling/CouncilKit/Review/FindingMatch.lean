import CouncilKit.Review.PrDecisions

namespace CouncilKit.Review

open Data Data.Regex

section Text

/-- `[：:]` -/
def colon : Regex := oneOf (js "：:")

def firstLine (text : JsString) : JsString :=
  let line := (text.splitOn 0xA).headD []
  (replaceFirst (all [.start, oneOf (js "-*"), plus space]) (fun _ => []) line).trim

def groupsOf (pattern : Regex) (text : JsString) : List JsString :=
  (matchAll pattern text).map fun found => (found.group 1).getD []

def declarable (id : JsString) : Bool := id ≠ [] && id.length ≤ 160 && !id.any isSpace

def explicitFindingIds (text : JsString) : List JsString :=
  (groupsOf (all [lit (js "`"), .capture 1 (plus (noneOf (js "`\n"))), lit (js "`")]) text).filter
    declarable

/-- `/^(?:\*\*)?([^\s*]{1,160})\*\*(?=\s|$)/`, where no tick stands in the id. -/
def LEADING_BOLD_ID : Regex :=
  all [.start, optional (lit (js "**")),
    .capture 1 (between 1 160 (.unitWhere fun unit => !isSpace unit && !(js "*`").contains unit)),
    lit (js "**"), .lookahead true (any [space, .stop])]

def LABELED_ID : Regex :=
  all [lit (js "原 Finding ID"), colon, star space, lit (js "`"),
    .capture 1 (plus (noneOf (js "`\n"))), lit (js "`")]

def declaredFindingIds (text : JsString) : List JsString :=
  let leadingBoldId := (exec LEADING_BOLD_ID text).bind (·.group 1)
  let labeled := (exec LABELED_ID text).bind (·.group 1)
  let titleLine := (text.splitOn 0xA).headD []
  (leadingBoldId.toList ++ labeled.toList ++ explicitFindingIds titleLine).filter declarable

def LOCUS_NARRATIVE_LINE : Regex :=
  all [.start, star space,
    any [lit (js "触发与后果"), lit (js "证据"), lit (js "建议"), lit (js "验证"), lit (js "结论")],
    star space, colon]

def declaredLocusText (row : LedgerFinding) : JsString :=
  .join (js "\n") (((row.title ++ js "\n" ++ row.text).splitOn 0xA).takeWhile fun line =>
    !test LOCUS_NARRATIVE_LINE line)

/-- The members of one set that another has; a set of strings is the list of
its members in order of insertion. -/
def hits (left right : List JsString) : Nat := (left.filter fun token => right.contains token).length

def tokenOverlap (left right : List JsString) : ℚ :=
  if left = [] ∨ right = [] then 0
  else roundBinary64 (hits left right / max left.length right.length)

def setJaccard (left right : List JsString) : ℚ :=
  if left = [] ∨ right = [] then 0
  else roundBinary64 (hits left right / (left.length + right.length - hits left right : Nat))

def hundredths (count : Nat) : ℚ := roundBinary64 (count / 100)

def LATIN_ROOT_TOKEN_RE : Regex :=
  all [.unitWhere isAlpha, .many true 3 none (.unitWhere fun unit => isWord unit || unit == 0x2D)]

def ROOT_CAUSE_LATIN_STOP : List JsString :=
  [js "this", js "that", js "with", js "from", js "when", js "into", js "then", js "than",
    js "also", js "have", js "been", js "will", js "does", js "should", js "could", js "would",
    js "file", js "line", js "code", js "path", js "true", js "false", js "test", js "tests",
    js "http", js "https", js "todo", js "fixme", js "note", js "same", js "after", js "before",
    js "under", js "over", js "only", js "both", js "each", js "must", js "make", js "made",
    js "here", js "there", js "where", js "which", js "while", js "about"]

def codePoints : JsString → List JsString
  | [] => []
  | [unit] => [[unit]]
  | high :: low :: rest =>
    if isHighSurrogate high && isLowSurrogate low then [high, low] :: codePoints rest
    else [high] :: codePoints (low :: rest)

/-- The line labels that `rootCauseProbeText` drops, under the `i` flag. -/
def PROBE_LABEL : Regex :=
  all [any [.start, lit (js "\n")], star space,
    any [lit (js "位置"), lit (js "不变量"), lit (js "不变式"), caseless (js "invariant"),
      caseless (js "acceptance"), lit (js "验收"), lit (js "反例"),
      all [caseless (js "counter"),
        optional (all [star space, optional (lit (js "-")), star space, caseless (js "example")])],
      lit (js "复现")],
    star space, colon, star space]

def rootCauseProbeText (row : LedgerFinding) : JsString :=
  let uncited := replaceAll FILE_LINE_CITATION_SOURCE (fun _ => js " ") (declaredLocusText row)
  let unlabeled := replaceAll PROBE_LABEL (fun _ => js "\n") uncited
  replaceAll (all [lit (js "`"), plus (noneOf (js "`")), lit (js "`")]) (fun _ => js " ") unlabeled

end Text

section RootCause

variable [Unicode] [UnicodeProperties]

def slugify (value : JsString) : JsString :=
  let kept (point : Nat) : Bool :=
    isLetter point || isNumber point || point == 0x2E || point == 0x5F || point == 0x2D
  let words := replaceAll (plus (.pointWhere fun point => !kept point)) (fun _ => js "-")
    (toLowerCase value) true
  let dashes := plus (lit (js "-"))
  replaceAll (any [all [.start, dashes], all [dashes, .stop]]) (fun _ => []) words

def tokens (text : JsString) : List JsString :=
  unique (((slugify text).splitOn 0x2D).filter fun part => 1 < part.length)

omit [UnicodeProperties] in
def latinRootTokens (text : JsString) : List JsString :=
  unique (((matchAll LATIN_ROOT_TOKEN_RE text).map fun found => toLowerCase found.whole).filter
    fun token => 4 ≤ token.length && !ROOT_CAUSE_LATIN_STOP.contains token)

omit [Unicode] in
def cjkBigrams (text : JsString) : List JsString :=
  let chars := (codePoints text).filter fun char => (codePoint char).any fun point => isHan point.1
  unique ((chars.zip chars.tail).map fun pair => pair.1 ++ pair.2)

def rootCauseTextCompatible (left right : LedgerFinding) : Bool :=
  let probeLeft := rootCauseProbeText left
  let probeRight := rootCauseProbeText right
  (latinRootTokens probeLeft).any (fun token => (latinRootTokens probeRight).contains token) ||
    hundredths 34 ≤ tokenOverlap (tokens (firstLine left.title)) (tokens (firstLine right.title)) ||
    hundredths 28 ≤ setJaccard (cjkBigrams probeLeft) (cjkBigrams probeRight) ||
    hundredths 34 ≤ tokenOverlap (tokens probeLeft) (tokens probeRight)

def sameRootCauseIdentity (left right : LedgerFinding) : Bool :=
  let leftInv := (left.invariantId.toOption.getD []).trim
  let rightInv := (right.invariantId.toOption.getD []).trim
  if leftInv ≠ [] ∧ rightInv ≠ [] then leftInv = rightInv else rootCauseTextCompatible left right

section

omit [UnicodeProperties]

def primaryFindingLocus (row : LedgerFinding) : Option FileLineCitation :=
  (parseFileLineCitations (declaredLocusText row)).head?

def locusPathsCompatible (left right : JsString) : Bool :=
  let a := normalizeSourcePath left
  let b := normalizeSourcePath right
  if a = [] ∨ b = [] then false
  else a = b || (js "/" ++ b).isSuffixOf a || (js "/" ++ a).isSuffixOf b

def lociEqual (left : FileLineCitation) : Option FileLineCitation → Bool
  | none => false
  | some right =>
    left.start = right.start && left.end = right.end && locusPathsCompatible left.path right.path

end

end RootCause

section Match

variable [Digest] [Unicode] [UnicodeProperties]

def referenced (prior row : LedgerFinding) : Bool :=
  prior.id ∈ declaredFindingIds row.text || row.id ∈ declaredFindingIds prior.text

def sameLocus (prior row : LedgerFinding) : Bool :=
  (primaryFindingLocus prior).any fun locus =>
    row.severity = prior.severity && lociEqual locus (primaryFindingLocus row) &&
      sameRootCauseIdentity prior row

def matchScore (prior row : LedgerFinding) : ℚ :=
  let sameFile := prior.files ≠ [] && row.files.any fun file => prior.files.contains file
  let overlap := tokenOverlap (tokens prior.title) (tokens row.title)
  roundBinary64 ((if sameFile then hundredths 40 else 0) + overlap)

variable (prior : LedgerFinding)

/-- One round of the loop over the eligible rows: the first best score stays. -/
def betterScored (best : Option (LedgerFinding × ℚ))
    (row : LedgerFinding) : Option (LedgerFinding × ℚ) :=
  let score := matchScore prior row
  if row.severity ≠ prior.severity ∨ score < hundredths 55 then best
  else if best.all fun other => other.2 < score then some (row, score)
  else best

def eligible (next : List LedgerFinding) (used : List JsString)
    (decisions : Option DecisionsFile) : List LedgerFinding :=
  next.filter fun row =>
    row.id ∉ used ∧ matchDecisionIdentity decisions prior row ≠ some false

def weakMatch (eligible : List LedgerFinding) : Option LedgerFinding :=
  (eligible.find? (referenced prior)).or <| (eligible.find? (sameLocus prior)).or <|
    (eligible.foldl (betterScored prior) none).map (·.1)

def matchFinding (next : List LedgerFinding) (used : List JsString)
    (decisions : Option DecisionsFile) : Option LedgerFinding :=
  let rows := eligible prior next used decisions
  (rows.find? fun row => matchDecisionIdentity decisions prior row = some true).or <|
    (rows.find? (·.id = prior.id)).or <| weakMatch prior rows

end Match

end CouncilKit.Review
