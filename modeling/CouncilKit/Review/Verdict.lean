import CouncilKit.Data.FencedLines

namespace CouncilKit.Review

open Data Data.JsString

inductive AggregatorVerdict where
  | approve | changesRequested | comment
deriving DecidableEq

def AggregatorVerdict.text : AggregatorVerdict → JsString
  | .approve => js "approve"
  | .changesRequested => js "changes-requested"
  | .comment => js "comment"

def verdicts : List AggregatorVerdict := [.approve, .changesRequested, .comment]

def asVerdict [Unicode] (value : JsString) : Option AggregatorVerdict :=
  verdicts.find? (·.text = toLowerCase value)

def afterPrefix (start line : JsString) : Option JsString :=
  if start.isPrefixOf line then some (line.drop start.length) else none

/-- `/^## 结论[^\S\n]*$/` and its like: a fixed heading and white space. -/
def isHeadingLine (heading line : JsString) : Bool :=
  (afterPrefix heading line).any fun rest => rest.all fun unit => isSpace unit && unit != 0xA

def CONCLUSION (line : JsString) : Bool := isHeadingLine (js "## 结论") line

def APPENDIX (line : JsString) : Bool :=
  isHeadingLine (js "## 过程对比") line || isHeadingLine (js "## 附录:各审查者交付物") line

/-- `/^#{2,6} /` -/
def NEXT_HEADING (line : JsString) : Bool :=
  let marks := (line.takeWhile (· == 0x23)).length
  2 ≤ marks && marks ≤ 6 && (line.drop marks).head? == some 0x20

def markdownLines (markdown : JsString) : List (JsString × Bool) :=
  fenceWalk none (linesOf markdown)

structure ConclusionWindow where
  sawConclusion : Bool := false
  collecting : Bool := false
  kept : List JsString := []

/-- The loop of `conclusionWindow`; an appendix heading ends it. -/
def ConclusionWindow.read (stopAtAppendix : Bool) :
    ConclusionWindow → List (JsString × Bool) → ConclusionWindow
  | window, [] => window
  | window, (line, fenced) :: rest =>
    if fenced then window.read stopAtAppendix rest
    else if stopAtAppendix && APPENDIX line then window
    else if CONCLUSION line then
      ConclusionWindow.read stopAtAppendix ⟨true, true, []⟩ rest
    else if NEXT_HEADING line then
      ConclusionWindow.read stopAtAppendix { window with collecting := false } rest
    else if window.collecting then
      ConclusionWindow.read stopAtAppendix { window with kept := window.kept ++ [line] } rest
    else window.read stopAtAppendix rest

def dropNewlines (text : JsString) : JsString := text.dropWhile (· == 0xA)

def ConclusionWindow.body (window : ConclusionWindow) : Option JsString :=
  if window.sawConclusion then some (dropNewlines (joinLines window.kept)) else none

def conclusionWindow (markdown : JsString) (stopAtAppendix : Bool) : Option JsString :=
  (ConclusionWindow.read stopAtAppendix {} (markdownLines markdown)).body

section

open Regex

def word (text : String) : Regex := caseless (js text)

def letter : Regex := .unitWhere isAlpha

/-- `(?:不会|不再|…)[^\n。！？!?，,；;、]{0,6}|不` -/
def CHINESE_NEGATION : Regex :=
  any [.seq (any (["不会", "不再", "不能", "不要", "不可", "不应", "不是", "并非", "并未", "并不",
      "没有", "未"].map fun text => lit (js text)))
      (between 0 6 (noneOf (js "\n。！？!?，,；;、"))), lit (js "不")]

/-- `(?:\s+(?!and\b|but\b)[A-Za-z]+){0,2}` -/
def ENGLISH_GAP : Regex :=
  between 0 2 (all [plus space,
    .lookahead false (any [.seq (word "and") .wordBoundary, .seq (word "but") .wordBoundary]),
    plus letter])

def wordStart : Regex := any [.start, .unitWhere fun unit => !isAlpha unit]

/-- `(?:ca|do|…|had)n['’]?t` -/
def N_T_CONTRACTION : Regex :=
  all [any (["ca", "do", "wo", "should", "would", "could", "does", "did", "must", "is", "are", "was",
    "were", "has", "have", "had"].map word), word "n", optional (oneOf (js "'’")), word "t"]

def VERBAL_NEGATION : Regex :=
  all [wordStart, any [word "not", word "never", word "cannot", N_T_CONTRACTION], ENGLISH_GAP]

def WILLING_NOUN : List String :=
  ["hesitation", "reservations", "reservation", "qualms", "objection", "objections", "scruple",
    "scruples", "reluctance"]

def NO_NEGATION : Regex :=
  all [wordStart, word "no",
    .lookahead false (all [plus space, any (WILLING_NOUN.map word), .wordBoundary]), ENGLISH_GAP]

def NEGATION_BEFORE : Regex :=
  all [any [CHINESE_NEGATION, VERBAL_NEGATION, NO_NEGATION], star space, .stop]

end

def lastWords : Nat → JsString → JsString
  | 0, _ => []
  | words + 1, back =>
    let word := back.takeWhile fun unit => !isSpace unit
    let rest := back.dropWhile fun unit => !isSpace unit
    if words = 0 then word
    else word ++ (rest.takeWhile isSpace ++ lastWords words (rest.dropWhile isSpace))

def lastNegationContext (before : JsString) : JsString :=
  let back := before.reverse
  (back.takeWhile isSpace ++ lastWords 3 (back.dropWhile isSpace)).reverse

def isNegated (before : JsString) : Bool :=
  Regex.test NEGATION_BEFORE (lastNegationContext (before.filter fun unit => !(js "`\"*").contains unit))

def startsWord (unit : Option CodeUnit) : Bool := unit.any Regex.isWord

/-- The match of `/\b(approve|changes-requested|comment)\b/i` at a position. -/
def verdictAt (behind ahead : JsString) : Option AggregatorVerdict :=
  verdicts.find? fun verdict =>
    verdict.text.isPrefixOf (ahead.map lowerAscii) && (startsWord behind.head? != startsWord ahead.head?) &&
      startsWord (ahead.drop verdict.text.length).head? = false

/-- The first match that no negation precedes.  Two matches never overlap. -/
def proseFrom (behind : JsString) : JsString → Option AggregatorVerdict
  | [] => none
  | unit :: rest =>
    match verdictAt behind (unit :: rest) with
    | some verdict =>
      if isNegated behind.reverse then proseFrom (unit :: behind) rest else some verdict
    | none => proseFrom (unit :: behind) rest

def verdictInProse (body : JsString) : Option AggregatorVerdict := proseFrom [] body

def verdictOfBody [Unicode] (body : JsString) : Option AggregatorVerdict :=
  ((splitOn 0xA body).findSome? fun line => asVerdict (trim line)).or (verdictInProse body)

def extractAggregatorVerdict [Unicode] (markdown : Option JsString) : Option AggregatorVerdict :=
  (markdown.bind fun markdown => conclusionWindow markdown true).bind verdictOfBody

end CouncilKit.Review
