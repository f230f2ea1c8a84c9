import CouncilKit.Data.Regex

namespace CouncilKit.Review

open Data Data.JsString

section

open Regex

/-- `[A-Za-z_][A-Za-z0-9_]*=` -/
def ASSIGNMENT : Regex :=
  all [.unitWhere fun unit => isAlpha unit || unit == 0x5F, star (.unitWhere isWord), lit (js "=")]

/-- `'[^']*'|"(?:[^"\\]|\\.)*"` -/
def QUOTED : Regex :=
  any [all [lit (js "'"), star (noneOf (js "'")), lit (js "'")],
    all [lit (js "\""), star (any [noneOf (js "\"\\"), .seq (lit (js "\\")) dot]), lit (js "\"")]]

/-- `[^\s\\'"`$;&|<>]*` -/
def BARE_VALUE : Regex :=
  star (.unitWhere fun unit => !isSpace unit && !(js "\\'\"`$;&|<>").contains unit)

def PROXY_ENV_RE : Regex :=
  all [.start, any (["NO_PROXY", "no_proxy", "HTTPS_PROXY", "https_proxy", "HTTP_PROXY",
    "http_proxy"].map fun name => lit (js name)), lit (js "="), any [QUOTED, BARE_VALUE],
    plus (oneOf (js " \t"))]

/-- `/^\s*(?:NAME=(?:quoted|\S*)\s*)+$/`: nothing but assignments. -/
def ONLY_ASSIGNMENTS : Regex :=
  all [.start, star space,
    plus (all [ASSIGNMENT, any [QUOTED, star (.unitWhere fun unit => !isSpace unit)], star space]),
    .stop]

end

/-- The walk over the text: `op` is the run of one operator being merged. -/
structure TokenWalk where
  tokens : List JsString := []
  cur : JsString := []
  op : JsString := []
  inSingle : Bool := false
  inDouble : Bool := false
  prev : Option CodeUnit := none

def TokenWalk.flush (walk : TokenWalk) : TokenWalk :=
  { walk with tokens := walk.tokens ++ if walk.cur = [] then [] else [walk.cur], cur := [] }

def TokenWalk.closeOp (walk : TokenWalk) : TokenWalk :=
  { walk with tokens := walk.tokens ++ if walk.op = [] then [] else [walk.op], op := [] }

def TokenWalk.step (walk : TokenWalk) (ch : CodeUnit) : TokenWalk :=
  if walk.op.head? = some ch then { walk with op := walk.op ++ [ch], prev := some ch }
  else
    let walk := walk.closeOp
    let single := ch == 0x27 && !walk.inDouble && walk.prev != some 0x5C
    let double := !single && ch == 0x22 && !walk.inSingle && walk.prev != some 0x5C
    let walk := { walk with
      inSingle := walk.inSingle != single
      inDouble := walk.inDouble != double
      prev := some ch }
    if !walk.inSingle && !walk.inDouble && (js " \t\n").contains ch then walk.flush
    else if !walk.inSingle && !walk.inDouble && (js ";|&<>").contains ch then
      { walk.flush with op := [ch] }
    else { walk with cur := walk.cur ++ [ch] }

def shellTokens (text : JsString) : List JsString :=
  (text.foldl TokenWalk.step {}).closeOp.flush.tokens

def SHELL_OPERATOR_TOKENS : List JsString :=
  ["&&", "||", ";", "|", "&", ">", "<", ">>", ">&", "#"].map js

def isAssignmentToken (token : JsString) : Bool := Regex.test (.seq .start ASSIGNMENT) token

def startsWithAssignmentThenOperator (text : JsString) : Bool :=
  let tokens := shellTokens text
  let rest := tokens.dropWhile isAssignmentToken
  rest.length < tokens.length && rest.head?.any SHELL_OPERATOR_TOKENS.contains

/-- The loop that removes prefixes; each round shortens the text.  `none`: the
assignments were statements of their own. -/
def stripRounds : (rounds : Nat) → JsString → Bool → Option (JsString × Bool)
  | 0, cur, stripped => some (cur, stripped)
  | rounds + 1, cur, stripped =>
    let next := Regex.replaceFirst PROXY_ENV_RE (fun _ => []) cur
    if next = cur ∨ trim next = [] then some (cur, stripped)
    else if (trimStart next).head?.any (js "#;&|><").contains then none
    else stripRounds rounds next true

def stripProxyPrefix (cmd : JsString) : JsString × Bool :=
  match stripRounds (cmd.length + 1) cmd false with
  | none => (cmd, false)
  | some (cur, stripped) =>
    if stripped && (Regex.test ONLY_ASSIGNMENTS cur || startsWithAssignmentThenOperator cur) then
      (cmd, false)
    else (cur, stripped)

structure CommandRun where
  text : JsString
  strippedProxy : Bool
  count : Nat

def addCommand (runs : List CommandRun) (raw : JsString) : List CommandRun :=
  let (text, stripped) := stripProxyPrefix raw
  match runs.getLast? with
  | some last =>
    if last.text = text then
      runs.dropLast ++ [{ last with
        count := last.count + 1
        strippedProxy := last.strippedProxy || stripped }]
    else runs ++ [⟨text, stripped, 1⟩]
  | none => [⟨text, stripped, 1⟩]

def dedupCommands (commands : List JsString) : List (JsString × Bool) :=
  (commands.foldl addCommand []).map fun run =>
    (if 1 < run.count then run.text ++ js " ×" ++ .ofNat run.count else run.text, run.strippedProxy)

def backtickRuns : JsString → Nat × Nat
  | [] => (0, 0)
  | unit :: rest =>
    let (longest, current) := backtickRuns rest
    if unit = 0x60 then (max longest (current + 1), current + 1) else (longest, 0)

def codeSpan (text : JsString) : JsString :=
  let most := (backtickRuns text).1
  if most = 0 then js "`" ++ text ++ js "`"
  else
    let fence := List.replicate (most + 1) 0x60
    fence ++ js " " ++ text ++ js " " ++ fence

end CouncilKit.Review
