import CouncilKit.Data.JsonParse
import CouncilKit.Data.JsonValue

namespace CouncilKit.Data.Json

open JsString

def jsonParse (text : JsString) : Option Json := notNull (parse text)

inductive BraceSpan where
  | span (start stop : Nat) (kids : List BraceSpan)

structure OpenBrace where
  start : Nat
  kids : List BraceSpan := []

structure BraceScan where
  stack : List OpenBrace := []
  overflow : Nat := 0
  found : Option Json := none
  count : Nat := 0

def MAX_EMBEDDED_BRACE_DEPTH : Nat := 1024

def afterJsonString : JsString → Option JsString
  | [] => none
  | unit :: rest =>
    if unit = 0x5C then
      match rest with
      | [] => none
      | _ :: more => afterJsonString more
    else if unit = 0x22 then some rest
    else afterJsonString rest

def parseSpan (text : JsString) : BraceSpan → Option Json
  | .span start stop _ => parse ((text.drop start).take (stop + 1 - start))

mutual

def spanHoldsJsonObject (text : JsString) : BraceSpan → Bool
  | .span _ _ kids => anyHoldsJsonObject text kids

def anyHoldsJsonObject (text : JsString) : List BraceSpan → Bool
  | [] => false
  | kid :: rest =>
    (parseSpan text kid).isSome || spanHoldsJsonObject text kid || anyHoldsJsonObject text rest

end

namespace BraceScan

variable (text : JsString)

/-- `none` when a second object is counted. -/
def take (scan : BraceScan) (span : BraceSpan) : Option BraceScan :=
  let counted : BraceScan :=
    match parseSpan text span with
    | some value => { scan with found := some value, count := scan.count + 1 }
    | none => if spanHoldsJsonObject text span then { scan with count := scan.count + 1 } else scan
  if 1 < counted.count then none else some counted

def openBrace (scan : BraceScan) (index : Nat) : BraceScan :=
  if 0 < scan.overflow ∨ MAX_EMBEDDED_BRACE_DEPTH ≤ scan.stack.length then
    { scan with overflow := scan.overflow + 1 }
  else { scan with stack := { start := index } :: scan.stack }

def closeBrace (scan : BraceScan) (index : Nat) : Option BraceScan :=
  if 0 < scan.overflow then some { scan with overflow := scan.overflow - 1 }
  else match scan.stack with
    | [] => some scan
    | [last] => take text { scan with stack := [] } (.span last.start index last.kids)
    | last :: parent :: rest =>
      some { scan with stack :=
        { parent with kids := parent.kids ++ [.span last.start index last.kids] } :: rest }

def walk : Nat → JsString → BraceScan → Option BraceScan
  | 0, _, scan | _ + 1, [], scan => some scan
  | fuel + 1, unit :: rest, scan =>
    let index := text.length - (rest.length + 1)
    if unit = 0x22 ∧ (scan.stack ≠ [] ∨ 0 < scan.overflow) then
      match afterJsonString rest with
      | none => some scan
      | some more => walk fuel more scan
    else if unit = 0x7B then walk fuel rest (scan.openBrace index)
    else if unit = 0x7D then (scan.closeBrace text index).bind (walk fuel rest)
    else walk fuel rest scan

def unwind (scan : BraceScan) (kids : List BraceSpan) : List OpenBrace → Option BraceScan
  | [] => kids.foldlM (take text) scan
  | last :: rest => unwind scan (last.kids ++ kids) rest

end BraceScan

/-- One JSON object; zero or several are `null`. -/
def parseLoneEmbeddedObject (text : JsString) : Option Json := do
  let scan ← BraceScan.walk text text.length text {}
  let scan ← scan.unwind text [] scan.stack
  if scan.count = 1 then scan.found else none

def jsonParseEmbedded (text : JsString) : Option Json :=
  let trimmed := text.trim
  if trimmed = [] then none
  else match parse trimmed with
    | some value => notNull (some value)
    | none => parseLoneEmbeddedObject trimmed

end CouncilKit.Data.Json
