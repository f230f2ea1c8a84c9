import CouncilKit.Data.Unicode

namespace CouncilKit.Data

/-! The matcher of ECMAScript: a node is given the rest of the pattern as a
continuation and tries its alternatives in order, so the first success is the
match the engine reports.  A pattern is built from the constructors below and
the combinators after them; its source text stands beside each definition that
transcribes one.
-/

inductive Regex where
  | empty
  /-- One code unit. -/
  | unitWhere (accepts : CodeUnit → Bool)
  /-- One code point, as under the `u` flag. -/
  | pointWhere (accepts : Nat → Bool)
  | seq (first second : Regex)
  | alt (first second : Regex)
  | many (greedy : Bool) (least : Nat) (most : Option Nat) (body : Regex)
  | capture (index : Nat) (body : Regex)
  | lookahead (positive : Bool) (body : Regex)
  | backreference (index : Nat)
  | start
  | stop
  /-- `^` and `$` under the `m` flag. -/
  | lineStart
  | lineStop
  | wordBoundary

namespace Regex

/-- A position in the subject, with the text each group has captured. -/
structure Cursor where
  behind : List CodeUnit
  ahead : List CodeUnit
  captures : List (Nat × JsString)

abbrev Continuation := Cursor → Option Cursor

def isDigit (unit : CodeUnit) : Bool := 0x30 ≤ unit && unit ≤ 0x39

def isAlpha (unit : CodeUnit) : Bool :=
  (0x41 ≤ unit && unit ≤ 0x5A) || (0x61 ≤ unit && unit ≤ 0x7A)

/-- `\w` -/
def isWord (unit : CodeUnit) : Bool := isDigit unit || isAlpha unit || unit == 0x5F

def isLineTerminator (unit : CodeUnit) : Bool :=
  unit == 0xA || unit == 0xD || unit == 0x2028 || unit == 0x2029

def groups : Regex → List Nat
  | .capture index body => index :: body.groups
  | .seq first second | .alt first second => first.groups ++ second.groups
  | .many _ _ _ body => body.groups
  | .lookahead _ body => body.groups
  | _ => []

def Cursor.step (cursor : Cursor) (unit : CodeUnit) (rest : List CodeUnit) : Cursor :=
  { cursor with behind := unit :: cursor.behind, ahead := rest }

def codePoint : List CodeUnit → Option (Nat × List CodeUnit)
  | [] => none
  | [unit] => some (unit.toNat, [])
  | high :: low :: rest =>
    if 0xD800 ≤ high ∧ high ≤ 0xDBFF ∧ 0xDC00 ≤ low ∧ low ≤ 0xDFFF then
      some (0x10000 + (high.toNat - 0xD800) * 0x400 + (low.toNat - 0xDC00), rest)
    else some (high.toNat, low :: rest)

def consume (text : JsString) (cursor : Cursor) : Option Cursor :=
  if text.isPrefixOf cursor.ahead then
    some { cursor with
      behind := text.reverse ++ cursor.behind
      ahead := cursor.ahead.drop text.length }
  else none

/-- The loop of a quantifier.  An optional round that consumes nothing is
refused, so `rounds` beyond the required ones and the text ahead is never used. -/
def repeatBody (body : Cursor → Continuation → Option Cursor) (inner : List Nat) (greedy : Bool) :
    (rounds : Nat) → (least : Nat) → (most : Option Nat) → Cursor → Continuation → Option Cursor
  | 0, _, _, _, _ => none
  | rounds + 1, least, most, cursor, next =>
    if most = some 0 then next cursor
    else
      let fresh := { cursor with
        captures := cursor.captures.filter fun entry => !inner.contains entry.1 }
      let again := body fresh fun after =>
        if least = 0 ∧ after.ahead.length = cursor.ahead.length then none
        else repeatBody body inner greedy rounds (least - 1) (most.map (· - 1)) after next
      if least ≠ 0 then again
      else if greedy then again.or (next cursor)
      else (next cursor).or again

def run : Regex → Cursor → Continuation → Option Cursor
  | .empty, cursor, next => next cursor
  | .unitWhere accepts, cursor, next =>
    match cursor.ahead with
    | [] => none
    | unit :: rest => if accepts unit then next (cursor.step unit rest) else none
  | .pointWhere accepts, cursor, next =>
    match codePoint cursor.ahead with
    | none => none
    | some (point, rest) =>
      if accepts point then
        next { cursor with
          behind := (cursor.ahead.take (cursor.ahead.length - rest.length)).reverse ++ cursor.behind
          ahead := rest }
      else none
  | .seq first second, cursor, next => first.run cursor fun middle => second.run middle next
  | .alt first second, cursor, next => (first.run cursor next).or (second.run cursor next)
  | .many greedy least most body, cursor, next =>
    repeatBody body.run body.groups greedy (least + cursor.ahead.length + 1) least most cursor next
  | .capture index body, cursor, next =>
    body.run cursor fun after =>
      let taken := cursor.ahead.take (cursor.ahead.length - after.ahead.length)
      next { after with captures := (index, taken) :: after.captures }
  | .lookahead positive body, cursor, next =>
    match body.run cursor some, positive with
    | some found, true => next { cursor with captures := found.captures }
    | none, false => next cursor
    | _, _ => none
  | .backreference index, cursor, next =>
    match cursor.captures.lookup index with
    | none => next cursor
    | some text => (consume text cursor).bind next
  | .start, cursor, next => if cursor.behind = [] then next cursor else none
  | .stop, cursor, next => if cursor.ahead = [] then next cursor else none
  | .lineStart, cursor, next =>
    if cursor.behind.head?.all isLineTerminator then next cursor else none
  | .lineStop, cursor, next =>
    if cursor.ahead.head?.all isLineTerminator then next cursor else none
  | .wordBoundary, cursor, next =>
    if cursor.behind.head?.any isWord ≠ cursor.ahead.head?.any isWord then next cursor else none

structure Match where
  before : JsString
  whole : JsString
  groups : List (Nat × JsString)
  after : JsString

def Match.group (found : Match) (index : Nat) : Option JsString := found.groups.lookup index

/-- Search from a position; `unicode` moves by code points. -/
def execFrom (pattern : Regex) (unicode : Bool) :
    (tries : Nat) → (behind ahead : List CodeUnit) → Option Match
  | 0, _, _ => none
  | tries + 1, behind, ahead =>
    match pattern.run ⟨behind, ahead, []⟩ some with
    | some final => some {
        before := behind.reverse
        whole := ahead.take (ahead.length - final.ahead.length)
        groups := final.captures
        after := final.ahead }
    | none =>
      let rest := if unicode then (codePoint ahead).map (·.2) else ahead.tail?
      match rest with
      | none => none
      | some rest =>
        execFrom pattern unicode tries ((ahead.take (ahead.length - rest.length)).reverse ++ behind) rest

variable (pattern : Regex) (text : JsString) (unicode : Bool := false)

/-- `pattern.exec(text)` of a pattern without the `g` flag. -/
def exec : Option Match :=
  execFrom pattern unicode (text.length + 1) [] text

def test : Bool :=
  (exec pattern text unicode).isSome

/-- The successive matches of a pattern with the `g` flag, each `before` being
the text since the previous match. -/
def matchesFrom (pattern : Regex) (unicode : Bool) :
    (rounds : Nat) → (behind ahead : List CodeUnit) → List Match
  | 0, _, _ => []
  | rounds + 1, behind, ahead =>
    match execFrom pattern unicode (ahead.length + 1) behind ahead with
    | none => []
    | some found =>
      let passed := ahead.take (ahead.length - found.after.length)
      let fresh := { found with before := found.before.drop behind.length }
      match found.whole, found.after with
      | [], [] => [fresh]
      | [], unit :: rest =>
        fresh :: matchesFrom pattern unicode rounds (unit :: (passed.reverse ++ behind)) rest
      | _, rest => fresh :: matchesFrom pattern unicode rounds (passed.reverse ++ behind) rest

def matchAll : List Match :=
  matchesFrom pattern unicode (text.length + 1) [] text

/-- `text.replace(pattern, replacement)` without the `g` flag. -/
def replaceFirst (pattern : Regex) (replacement : Match → JsString) (text : JsString)
    (unicode : Bool := false) : JsString :=
  match exec pattern text unicode with
  | none => text
  | some found => found.before ++ replacement found ++ found.after

/-- `text.replace(pattern, replacement)` with the `g` flag, for patterns that
never match the empty string. -/
def replaceAll (pattern : Regex) (replacement : Match → JsString) (text : JsString)
    (unicode : Bool := false) : JsString :=
  let found := matchAll pattern text unicode
  (found.flatMap fun hit => hit.before ++ replacement hit) ++
    (found.getLast?.elim text (·.after))

def all : List Regex → Regex
  | [] => .empty
  | [pattern] => pattern
  | pattern :: rest => .seq pattern (all rest)

def any : List Regex → Regex
  | [] => .unitWhere fun _ => false
  | [pattern] => pattern
  | pattern :: rest => .alt pattern (any rest)

def lit (text : JsString) : Regex := all (text.map fun wanted => .unitWhere (· == wanted))

/-- A literal under the `i` flag.  Outside ASCII the letters used have no case. -/
def caseless (text : JsString) : Regex :=
  all (text.map fun wanted => .unitWhere fun unit => lowerAscii unit == lowerAscii wanted)

def oneOf (units : JsString) : Regex := .unitWhere units.contains

def noneOf (units : JsString) : Regex := .unitWhere fun unit => !units.contains unit

def star (body : Regex) : Regex := .many true 0 none body

def plus (body : Regex) : Regex := .many true 1 none body

def optional (body : Regex) : Regex := .many true 0 (some 1) body

def lazyStar (body : Regex) : Regex := .many false 0 none body

def between (least most : Nat) (body : Regex) : Regex := .many true least (some most) body

/-- `\s` -/
def space : Regex := .unitWhere isSpace

/-- `\d` -/
def digit : Regex := .unitWhere isDigit

/-- `.` -/
def dot : Regex := .unitWhere fun unit => !isLineTerminator unit

end Regex

end CouncilKit.Data
