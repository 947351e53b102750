import TextPattern.Regex.Bracket
import TextPattern.Regex.Group
import TextPattern.Regex.Repetition

namespace TextPattern.Regex

/-- The alternatives of a group or of the whole regex, up to the place that is read. -/
structure Alternatives where
  /-- Where the first one begins. -/
  start : Place
  /-- Those that are complete, the last one first. -/
  branches : List Node
  /-- Where the last one begins. -/
  last : Place
  /-- Its parts, the last one first. -/
  parts : List Node

namespace Alternatives

def startingAt (p : Place) : Alternatives :=
  ⟨p, [], p, []⟩

def push (a : Alternatives) (n : Node) : Alternatives :=
  { a with parts := n :: a.parts }

/-- The last alternative, which ends at a place. -/
def branch (a : Alternatives) (stop : Place) : Node :=
  match a.parts with
  | [] => .empty ⟨a.last, stop⟩
  | [n] => n
  | parts => .seq ⟨a.last, stop⟩ parts.reverse

/-- The alternatives with a new one, after a bar that begins at `stop` and ends at `next`. -/
def divide (a : Alternatives) (stop next : Place) : Alternatives :=
  { a with branches := a.branch stop :: a.branches, last := next, parts := [] }

def toNode (a : Alternatives) (stop : Place) : Node :=
  match a.branches with
  | [] => a.branch stop
  | branches => .alt ⟨a.start, stop⟩ (a.branch stop :: branches).reverse

end Alternatives

/-- A group of which the end is not read yet. -/
structure OpenGroup where
  opening : Span
  signs : List FlagSign
  /-- What is around it. -/
  around : Alternatives
  /-- Whether white space means nothing there. -/
  spaced : Bool

/-- White space means nothing from here on, or something, if the flags say so. -/
def setSpaced (signs : List FlagSign) : Read Unit :=
  modify fun s => { s with spaced := (FlagSign.setting? 'x' signs).getD s.spaced }

/-- The last part as the operand of a repetition, and what is before it. -/
def takeOperand (a : Alternatives) : Read (Node × Alternatives) := do
  match a.parts with
  | [] | .empty _ :: _ | .flags _ _ :: _ => fail .operandMissing (← here)
  | n :: before => return (n, { a with parts := before })

/-- One character or class, outside of brackets. -/
def readPart (c : Char) : Read Node := do
  let span ← nextSpan
  match c with
  | '\\' => readEscape
  | '[' => readClass
  | '.' =>
    advance
    return .dot span
  | '^' | '$' =>
    advance
    return .anchor span
  | _ =>
    advance
    return .letter ⟨span, c, false⟩

/-- The rest of a regex, with the open groups, the innermost first. Each step takes a character,
so the number of characters that are left bounds the steps. -/
def readRest : Nat → Alternatives → List OpenGroup → Read Node
  | 0, a, groups => finish a groups
  | n + 1, a, groups => do
    skipSpace
    let span ← nextSpan
    match ← next? with
    | none => finish a groups
    | some '(' =>
      match ← readOpening span with
      | .flags span signs =>
        setSpaced signs
        readRest n (a.push (.flags span signs)) groups
      | .group signs =>
        let group := ⟨span, signs, a, (← get).spaced⟩
        setSpaced signs
        readRest n (.startingAt (← place)) (group :: groups)
    | some ')' =>
      match groups with
      | [] => fail .groupUnopened span
      | g :: groups =>
        advance
        modify fun s => { s with spaced := g.spaced }
        let group := .group (← since g.opening.start) g.signs (a.toNode span.start)
        readRest n (g.around.push group) groups
    | some '|' =>
      advance
      readRest n (a.divide span.start (← place)) groups
    | some '*' | some '+' | some '?' =>
      let (operand, before) ← takeOperand a
      readRest n (before.push (← readRepeated operand)) groups
    | some '\x7b' =>
      let (operand, before) ← takeOperand a
      readRest n (before.push (← readCounted operand)) groups
    | some c => readRest n (a.push (← readPart c)) groups
where
  finish (a : Alternatives) : List OpenGroup → Read Node
    | [] => return a.toNode (← place)
    | g :: _ => fail .groupUnclosed g.opening

def Node.parse (text : List Char) : Except SyntaxError Node :=
  (readRest text.length (.startingAt .first) []).run' (.ofText text)

end TextPattern.Regex
