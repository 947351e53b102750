import TextPattern.Notation.Alternation
import TextPattern.Notation.Render
import TextPattern.Text.Parts

namespace TextPattern.Notation

/-- Names are ASCII: letters, digits, underscores and hyphens, the first no digit and no hyphen. -/
def isNameStart (c : Char) : Bool :=
  c.isAlpha || c == '_'

def isNameChar (c : Char) : Bool :=
  isNameStart c || c.isDigit || c == '-'

/-- A token of which a part is read; texts are held last character first. -/
inductive Lexeme
  /-- Between two tokens. -/
  | blank
  | text (comparison : Comparison) (read : List Char)
  /-- After a backslash in a text. -/
  | escape (comparison : Comparison) (read : List Char)
  | classes (read : List Char)
  | count (value : Nat)
  | name (read : List Char)
  /-- After a name and a space, before the colon. -/
  | label (name : String)

/-- A pattern text of which a part is read: the token, the alternation that it belongs to, and the
open brackets around that, each with the alternation outside it. -/
structure Reading where
  lexeme : Lexeme
  current : Alternation
  frames : List (Bracket × Alternation)

def classTest (name : List Char) : Except NotationError CharTest :=
  let name := String.ofList (Text.trim name)
  match CharClass.ofName? name with
  | some k => .ok k.test
  | none => .error (.unknownClass name)

/-- The test that stands between angle brackets, one class name or several with bars between. -/
def classesTest (body : List Char) : Except NotationError CharTest := do
  let (first, others) := Text.splitAt '|' body
  let test ← classTest first
  let tests ← others.mapM classTest
  return tests.foldl (CharTest.either 0) test

namespace Reading

def start : Reading :=
  ⟨.blank, .start, []⟩

def operator (r : Reading) (o : Operator) : Reading :=
  { r with lexeme := .blank, current := r.current.operator o }

def operand (r : Reading) (p : Pattern) : Reading :=
  { r with lexeme := .blank, current := r.current.operand p }

def enter (r : Reading) (b : Bracket) : Reading :=
  ⟨.blank, .start, (b, r.current) :: r.frames⟩

/-- A bar ends a sequence, so there has to be one. -/
def bar (r : Reading) : Except NotationError Reading :=
  match r.current.complete? with
  | none => .error (.unexpectedChar '|')
  | some p => .ok ⟨.blank, .after p, r.frames⟩

/-- A comma or a closing bracket ends a part of the innermost open bracket. -/
def turn (r : Reading) (c : Char) : Except NotationError Reading :=
  match r.current.complete?, r.frames with
  | none, _ => .error (.unexpectedChar c)
  | some _, [] => .error (.unexpectedChar c)
  | some p, (b, outer) :: frames =>
    match b.turn? p c with
    | none => .error b.unclosed
    | some (.next b) => .ok ⟨.blank, .start, (b, outer) :: frames⟩
    | some (.closed p) => .ok ⟨.blank, outer.operand p, frames⟩

/-- A character where a token may begin. -/
def beginToken (r : Reading) (c : Char) : Except NotationError Reading :=
  if Unicode.isWhiteSpace c then .ok { r with lexeme := .blank }
  else if c.isDigit then .ok { r with lexeme := .count (c.toNat - '0'.toNat) }
  else if isNameStart c then .ok { r with lexeme := .name [c] }
  else
    match c with
    | '!' => .ok (r.operator .negation)
    | '~' => .ok (r.operator .optional)
    | '*' => .ok (r.operator .span)
    | '"' => .ok { r with lexeme := .text .matchCase [] }
    | '\x27' => .ok { r with lexeme := .text .ignoreCase [] }
    | '<' => .ok { r with lexeme := .classes [] }
    | '(' => .ok (r.enter .group)
    | '[' => .ok (r.enter .rangeOpener)
    | '\x7b' => .ok (r.enter .nestedOpener)
    | '|' => r.bar
    | ',' | ')' | ']' | '\x7d' => r.turn c
    | _ => .error (.unexpectedChar c)

/-- A character after a name, which has to lead to a colon. -/
def awaitColon (r : Reading) (name : String) (c : Char) : Except NotationError Reading :=
  if c == ':' then .ok (r.operator (.capture name))
  else if Unicode.isWhiteSpace c then .ok { r with lexeme := .label name }
  else .error (.unexpectedChar c)

/-- Reads one more character. -/
def feed (r : Reading) (c : Char) : Except NotationError Reading :=
  match r.lexeme with
  | .blank => r.beginToken c
  | .text k read =>
    if c == k.quote then .ok (r.operand (.literal ⟨read.reverse, k⟩))
    else if c == '\\' then .ok { r with lexeme := .escape k read }
    else .ok { r with lexeme := .text k (c :: read) }
  | .escape k read => .ok { r with lexeme := .text k (c :: read) }
  | .classes read =>
    if c == '>' then (classesTest read.reverse).map fun t => r.operand (.test t)
    else .ok { r with lexeme := .classes (c :: read) }
  | .count value =>
    if c.isDigit then
      let value := 10 * value + (c.toNat - '0'.toNat)
      if value < UInt64.size then .ok { r with lexeme := .count value } else .error .invalidNumber
    else (r.operator (.repeated value.toUInt64)).beginToken c
  | .name read =>
    if isNameChar c then .ok { r with lexeme := .name (c :: read) }
    else r.awaitColon (String.ofList read.reverse) c
  | .label name => r.awaitColon name c

/-- The pattern that was read, if the text may end here. -/
def finish (r : Reading) : Except NotationError Pattern :=
  match r.lexeme with
  | .text _ _ | .escape _ _ => .error .unclosedString
  | .classes _ => .error .unclosedClass
  | .count _ | .name _ | .label _ => .error .unexpectedEnd
  | .blank =>
    match r.current.complete?, r.frames with
    | none, _ => .error .unexpectedEnd
    | some p, [] => .ok p
    | some _, (b, _) :: _ => .error b.unclosed

end Reading

end TextPattern.Notation

namespace TextPattern.Pattern

/-- Reads a pattern text. -/
def parse (text : List Char) : Except NotationError Pattern := do
  let reading ← text.foldlM Notation.Reading.feed .start
  reading.finish

end TextPattern.Pattern
