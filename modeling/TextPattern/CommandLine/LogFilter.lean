import TextPattern.CharClass
import TextPattern.Regex.Validity
import TextPattern.Text.Bytes
import TextPattern.Text.Decimal
import TextPattern.Text.Parts

namespace TextPattern.CommandLine

/-- What is wrong with a log filter. -/
inductive LogFilterError
  | level
  | directive
  | field (refusal : Regex.Refusal)
  /-- A part of a directive would begin or end inside of a character. -/
  | insideCharacter

/-- What the levels may be. -/
def levelCause : String :=
  "error parsing level filter: expected one of \"off\", \"error\", \"warn\", \"info\", \"debug\", " ++
    "\"trace\", or a number 0-5"

/-- The cause of a bad directive is told with the directive, and then once more with its own
causes. -/
def LogFilterError.message : LogFilterError → String
  | level => levelCause ++ ": " ++ levelCause
  | directive => "invalid filter directive"
  | field refusal =>
    let causes := refusal.causes
    "invalid field filter: " ++ String.intercalate ": " (causes.take 1 ++ causes)
  | insideCharacter => "a part begins or ends inside of a character"

/-- How far a directive is read: a target, a span with fields, and a level, none of them needed.
A part that is not complete is held by the place where it begins. -/
inductive Directive
  | start
  | target (start : Nat)
  | span (start : Nat)
  | field (start : Nat)
  | afterFields
  | afterSpan
  | level (start : Nat)

namespace Directive

def isLevel (text : List Char) : Bool :=
  text.isEmpty || (Text.word? text).any (· ≤ 5) ||
    ["off", "error", "warn", "info", "debug", "trace"].contains
      (String.ofList (text.map Char.toLower))

/-- Between a first and a second equals sign a field has its value: a number, or else a regex. -/
def checkField (text : List Char) : Except LogFilterError Unit :=
  match (Text.splitAt '=' text).2 with
  | value :: _ => if Text.isNumber value then .ok () else (Regex.validate value).mapError .field
  | [] => if text.isEmpty then .error .directive else .ok ()

/-- A part of a directive. Its places are counted without the white space at the beginning of the
directive, but they are looked up in the whole of it. -/
def part (whole : List Char) (start stop : Nat) : Except LogFilterError (List Char) :=
  match Text.slice? start stop whole with
  | some text => .ok text
  | none => .error .insideCharacter

def next (whole : List Char) : Directive → Nat × Char → Except LogFilterError Directive
  | start, (i, c) =>
    if c == '[' then .ok (span (i + 1))
    else if CharClass.alnum.accepts c || c == '-' || c == ':' || c == '_' then .ok (target i)
    else .error .directive
  | target s, (i, c) => do
    if c == '=' || c == '[' then
      let _ ← part whole s i
      return if c == '=' then level (i + 1) else span (i + 1)
    else return target s
  | span s, (i, c) => do
    if c == ']' || c == '\x7b' then
      let _ ← part whole s i
      return if c == ']' then afterSpan else field (i + 1)
    else return span s
  | field s, (i, c) => do
    if c == '\x7d' then
      checkField (← part whole s i)
      return afterFields
    else return field s
  | afterFields, (_, c) => if c == ']' then .ok afterSpan else .error .directive
  | afterSpan, (i, c) => if c == '=' then .ok (level (i + 1)) else .error .directive
  | level s, _ => .ok (level s)

/-- Whether a directive may end like this. -/
def finish (whole : List Char) : Directive → Except LogFilterError Unit
  | target _ | afterSpan => .ok ()
  | level s =>
    match Text.dropBytes? s whole with
    | some text => if isLevel text then .ok () else .error .level
    | none => .error .insideCharacter
  | start | span _ | field _ | afterFields => .error .directive

def check (whole : List Char) : Except LogFilterError Unit := do
  let read ← (Text.withOffsets 0 (Text.trim whole)).foldlM (next whole) start
  read.finish whole

end Directive

/-- A log filter is a list of directives with commas between, some of which may be empty. -/
def checkLogFilter (text : List Char) : Except LogFilterError Unit :=
  let (first, others) := Text.splitAt ',' text
  ((first :: others).filter fun part => !part.isEmpty).forM Directive.check

end TextPattern.CommandLine
