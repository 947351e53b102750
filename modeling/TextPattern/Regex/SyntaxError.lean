import TextPattern.Regex.Span
import TextPattern.Text.Parts

namespace TextPattern.Regex

/-- How deep the parts of a regex may lie in each other. -/
def nestingLimit : Nat := 250

/-- What can be wrong with a regex. -/
inductive Mistake
  | escapeInClass
  | rangeBackwards
  | rangeBoundary
  | classUnclosed
  | decimalTooBig
  | hexEmpty
  | hexNoCharacter
  | hexDigit
  | escapeIncomplete
  | escapeUnknown
  | negationDangling
  | flagDuplicate
  | negationRepeated
  | flagsUnclosed
  | flagUnknown
  | nameDuplicate
  | nameEmpty
  | nameCharacter
  | nameUnclosed
  | groupUnclosed
  | groupUnopened
  | nestedTooDeep
  | countBackwards
  | countMissing
  | countUnclosed
  | operandMissing
  | boundaryUnclosed
  | boundaryUnknown
  | boundaryOrCountUnclosed
  | propertyInvalid
  | backreference
  | lookAround
  | unicodeNotAllowed
  | invalidUtf8
  | propertyNotFound
  | perlClassNotFound
  | caseUnavailable

def Mistake.message : Mistake → String
  | escapeInClass => "invalid escape sequence found in character class"
  | rangeBackwards => "invalid character class range, the start must be <= the end"
  | rangeBoundary => "invalid range boundary, must be a literal"
  | classUnclosed => "unclosed character class"
  | decimalTooBig => "decimal literal invalid"
  | hexEmpty => "hexadecimal literal empty"
  | hexNoCharacter => "hexadecimal literal is not a Unicode scalar value"
  | hexDigit => "invalid hexadecimal digit"
  | escapeIncomplete => "incomplete escape sequence, reached end of pattern prematurely"
  | escapeUnknown => "unrecognized escape sequence"
  | negationDangling => "dangling flag negation operator"
  | flagDuplicate => "duplicate flag"
  | negationRepeated => "flag negation operator repeated"
  | flagsUnclosed => "expected flag but got end of regex"
  | flagUnknown => "unrecognized flag"
  | nameDuplicate => "duplicate capture group name"
  | nameEmpty => "empty capture group name"
  | nameCharacter => "invalid capture group character"
  | nameUnclosed => "unclosed capture group name"
  | groupUnclosed => "unclosed group"
  | groupUnopened => "unopened group"
  | nestedTooDeep =>
    "exceed the maximum number of nested parentheses/brackets (" ++ toString nestingLimit ++ ")"
  | countBackwards => "invalid repetition count range, the start must be <= the end"
  | countMissing => "repetition quantifier expects a valid decimal"
  | countUnclosed => "unclosed counted repetition"
  | operandMissing => "repetition operator missing expression"
  | boundaryUnclosed =>
    "special word boundary assertion is either unclosed or contains an invalid character"
  | boundaryUnknown =>
    "unrecognized special word boundary assertion, valid choices are: start, end, start-half " ++
      "or end-half"
  | boundaryOrCountUnclosed =>
    "found either the beginning of a special word boundary or a bounded repetition on a \\b " ++
      "with an opening brace, but no closing brace"
  | propertyInvalid => "invalid Unicode character class"
  | backreference => "backreferences are not supported"
  | lookAround => "look-around, including look-ahead and look-behind, is not supported"
  | unicodeNotAllowed => "Unicode not allowed here"
  | invalidUtf8 => "pattern can match invalid UTF-8"
  | propertyNotFound => "Unicode property not found"
  | perlClassNotFound =>
    "Unicode-aware Perl class not found (make sure the unicode-perl feature is enabled)"
  | caseUnavailable =>
    "Unicode-aware case insensitivity matching is not available (make sure the unicode-case " ++
      "feature is enabled)"

/-- A mistake at a place. -/
structure SyntaxError where
  mistake : Mistake
  span : Span
  /-- What stands before it and does not go with it. -/
  earlier : Option Span

namespace SyntaxError

/-- The marks under a line, of which those before a column are written. -/
def carets (column : Nat) : List Span → List Char
  | [] => []
  | s :: rest =>
    let gap := s.start.column - column
    let width := max 1 (s.stop.column - s.start.column)
    List.replicate gap ' ' ++ List.replicate width '^' ++ carets (column + gap + width) rest

/-- The lines of a text with their numbers. An empty line at the end is left out. -/
def numberedLines (text : List Char) : List (List Char × Nat) :=
  let (first, others) := Text.splitAt '\n' text
  let lines := first :: others
  let ended := lines.dropLast.map fun l => if l.getLast? == some '\r' then l.dropLast else l
  (ended ++ (lines.drop ended.length).filter (!·.isEmpty)).zipIdx 1

/-- The text with marks under what is wrong. Where it has more than one line, they have numbers. -/
def marked (spans : List Span) (text : List Char) : List (List Char) :=
  let width := (Nat.toDigits 10 ((Text.splitAt '\n' text).2.length + 1)).length
  (numberedLines text).flatMap fun (line, n) =>
    let number := Nat.toDigits 10 n
    let margin := if text.contains '\n' then
        List.replicate (width - number.length) ' ' ++ number ++ [':', ' ']
      else List.replicate 4 ' '
    let here := spans.filter fun s => s.start.line == n && s.stop.line == n
    let marks := if here.isEmpty then [] else [List.replicate margin.length ' ' ++ carets 1 here]
    (margin ++ line) :: marks

/-- Where something is that has no place under one line. -/
def placeNote (s : Span) : String :=
  "on line " ++ toString s.start.line ++ " (column " ++ toString s.start.column ++
    ") through line " ++ toString s.stop.line ++ " (column " ++ toString (s.stop.column - 1) ++ ")"

/-- The error about a text, which it shows. -/
def report (e : SyntaxError) (text : List Char) : String :=
  let spans := e.earlier.toList ++ [e.span]
  let lines := (marked spans text).map String.ofList
  let divider := String.ofList (List.replicate 79 '~')
  let notes := (spans.filter fun s => s.start.line != s.stop.line).map placeNote
  let shown := if text.contains '\n' then [divider] ++ lines ++ [divider] ++ notes else lines
  String.intercalate "\n" (["regex parse error:"] ++ shown ++ ["error: " ++ e.mistake.message])

end SyntaxError

end TextPattern.Regex
