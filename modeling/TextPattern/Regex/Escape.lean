import TextPattern.Regex.Source
import TextPattern.Regex.Tree

namespace TextPattern.Regex

def isHexDigit (c : Char) : Bool :=
  c.isDigit || ('a' ≤ c && c ≤ 'f') || ('A' ≤ c && c ≤ 'F')

def hexDigitValue (c : Char) : Nat :=
  if c.isDigit then c.toNat - '0'.toNat else c.toLower.toNat - 'a'.toNat + 10

/-- The character with a number in hexadecimal digits. -/
def hexCharacter? (digits : List Char) : Option Char :=
  let n := digits.foldl (fun n c => 16 * n + hexDigitValue c) 0
  if n.isValidChar then some (Char.ofNat n) else none

def readHexDigits : Nat → Read (List Char)
  | 0 => return []
  | n + 1 => do
    match ← next? with
    | none => fail .escapeIncomplete (← here)
    | some c =>
      if !isHexDigit c then fail .hexDigit (← nextSpan)
      advanceSpaced
      return c :: (← readHexDigits n)

/-- Hexadecimal digits, of which a letter before them tells how many there are, or any number of
them in braces. -/
def readHex (start : Place) : Read Letter := do
  let count := match ← next? with
    | some 'x' => 2
    | some 'u' => 4
    | _ => 8
  advanceSpaced
  needMore .escapeIncomplete (← here)
  if (← next?) == some '\x7b' then
    let brace ← nextSpan
    advanceSpaced
    let digits ← takeRun isHexDigit
    needMore .escapeIncomplete (← since brace.start)
    if (← next?) != some '\x7d' then fail .hexDigit (← nextSpan)
    let stop ← place
    advanceSpaced
    if digits.isEmpty then fail .hexEmpty (← since brace.start)
    let some c := hexCharacter? digits | fail .hexNoCharacter ⟨brace.stop, stop⟩
    return ⟨← since start, c, false⟩
  else
    let first ← place
    let digits ← readHexDigits count
    let some c := hexCharacter? digits | fail .hexNoCharacter (← since first)
    return ⟨← since start, c, count == 2⟩

/-- A property of characters, by a letter or by a name in braces. -/
def readProperty (start : Place) : Read Node := do
  advanceSpaced
  needMore .escapeIncomplete (← here)
  match ← next? with
  | some '\\' => fail .propertyInvalid (← nextSpan)
  | some '\x7b' =>
    advanceSpaced
    let _ ← takeRun (· != '\x7d')
    needMore .escapeIncomplete (← here)
    advance
  | _ => advanceSpaced
  return .property (← since start)

def boundaryNames : List String :=
  ["start", "end", "start-half", "end-half"]

def isBoundaryNameCharacter (c : Char) : Bool :=
  c.isAlpha || c == '-'

/-- A word boundary, after which its kind may stand in braces. A brace may also begin a count. -/
def readWordBoundary (start : Place) : Read Node := do
  let bare ← get
  if bare.rest.head? != some '\x7b' then return .wordBoundary (← since start)
  advanceSpaced
  needMore .boundaryOrCountUnclosed (← since start)
  let first ← place
  let name ← takeRun isBoundaryNameCharacter
  if name.isEmpty then
    set bare
    return .wordBoundary (← since start)
  let stop ← place
  if (← next?) != some '\x7d' then fail .boundaryUnclosed ⟨bare.place, stop⟩
  advance
  if !boundaryNames.contains (String.ofList name) then fail .boundaryUnknown ⟨first, stop⟩
  return .wordBoundary (← since start)

/-- Whether the character stands for itself after a backslash. -/
def isEscapable (c : Char) : Bool :=
  c.toNat < 0x80 && !c.isAlphanum && c != '<' && c != '>'

/-- The characters that have letters of their own after a backslash. -/
def namedCharacter? : Char → Option Char
  | 'a' => some '\x07'
  | 'f' => some '\x0c'
  | 't' => some '\t'
  | 'n' => some '\n'
  | 'r' => some '\r'
  | 'v' => some '\x0b'
  | _ => none

def readEscape : Read Node := do
  let start ← place
  advance
  let some c ← next? | fail .escapeIncomplete (← since start)
  if c.isDigit then
    fail .backreference ⟨start, (← nextSpan).stop⟩
  else if ['x', 'u', 'U'].contains c then
    return .letter (← readHex start)
  else if ['p', 'P'].contains c then
    readProperty start
  else
    advance
    let span ← since start
    match c with
    | 'd' | 's' | 'w' => return .perl span false
    | 'D' | 'S' | 'W' => return .perl span true
    | 'A' | 'z' => return .anchor span
    | 'b' => readWordBoundary start
    | 'B' | '<' | '>' => return .wordBoundary span
    | _ =>
      if isEscapable c then return .letter ⟨span, c, false⟩
      else
        match namedCharacter? c with
        | some named => return .letter ⟨span, named, false⟩
        | none => fail .escapeUnknown span

end TextPattern.Regex
