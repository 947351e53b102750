import TextPattern.Regex.SyntaxError
import TextPattern.Unicode.WhiteSpace

namespace TextPattern.Regex

/-- What is left of a regex that is read, and what is known of what is read. -/
structure Source where
  rest : List Char
  place : Place
  /-- Whether white space and comments mean nothing. -/
  spaced : Bool
  names : List (List Char × Span)

abbrev Read := StateT Source (Except SyntaxError)

/-- What follows white space and comments, each of which ends with its line. -/
def pastSpace (inComment : Bool) : List Char → Place → List Char × Place
  | [], p => ([], p)
  | c :: rest, p =>
    if inComment then pastSpace (c != '\n') rest (p.after c)
    else if Unicode.isWhiteSpace c then pastSpace false rest (p.after c)
    else if c == '#' then pastSpace true rest (p.after c)
    else (c :: rest, p)

namespace Source

def ofText (text : List Char) : Source :=
  ⟨text, .first, false, []⟩

def advance (s : Source) : Source :=
  match s.rest with
  | [] => s
  | c :: rest => { s with rest, place := s.place.after c }

def skipSpace (s : Source) : Source :=
  if s.spaced then
    let (rest, place) := pastSpace false s.rest s.place
    { s with rest, place }
  else s

/-- The character after the next one. It may follow white space, and the first sign of a comment. -/
def second? (s : Source) : Option Char :=
  let after := s.rest.tail
  if s.spaced then
    match after.dropWhile Unicode.isWhiteSpace with
    | '#' :: rest => (rest.dropWhile Unicode.isWhiteSpace).head?
    | rest => rest.head?
  else after.head?

def nextSpan (s : Source) : Span :=
  ⟨s.place, s.advance.place⟩

end Source

def fail {α : Type} (m : Mistake) (span : Span) : Read α :=
  throw ⟨m, span, none⟩

def next? : Read (Option Char) :=
  return (← get).rest.head?

def isAtEnd : Read Bool :=
  return (← get).rest.isEmpty

def place : Read Place :=
  return (← get).place

def here : Read Span := do
  let p ← place
  return ⟨p, p⟩

def since (p : Place) : Read Span :=
  return ⟨p, ← place⟩

def nextSpan : Read Span :=
  return (← get).nextSpan

def advance : Read Unit :=
  modify Source.advance

def advanceBy : Nat → Read Unit
  | 0 => return
  | n + 1 => do
    advance
    advanceBy n

def skipSpace : Read Unit :=
  modify Source.skipSpace

def advanceSpaced : Read Unit := do
  advance
  skipSpace

/-- Ends with a mistake if nothing is left. -/
def needMore (m : Mistake) (span : Span) : Read Unit := do
  if ← isAtEnd then fail m span

def takeAtMost (p : Char → Bool) : Nat → Read (List Char)
  | 0 => return []
  | n + 1 => do
    match ← next? with
    | none => return []
    | some c =>
      if p c then
        advanceSpaced
        return c :: (← takeAtMost p n)
      else return []

/-- The longest run of characters that are of some kind. -/
def takeRun (p : Char → Bool) : Read (List Char) := do
  takeAtMost p (← get).rest.length

/-- Passes a fixed text if it is next. -/
def takeText? (text : String) : Read Bool := do
  let found := text.toList.isPrefixOf (← get).rest
  if found then advanceBy text.length
  return found

end TextPattern.Regex
