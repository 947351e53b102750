import TextPattern.Notation.Render
import TextPattern.Search
import TextPattern.Text.Lines
import TextPattern.Text.Quoted

namespace TextPattern

/-- The error with the pattern in it written out. -/
def MatchError.rendered (e : MatchError Pattern) : MatchError String :=
  e.map Pattern.renderText

/-- What a piece of a report tells, which decides its colour. -/
inductive Ink
  | location
  | found
  | failure
  | captureName
deriving DecidableEq

def Ink.code : Ink → String
  | location => "11"
  | found => "10"
  | failure => "9"
  | captureName => "14"

/-- A text that is reported on, with the beginnings of its lines, and whether in colour. -/
structure Report where
  text : List Char
  colored : Bool
  starts : Array Nat
  length : Nat
  starts_eq : starts = Text.lineStarts text := by rfl
  length_eq : length = text.length := by rfl

namespace Report

def ofText (text : List Char) (colored : Bool) : Report :=
  { text, colored, starts := Text.lineStarts text, length := text.length }

def position (r : Report) (offset : Nat) : Text.Position :=
  Text.positionAmong r.starts (min offset r.length)

theorem position_eq (r : Report) (offset : Nat) : r.position offset = Text.position r.text offset := by
  rw [position, Text.position, r.starts_eq, r.length_eq]

def paint (r : Report) (ink : Ink) (piece : List Char) : List Char :=
  if r.colored then
    "\x1b[38;5;".toList ++ ink.code.toList ++ 'm' :: piece ++ "\x1b[39m".toList
  else piece

/-- The line and the column of an offset, with a colon between. -/
def location (r : Report) (offset : Nat) : List Char :=
  let position := r.position offset
  r.paint .location (Nat.toDigits 10 position.line ++ ':' :: Nat.toDigits 10 position.column)

def capture (r : Report) (c : Capture) : List Char :=
  r.paint .captureName c.name.toList ++ '=' :: Text.quoted '"' c.text

/-- One line for a hit: where it begins, its text, and its captures. There is none for a hit that
does not lie within the text. -/
def hit? (r : Report) (h : Hit) : Option (List Char) :=
  if h.start ≤ h.stop ∧ h.stop ≤ r.length then
    some (r.location h.start ++ [':', ' '] ++
      r.paint .found (Text.quoted '"' (h.text r.text)) ++
      h.captures.flatMap fun c => ' ' :: r.capture c)
  else none

/-- One line for a failure at an offset: where it is, and its cause. -/
def failure (r : Report) (offset : Nat) (e : MatchError String) : List Char :=
  r.location offset ++ [':', ' '] ++ r.paint .failure e.message.toList

end Report

end TextPattern
