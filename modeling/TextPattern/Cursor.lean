import TextPattern.Pattern.Matching

namespace TextPattern

/-- A place in a text that patterns move forward. -/
structure Cursor where
  text : List Char
  position : Nat
  position_le : position ≤ text.length

/-- Why a stretch of a text cannot be asked for. -/
inductive StretchError
  /-- Its end does not fit a 64-bit word. -/
  | overflow
  /-- Its end lies after the end of the text. -/
  | pastEnd
deriving DecidableEq

namespace Cursor

/-- The place `n` characters into a text, or its end if that is nearer. -/
def place (text : List Char) (n : Nat) : Cursor :=
  ⟨text, min n text.length, Nat.min_le_right _ _⟩

def start (text : List Char) : Cursor :=
  ⟨text, 0, Nat.zero_le _⟩

def seek (c : Cursor) (n : Nat) : Cursor :=
  place c.text n

def point (c : Cursor) : Point :=
  .within c.text c.position

def remaining (c : Cursor) : Nat :=
  c.text.length - c.position

def atEnd (c : Cursor) : Bool :=
  c.position == c.text.length

def peek (c : Cursor) : Option Char :=
  c.point.rest.head?

/-- The next `n` characters, if there are so many. -/
def peekMany (c : Cursor) (n : Nat) : Except StretchError (Option (List Char)) :=
  if UInt64.size ≤ c.position + n then .error .overflow
  else if n ≤ c.remaining then .ok (some (c.point.rest.take n))
  else .ok none

/-- The `n` characters from `start` on, wherever the cursor is. -/
def slice (c : Cursor) (start n : Nat) : Except StretchError (List Char) :=
  if UInt64.size ≤ start + n then .error .overflow
  else if start + n ≤ c.text.length then .ok ((c.text.drop start).take n)
  else .error .pastEnd

def header (c : Cursor) (p : Pattern) (mode : Mode) : Bool :=
  p.header mode c.point.rest

/-- Matches a pattern here. The cursor goes to the end of the match; a failure leaves it. -/
def run (c : Cursor) (p : Pattern) (mode : Mode) : Except (MatchError Pattern) Match × Cursor :=
  match h : p.run mode c.point with
  | .error e => (.error e, c)
  | .ok m =>
    (.ok m, ⟨c.text, c.position + m.length, by
      have fits := (p.matcher mode).fits h
      have := c.position_le
      simp only [point, Point.rest_within, List.length_drop] at fits
      omega⟩)

theorem run_ok {c : Cursor} {p : Pattern} {mode : Mode} {m : Match}
    (h : p.run mode c.point = .ok m) : (c.run p mode).1 = .ok m ∧
      (c.run p mode).2.text = c.text ∧ (c.run p mode).2.position = c.position + m.length := by
  unfold run
  split
  next e he => rw [h] at he; cases he
  next n hn => rw [h] at hn; cases hn; exact ⟨rfl, rfl, rfl⟩

theorem run_error {c : Cursor} {p : Pattern} {mode : Mode} {e : MatchError Pattern}
    (h : p.run mode c.point = .error e) : c.run p mode = (.error e, c) := by
  unfold run
  split
  next n hn => rw [h] at hn; cases hn; rfl
  next m hm => rw [h] at hm; cases hm

theorem run_fst (c : Cursor) (p : Pattern) (mode : Mode) : (c.run p mode).1 = p.run mode c.point := by
  cases h : p.run mode c.point with
  | error e => rw [run_error h]
  | ok m => exact (run_ok h).1

end Cursor

end TextPattern
