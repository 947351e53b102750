namespace TextPattern

/-- A text recorded under a name, and how many characters lie before it. -/
structure Capture where
  name : String
  offset : Nat
  text : List Char
deriving DecidableEq

def Capture.length (c : Capture) : Nat :=
  c.text.length

def Capture.stop (c : Capture) : Nat :=
  c.offset + c.length

/-- A stretch of text that was matched: its length, and the captures in the order in which they
were completed. -/
structure Match where
  length : Nat
  captures : List Capture
deriving DecidableEq

namespace Match

def empty : Match :=
  ⟨0, []⟩

/-- Two stretches, one right after the other. -/
def append (m n : Match) : Match :=
  ⟨m.length + n.length, m.captures ++ n.captures⟩

instance : Append Match := ⟨append⟩

/-- One more character, of which nothing is recorded. -/
def skip (m : Match) : Match :=
  ⟨m.length + 1, m.captures⟩

def record (m : Match) (c : Capture) : Match :=
  ⟨m.length, m.captures ++ [c]⟩

def capture? (m : Match) (name : String) : Option Capture :=
  m.captures.find? (·.name == name)

@[simp] theorem length_empty : empty.length = 0 := rfl

@[simp] theorem length_append (m n : Match) : (m ++ n).length = m.length + n.length := rfl

@[simp] theorem captures_append (m n : Match) : (m ++ n).captures = m.captures ++ n.captures := rfl

@[simp] theorem length_skip (m : Match) : m.skip.length = m.length + 1 := rfl

@[simp] theorem captures_skip (m : Match) : m.skip.captures = m.captures := rfl

@[simp] theorem length_record (m : Match) (c : Capture) : (m.record c).length = m.length := rfl

theorem empty_append (m : Match) : empty ++ m = m := by
  change (⟨0 + m.length, [] ++ m.captures⟩ : Match) = m
  rw [Nat.zero_add, List.nil_append]

theorem append_empty (m : Match) : m ++ empty = m := by
  change (⟨m.length + 0, m.captures ++ []⟩ : Match) = m
  rw [Nat.add_zero, List.append_nil]

theorem append_assoc (k m n : Match) : k ++ m ++ n = k ++ (m ++ n) := by
  change (⟨k.length + m.length + n.length, k.captures ++ m.captures ++ n.captures⟩ : Match) =
    ⟨k.length + (m.length + n.length), k.captures ++ (m.captures ++ n.captures)⟩
  rw [Nat.add_assoc, List.append_assoc]

theorem append_skip (m n : Match) : m ++ n.skip = (m ++ n).skip := rfl

end Match

/-- Why nothing was matched. Each cause holds the pattern concerned, or its text. -/
inductive MatchError (α : Type)
  /-- More text was needed than there was. -/
  | endOfSource (expected : α)
  /-- The text was not what was to be consumed. -/
  | unmatched (expected : α)
  /-- The text was what was to be neglected. -/
  | unwanted (found : α)
deriving DecidableEq

namespace MatchError

variable {α β : Type}

def map (f : α → β) : MatchError α → MatchError β
  | endOfSource x => endOfSource (f x)
  | unmatched x => unmatched (f x)
  | unwanted x => unwanted (f x)

def subject : MatchError α → α
  | endOfSource x => x
  | unmatched x => x
  | unwanted x => x

def message : MatchError String → String
  | endOfSource x => "end of source reached while expecting " ++ x
  | unmatched x => "expected " ++ x
  | unwanted x => "found " ++ x ++ " where it was to be neglected"

end MatchError

end TextPattern
