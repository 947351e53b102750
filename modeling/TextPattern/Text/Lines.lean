import TextPattern.Ascending

namespace TextPattern.Text

/-- Whether a line ends with the character `c`, when `rest` follows. A carriage return before a line
feed does not end the line; the line feed does. -/
def endsLine (c : Char) (rest : List Char) : Bool :=
  c == '\n' || (c == '\r' && rest.head? != some '\n')

/-- The offsets at which lines begin: those in `found`, then those behind the character at `offset`
and the ones after it. -/
def lineStartsOnto (found : Array Nat) (offset : Nat) : List Char → Array Nat
  | [] => found
  | c :: rest =>
    lineStartsOnto (if endsLine c rest then found.push (offset + 1) else found) (offset + 1) rest

/-- The offset of the first character of every line. A break at the end begins one more line. -/
def lineStarts (text : List Char) : Array Nat :=
  lineStartsOnto #[0] 0 text

theorem lineStartsOnto_ascending {found : Array Nat} {offset : Nat} {text : List Char}
    (asc : Ascending found) (bound : ∀ i, i < found.size → found.getD i 0 ≤ offset) :
    Ascending (lineStartsOnto found offset text) := by
  induction text generalizing found offset with
  | nil => exact asc
  | cons c rest ih =>
    rw [lineStartsOnto]
    split
    next =>
      apply ih (asc.push fun i hi => Nat.lt_succ_of_le (bound i hi))
      intro i hi
      rw [Array.size_push] at hi
      by_cases old : i < found.size
      · rw [getD_push_lt old]
        exact Nat.le_succ_of_le (bound i old)
      · have new : i = found.size := by omega
        subst new
        exact Nat.le_of_eq (getD_push_size found (offset + 1))
    next =>
      exact ih asc fun i hi => Nat.le_succ_of_le (bound i hi)

theorem lineStarts_ascending (text : List Char) : Ascending (lineStarts text) := by
  apply lineStartsOnto_ascending
  · intro i j lt hj
    simp only [List.size_toArray, List.length_cons, List.length_nil] at hj
    omega
  · intro i hi
    simp only [List.size_toArray, List.length_cons, List.length_nil] at hi
    have hz : i = 0 := by omega
    subst hz
    exact Nat.le_refl _

/-- A line and a column of a text, both counted from one. -/
structure Position where
  line : Nat
  column : Nat
deriving DecidableEq

/-- The position of an offset among lines that begin at `starts`. -/
def positionAmong (starts : Array Nat) (offset : Nat) : Position :=
  let line := countUpTo starts offset
  ⟨line, offset - starts.getD (line - 1) 0 + 1⟩

/-- The position of an offset of a text; offsets after the end count as the end. -/
def position (text : List Char) (offset : Nat) : Position :=
  positionAmong (lineStarts text) (min offset text.length)

end TextPattern.Text
