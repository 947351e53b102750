namespace TextPattern.Regex

/-- A place in the text of a regex. The first line and the first column have the number one. -/
structure Place where
  line : Nat
  column : Nat
deriving DecidableEq

namespace Place

def first : Place :=
  ⟨1, 1⟩

def after (p : Place) (c : Char) : Place :=
  if c == '\n' then ⟨p.line + 1, 1⟩ else ⟨p.line, p.column + 1⟩

end Place

/-- What lies between two places. -/
structure Span where
  start : Place
  stop : Place

end TextPattern.Regex
