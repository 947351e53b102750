import TextPattern.Unicode.CaseMap

namespace TextPattern

inductive Comparison
  | matchCase
  | ignoreCase
deriving DecidableEq

def Comparison.sameChar : Comparison → Char → Char → Bool
  | matchCase, a, b => a == b
  | ignoreCase, a, b => a == b || Unicode.lower a == Unicode.lower b

def Comparison.sameText (k : Comparison) : List Char → List Char → Bool
  | [], [] => true
  | x :: xs, y :: ys => k.sameChar x y && k.sameText xs ys
  | _, _ => false

/-- A fixed text and how its characters are compared. -/
structure Literal where
  text : List Char
  comparison : Comparison

def Literal.width (l : Literal) : Nat :=
  l.text.length

def Literal.accepts (l : Literal) (ahead : List Char) : Bool :=
  l.comparison.sameText l.text ahead

theorem Comparison.sameText_length {k : Comparison} {xs ys : List Char}
    (h : k.sameText xs ys) : xs.length = ys.length := by
  induction xs generalizing ys with
  | nil => cases ys <;> simp_all [sameText]
  | cons x xs ih =>
    cases ys with
    | nil => simp [sameText] at h
    | cons y ys =>
      simp only [sameText, Bool.and_eq_true] at h
      simp [ih h.2]

end TextPattern
