import TextPattern.Notation.Error
import TextPattern.Pattern.Build

namespace TextPattern.Notation

/-- What is written before an operand and applies to it. -/
inductive Operator
  | negation
  | optional
  | span
  | repeated (count : UInt64)
  | capture (name : String)

def Operator.apply : Operator → Pattern → Pattern
  | negation, p => p.negation
  | optional, p => p.optional
  | span, p => p.span
  | repeated count, p => p.repeated count
  | capture name, p => p.capture name

/-- An alternation that is read from left to right: the choice of the sequences before the last bar,
the terms after it, and the operators that wait for an operand, the nearest one first. -/
structure Alternation where
  choice : Option Pattern
  sequence : Option Pattern
  operators : List Operator

namespace Alternation

def start : Alternation :=
  ⟨none, none, []⟩

/-- An alternation of which all sequences so far are closed by a bar. -/
def after (choice : Pattern) : Alternation :=
  ⟨some choice, none, []⟩

def operator (a : Alternation) (o : Operator) : Alternation :=
  { a with operators := o :: a.operators }

/-- The operand takes up the waiting operators and becomes the next term. -/
def operand (a : Alternation) (p : Pattern) : Alternation :=
  let term := a.operators.foldl (fun q o => o.apply q) p
  { a with
    sequence := some (match a.sequence with
      | none => term
      | some s => s.seq term)
    operators := [] }

/-- The pattern read so far, if it could end here. Its character tests all have names, so the number
of a nameless one is never asked for. -/
def complete? (a : Alternation) : Option Pattern :=
  match a.operators, a.sequence with
  | [], some s =>
    some (match a.choice with
      | none => s
      | some c => c.alternate 0 s)
  | _, _ => none

end Alternation

/-- A bracket that is open, with the parts of it that have been read. -/
inductive Bracket
  | group
  | rangeOpener
  | rangeCloser (opener : Pattern)
  | rangeEscape (opener closer : Pattern)
  | nestedOpener
  | nestedCloser (opener : Pattern)

def Bracket.unclosed : Bracket → NotationError
  | group => .unclosedGroup
  | _ => .unclosedRange

/-- What a comma or a closing bracket does after the part `p`. -/
inductive Bracket.Turn
  | next (bracket : Bracket)
  | closed (result : Pattern)

def Bracket.turn? (b : Bracket) (p : Pattern) (c : Char) : Option Bracket.Turn :=
  match b, c with
  | group, ')' => some (.closed p)
  | rangeOpener, ',' => some (.next (rangeCloser p))
  | rangeCloser opener, ']' => some (.closed (opener.range p))
  | rangeCloser opener, ',' => some (.next (rangeEscape opener p))
  | rangeEscape opener closer, ']' => some (.closed (opener.escapedRange closer p))
  | nestedOpener, ',' => some (.next (nestedCloser p))
  | nestedCloser opener, '\x7d' => some (.closed (opener.nestedRange p))
  | _, _ => none

end TextPattern.Notation
