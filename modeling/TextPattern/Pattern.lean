import TextPattern.CharTest
import TextPattern.Literal

namespace TextPattern

/-- A pattern of text. It can be consumed, which matches it, or neglected, which matches something
that it would refuse. -/
inductive Pattern
  | literal (l : Literal)
  | test (t : CharTest)
  /-- One pattern, then another. -/
  | seq (left right : Pattern)
  /-- The first pattern, or the second where the first fails. -/
  | alt (left right : Pattern)
  | optional (inner : Pattern)
  /-- As many times as it matches. -/
  | span (inner : Pattern)
  /-- Exactly so many times. -/
  | repeated (inner : Pattern) (count : UInt64)
  /-- Consuming and neglecting exchanged. -/
  | negation (inner : Pattern)
  /-- From the opener through the first closer. -/
  | range (opener closer : Pattern)
  /-- A range in which an escape keeps the next character from closing it. -/
  | escapedRange (opener closer escape : Pattern)
  /-- A range in which openers and closers balance. -/
  | nestedRange (opener closer : Pattern)
  /-- The matched text is recorded under a name. -/
  | capture (inner : Pattern) (name : String)

end TextPattern
