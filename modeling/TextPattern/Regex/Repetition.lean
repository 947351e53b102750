import TextPattern.Regex.Source
import TextPattern.Regex.Tree

namespace TextPattern.Regex

/-- A number with white space around it, or why it is none. -/
def readCount : Read (Except SyntaxError Nat) := do
  skipBlanks
  let start ← place
  let digits ← takeRun Char.isDigit
  let span ← since start
  skipBlanks
  let value := Nat.ofDigitChars 10 digits 0
  return if digits.isEmpty then .error ⟨.countMissing, span, none⟩
    else if UInt32.size ≤ value then .error ⟨.decimalTooBig, span, none⟩
    else .ok value
where
  skipBlanks : Read Unit := do
    advanceBy ((← get).rest.takeWhile Unicode.isWhiteSpace).length

/-- What is after the number of a count: nothing, or another number that is not less. -/
def readCountBounds (start : Place) (least : Except SyntaxError Nat) : Read Bool := do
  if (← next?) != some ',' then
    let _ ← least
    return true
  advanceSpaced
  needMore .countUnclosed (← since start)
  let least ← least
  if (← next?) == some '\x7d' then return true
  let most ← ofExcept (← readCount)
  return least ≤ most

/-- A count in braces after a node. -/
def readCounted (body : Node) : Read Node := do
  let start ← place
  advanceSpaced
  needMore .countUnclosed (← since start)
  let least ← readCount
  needMore .countUnclosed (← since start)
  let inOrder ← readCountBounds start least
  if (← next?) != some '\x7d' then fail .countUnclosed (← since start)
  advanceSpaced
  let _ ← takeText? "?"
  if !inOrder then fail .countBackwards (← since start)
  return .repeated (← since body.span.start) body

/-- An asterisk, a plus sign or a question mark after a node. -/
def readRepeated (body : Node) : Read Node := do
  advance
  let _ ← takeText? "?"
  return .repeated (← since body.span.start) body

end TextPattern.Regex
