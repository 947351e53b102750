import TextPattern.CharClass
import TextPattern.Text.Quoted

namespace TextPattern

/-- What is wrong with a pattern text. -/
inductive NotationError
  | unexpectedChar (c : Char)
  | unexpectedEnd
  | invalidNumber
  | unclosedGroup
  | unclosedString
  | unclosedClass
  | unclosedRange
  | unknownClass (name : String)
deriving DecidableEq

def NotationError.message : NotationError → String
  | unexpectedChar c => "Unexpected character in pattern: " ++ Text.quotedChar c
  | unexpectedEnd => "Unexpected end of pattern"
  | invalidNumber => "Invalid repeat count in pattern"
  | unclosedGroup => "Unclosed group '(' in pattern"
  | unclosedString => "Unclosed string literal in pattern"
  | unclosedClass => "Unclosed character class '<' in pattern"
  | unclosedRange => "Unclosed range in pattern"
  | unknownClass name =>
    "Unknown character class <" ++ name ++ ">; known classes: " ++ ", ".intercalate CharClass.names

end TextPattern
