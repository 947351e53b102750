import TextPattern.Unicode.ExtendingMark
import TextPattern.Unicode.Unprintable

namespace TextPattern.Text

/-- Neither unprintable nor joined to the character before it, so shown as it is. -/
def isShown (c : Char) : Bool :=
  !(Unicode.extendingMark.contains c || Unicode.unprintable.contains c)

def codePoint (c : Char) : List Char :=
  ['\\', 'u', '\x7b'] ++ Nat.toDigits 16 c.toNat ++ ['\x7d']

/-- How a character is written between two `quote` characters. -/
def escaped (quote c : Char) : List Char :=
  if c == '\x00' then ['\\', '0']
  else if c == '\t' then ['\\', 't']
  else if c == '\n' then ['\\', 'n']
  else if c == '\r' then ['\\', 'r']
  else if c == '\\' || c == quote then ['\\', c]
  else if isShown c then [c]
  else codePoint c

def quoted (quote : Char) (text : List Char) : List Char :=
  quote :: text.flatMap (escaped quote) ++ [quote]

/-- A text in double quotes, on one line. -/
def quotedText (text : List Char) : String :=
  String.ofList (quoted '"' text)

/-- A character in single quotes. -/
def quotedChar (c : Char) : String :=
  String.ofList (quoted '\x27' [c])

end TextPattern.Text
