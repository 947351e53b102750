import TextPattern.CharTest
import TextPattern.Unicode.Alphabetic
import TextPattern.Unicode.Lowercase
import TextPattern.Unicode.Numeric
import TextPattern.Unicode.Uppercase
import TextPattern.Unicode.WhiteSpace

namespace TextPattern

/-- The character classes that have a name in pattern text. -/
inductive CharClass
  | alnum
  | any
  | control
  | digit
  | hex
  | letter
  | lower
  | punct
  | symbol
  | upper
  | whitespace
deriving DecidableEq

namespace CharClass

def name : CharClass → String
  | alnum => "alnum"
  | any => "any"
  | control => "control"
  | digit => "digit"
  | hex => "hex"
  | letter => "letter"
  | lower => "lower"
  | punct => "punct"
  | symbol => "symbol"
  | upper => "upper"
  | whitespace => "whitespace"

/-- Digits, hexadecimal digits, punctuation and symbols are ASCII; the others are Unicode-wide. -/
def accepts : CharClass → Char → Bool
  | alnum, c => Unicode.alphabetic.contains c || Unicode.numeric.contains c
  | any, _ => true
  | control, c => Unicode.isControl c
  | digit, c => c.isDigit
  | hex, c => c.isDigit || ('a' ≤ c && c ≤ 'f') || ('A' ≤ c && c ≤ 'F')
  | letter, c => Unicode.alphabetic.contains c
  | lower, c => Unicode.lowercase.contains c
  | punct, c =>
    ['!', '"', '#', '%', '&', '\x27', '(', ')', '*', ',', '-', '.', '/', ':', ';', '?', '@', '[',
      '\\', ']', '_', '{', '}'].contains c
  | symbol, c => ['$', '+', '<', '=', '>', '^', '\x60', '|', '~'].contains c
  | upper, c => Unicode.uppercase.contains c
  | whitespace, c => Unicode.isWhiteSpace c

/-- Every class, in the order of the names. -/
def all : List CharClass :=
  [alnum, any, control, digit, hex, letter, lower, punct, symbol, upper, whitespace]

def names : List String :=
  all.map name

def ofName? (name : String) : Option CharClass :=
  all.find? (·.name == name)

def test (k : CharClass) : CharTest where
  label := .named k.name
  accepts := k.accepts

theorem ofName?_name (k : CharClass) : ofName? k.name = some k := by
  cases k <;> decide

theorem name_of_ofName? {name : String} {k : CharClass} (h : ofName? name = some k) :
    k.name = name := by
  have := List.find?_some h
  simpa using this

end CharClass

end TextPattern
