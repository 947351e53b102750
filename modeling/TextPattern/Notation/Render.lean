import TextPattern.Pattern

namespace TextPattern

def Comparison.quote : Comparison → Char
  | matchCase => '"'
  | ignoreCase => '\x27'

/-- A backslash goes before each quote and each backslash of the text. -/
def Literal.render (l : Literal) : List Char :=
  let quote := l.comparison.quote
  quote :: l.text.flatMap (fun c => if c == quote || c == '\\' then ['\\', c] else [c]) ++ [quote]

def CharTest.render (t : CharTest) : List Char :=
  '<' :: (t.name?.getD "?").toList ++ ['>']

namespace Pattern

def isAlt : Pattern → Bool
  | alt _ _ => true
  | _ => false

def isSeq : Pattern → Bool
  | seq _ _ => true
  | _ => false

def isRepeated : Pattern → Bool
  | repeated _ _ => true
  | _ => false

def grouped (group : Bool) (text : List Char) : List Char :=
  if group then '(' :: text ++ [')'] else text

/-- The pattern text of a pattern, with parentheses only where reading it back needs them. -/
def render : Pattern → List Char
  | literal l => l.render
  | test t => t.render
  | seq left right =>
    grouped left.isAlt left.render ++ ' ' :: grouped (right.isAlt || right.isSeq) right.render
  | alt left right => left.render ++ [' ', '|', ' '] ++ grouped right.isAlt right.render
  | optional inner => '~' :: grouped (inner.isAlt || inner.isSeq) inner.render
  | span inner => '*' :: grouped (inner.isAlt || inner.isSeq) inner.render
  | repeated inner count =>
    Nat.toDigits 10 count.toNat ++
      grouped (inner.isAlt || inner.isSeq || inner.isRepeated) inner.render
  | negation inner => '!' :: grouped (inner.isAlt || inner.isSeq) inner.render
  | range opener closer => '[' :: opener.render ++ [',', ' '] ++ closer.render ++ [']']
  | escapedRange opener closer escape =>
    '[' :: opener.render ++ [',', ' '] ++ closer.render ++ [',', ' '] ++ escape.render ++ [']']
  | nestedRange opener closer =>
    '\x7b' :: opener.render ++ [',', ' '] ++ closer.render ++ ['\x7d']
  | capture inner name =>
    name.toList ++ ':' :: grouped (inner.isAlt || inner.isSeq) inner.render

def renderText (p : Pattern) : String :=
  String.ofList p.render

end Pattern

end TextPattern
