import TextPattern.Pattern
import TextPattern.Text.Quoted

namespace TextPattern

def Comparison.outline : Comparison → String
  | matchCase => "CaseSensitive"
  | ignoreCase => "CaseInsensitive"

def Literal.outline (l : Literal) : String :=
  "Literal \x7b text: [" ++ ", ".intercalate (l.text.map Text.quotedChar) ++ "], comparison: " ++
    l.comparison.outline ++ " \x7d"

def CharTest.outline (t : CharTest) : String :=
  let name := match t.name? with
    | some name => "Some(" ++ Text.quotedText name.toList ++ ")"
    | none => "None"
  "Checker \x7b name: " ++ name ++ ", .. \x7d"

/-- The tree of a pattern, with the name of each node and of its parts. -/
def Pattern.outline : Pattern → String
  | literal l => "Literal(" ++ l.outline ++ ")"
  | test t => "Checker(" ++ t.outline ++ ")"
  | seq left right =>
    "Concatenator \x7b left: " ++ left.outline ++ ", right: " ++ right.outline ++ " \x7d"
  | alt left right =>
    "Alternator \x7b left: " ++ left.outline ++ ", right: " ++ right.outline ++ " \x7d"
  | optional inner => "Optor(" ++ inner.outline ++ ")"
  | span inner => "Spanner(" ++ inner.outline ++ ")"
  | repeated inner count =>
    "Repeater \x7b inner: " ++ inner.outline ++ ", count: " ++ toString count.toNat ++ " \x7d"
  | negation inner => "Negator(" ++ inner.outline ++ ")"
  | range opener closer =>
    "Ranger \x7b from: " ++ opener.outline ++ ", to: " ++ closer.outline ++ " \x7d"
  | escapedRange opener closer escape =>
    "EscapedRanger \x7b from: " ++ opener.outline ++ ", to: " ++ closer.outline ++ ", escape: " ++
      escape.outline ++ " \x7d"
  | nestedRange opener closer =>
    "NestedRanger \x7b from: " ++ opener.outline ++ ", to: " ++ closer.outline ++ " \x7d"
  | capture inner name =>
    "Capturer \x7b inner: " ++ inner.outline ++ ", name: " ++ Text.quotedText name.toList ++ " \x7d"

end TextPattern
