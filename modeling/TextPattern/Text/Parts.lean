import TextPattern.Unicode.WhiteSpace

namespace TextPattern.Text

def trimStart (text : List Char) : List Char :=
  text.dropWhile Unicode.isWhiteSpace

/-- A text without the white space at its two ends. -/
def trim (text : List Char) : List Char :=
  (trimStart (trimStart text).reverse).reverse

/-- The part of a text before the first separator, and the parts after the separators. -/
def splitAt (separator : Char) : List Char → List Char × List (List Char)
  | [] => ([], [])
  | c :: rest =>
    let (first, others) := splitAt separator rest
    if c == separator then ([], first :: others) else (c :: first, others)

end TextPattern.Text
