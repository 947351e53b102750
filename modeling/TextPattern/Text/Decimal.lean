namespace TextPattern.Text

/-- The 64-bit number that a text writes in decimal digits, which a plus sign may precede. -/
def word? (text : List Char) : Option Nat :=
  let digits := match text with
    | '+' :: rest => rest
    | _ => text
  let value := Nat.ofDigitChars 10 digits 0
  if !digits.isEmpty && digits.all Char.isDigit && value < UInt64.size then some value else none

def withoutSign : List Char → List Char
  | '+' :: rest | '-' :: rest => rest
  | text => text

/-- Nothing, or the letter `e` and digits, which a sign may precede. -/
def isExponent : List Char → Bool
  | [] => true
  | c :: rest =>
    let digits := withoutSign rest
    (c == 'e' || c == 'E') && !digits.isEmpty && digits.all Char.isDigit

/-- Whether a text is a number: an infinity, not a number, or digits with a point and an exponent,
of which the digits on one side of the point suffice. A sign may precede it. -/
def isNumber (text : List Char) : Bool :=
  let body := withoutSign text
  let whole := body.takeWhile Char.isDigit
  let (fraction, rest) := match body.drop whole.length with
    | '.' :: rest =>
      let fraction := rest.takeWhile Char.isDigit
      (fraction, rest.drop fraction.length)
    | rest => ([], rest)
  ["inf", "infinity", "nan"].contains (String.ofList (body.map Char.toLower)) ||
    (!(whole ++ fraction).isEmpty && isExponent rest)

end TextPattern.Text
