import TextPattern.Pattern

namespace TextPattern

/-- Two literals are equal if they are compared alike and each accepts the other's text. -/
instance : BEq Literal where
  beq a b := a.comparison == b.comparison && a.comparison.sameText a.text b.text

/-- Character tests are equal if their labels are, whatever they accept. -/
instance : BEq CharTest where
  beq a b := a.label == b.label

def Pattern.equal : Pattern → Pattern → Bool
  | literal a, literal b => a == b
  | test a, test b => a == b
  | seq a b, seq c d => a.equal c && b.equal d
  | alt a b, alt c d => a.equal c && b.equal d
  | optional a, optional b => a.equal b
  | span a, span b => a.equal b
  | repeated a m, repeated b n => m == n && a.equal b
  | negation a, negation b => a.equal b
  | range a b, range c d => a.equal c && b.equal d
  | escapedRange a b c, escapedRange d e f => a.equal d && b.equal e && c.equal f
  | nestedRange a b, nestedRange c d => a.equal c && b.equal d
  | capture a m, capture b n => m == n && a.equal b
  | _, _ => false

instance : BEq Pattern :=
  ⟨Pattern.equal⟩

end TextPattern
