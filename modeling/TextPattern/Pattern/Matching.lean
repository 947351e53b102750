import TextPattern.Matcher.Range
import TextPattern.Pattern.Header

namespace TextPattern

/-- Neglecting something that has no fixed width takes one character where consuming fails. -/
def Matcher.inMode (m : Matcher (MatchError Pattern)) (p : Pattern) :
    Mode → Matcher (MatchError Pattern)
  | .consume => m
  | .neglect => m.anythingBut (.endOfSource p) (.unwanted p)

namespace Pattern

/-- How a pattern matches. Choices and ranges attempt a part only where its header allows. -/
def matcher : Pattern → Mode → Matcher (MatchError Pattern)
  | literal l, .consume =>
    .block l.width l.accepts (.endOfSource (literal l)) (.unmatched (literal l))
  | literal l, .neglect =>
    .block l.width (fun ahead => !l.accepts ahead) (.endOfSource (literal l)) (.unwanted (literal l))
  | test t, .consume => .char t.accepts (.endOfSource (test t)) (.unmatched (test t))
  | test t, .neglect => .char (fun c => !t.accepts c) (.endOfSource (test t)) (.unwanted (test t))
  | seq left right, mode =>
    ((left.matcher .consume).andThen (right.matcher .consume)).inMode (seq left right) mode
  | alt left right, mode =>
    (((left.matcher .consume).probe (left.header .consume)).orElse
      (right.matcher .consume)).inMode (alt left right) mode
  | optional inner, mode => (inner.matcher .consume).optional.inMode (optional inner) mode
  | span inner, mode => (inner.matcher .consume).span.inMode (span inner) mode
  | repeated inner count, mode =>
    ((inner.matcher .consume).times count.toNat).inMode (repeated inner count) mode
  | negation inner, mode => inner.matcher mode.flip
  | range opener closer, mode =>
    ((opener.matcher .consume).range ((closer.matcher .consume).probe (closer.header .consume))
      (.endOfSource closer)).inMode (range opener closer) mode
  | escapedRange opener closer escape, mode =>
    ((opener.matcher .consume).escapedRange
      ((closer.matcher .consume).probe (closer.header .consume))
      ((escape.matcher .consume).probe (escape.header .consume))
      (.endOfSource closer)).inMode (escapedRange opener closer escape) mode
  | nestedRange opener closer, mode =>
    ((opener.matcher .consume).nestedRange
      ((closer.matcher .consume).probe (closer.header .consume))
      ((opener.matcher .consume).probe (opener.header .consume))
      (.endOfSource closer)).inMode (nestedRange opener closer) mode
  | capture inner name, mode => (inner.matcher mode).captured name

/-- Matches a pattern at a place. -/
def run (p : Pattern) (mode : Mode) (place : Point) : Except (MatchError Pattern) Match :=
  (p.matcher mode).run place

/-- Matches a pattern at the start of a text. -/
def runOn (p : Pattern) (mode : Mode) (text : List Char) : Except (MatchError Pattern) Match :=
  p.run mode ⟨0, text⟩

end Pattern

end TextPattern
