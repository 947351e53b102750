import TextPattern.Pattern
import TextPattern.Pattern.Mode

namespace TextPattern

/-- Whether a text has `n` characters or more; no more than those are looked at. -/
def hasLength (n : Nat) (text : List Char) : Bool :=
  (text.take n).length == n

theorem hasLength_iff {n : Nat} {text : List Char} : hasLength n text ↔ n ≤ text.length := by
  simp only [hasLength, List.length_take, beq_iff_eq]
  omega

namespace Pattern

/-- Whether a match in this mode can be empty. -/
def nullable : Pattern → Mode → Bool
  | literal l, .consume => l.text.isEmpty
  | test _, .consume => false
  | seq left right, .consume => left.nullable .consume && right.nullable .consume
  | alt left right, .consume => left.nullable .consume || right.nullable .consume
  | optional _, .consume => true
  | span _, .consume => true
  | repeated inner count, .consume => count == 0 || inner.nullable .consume
  | range opener closer, .consume => opener.nullable .consume && closer.nullable .consume
  | escapedRange opener closer _, .consume => opener.nullable .consume && closer.nullable .consume
  | nestedRange opener closer, .consume => opener.nullable .consume && closer.nullable .consume
  | negation inner, mode => inner.nullable mode.flip
  | capture inner _, mode => inner.nullable mode
  | literal _, .neglect | test _, .neglect | seq _ _, .neglect | alt _ _, .neglect
  | optional _, .neglect | span _, .neglect | repeated _ _, .neglect | range _ _, .neglect
  | escapedRange _ _ _, .neglect | nestedRange _ _, .neglect => false

/-- Whether a match in this mode may be possible where `ahead` lies ahead, judged by the next
character alone. -/
def header : Pattern → Mode → List Char → Bool
  | literal l, .consume, ahead =>
    match l.text, ahead with
    | [], _ => true
    | _ :: _, [] => false
    | first :: _, c :: _ => l.comparison.sameChar first c
  | literal l, .neglect, ahead =>
    match l.text, ahead with
    | [], _ => false
    | [_], [] => false
    | [single], c :: _ => !l.comparison.sameChar single c
    | _ :: _ :: _, _ => hasLength l.width ahead
  | test t, .consume, ahead => ahead.head?.any t.accepts
  | test t, .neglect, ahead => ahead.head?.any fun c => !t.accepts c
  | seq left right, .consume, ahead =>
    left.header .consume ahead || (left.nullable .consume && right.header .consume ahead)
  | alt left right, .consume, ahead => left.header .consume ahead || right.header .consume ahead
  | optional _, .consume, _ => true
  | span _, .consume, _ => true
  | repeated inner count, .consume, ahead => count == 0 || inner.header .consume ahead
  | range opener _, .consume, ahead =>
    opener.nullable .consume || opener.header .consume ahead
  | escapedRange opener _ _, .consume, ahead =>
    opener.nullable .consume || opener.header .consume ahead
  | nestedRange opener _, .consume, ahead =>
    opener.nullable .consume || opener.header .consume ahead
  | negation inner, mode, ahead => inner.header mode.flip ahead
  | capture inner _, mode, ahead => inner.header mode ahead
  | seq _ _, .neglect, ahead | alt _ _, .neglect, ahead | optional _, .neglect, ahead
  | span _, .neglect, ahead | repeated _ _, .neglect, ahead | range _ _, .neglect, ahead
  | escapedRange _ _ _, .neglect, ahead | nestedRange _ _, .neglect, ahead => !ahead.isEmpty

end Pattern

end TextPattern
