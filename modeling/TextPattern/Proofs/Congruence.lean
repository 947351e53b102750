import TextPattern.Pattern.Build
import TextPattern.Proofs.Agreement

namespace TextPattern

/-- A pattern with a hole in the place of one of its parts, at any depth. -/
inductive Pattern.Context
  | hole
  | seqLeft (left : Context) (right : Pattern)
  | seqRight (left : Pattern) (right : Context)
  | altLeft (left : Context) (right : Pattern)
  | altRight (left : Pattern) (right : Context)
  | optional (inner : Context)
  | span (inner : Context)
  | repeated (inner : Context) (count : UInt64)
  | negation (inner : Context)
  | rangeOpener (opener : Context) (closer : Pattern)
  | rangeCloser (opener : Pattern) (closer : Context)
  | escapedOpener (opener : Context) (closer escape : Pattern)
  | escapedCloser (opener : Pattern) (closer : Context) (escape : Pattern)
  | escapedEscape (opener closer : Pattern) (escape : Context)
  | nestedOpener (opener : Context) (closer : Pattern)
  | nestedCloser (opener : Pattern) (closer : Context)
  | capture (inner : Context) (name : String)

namespace Pattern

/-- The whole pattern, with `p` in the hole. -/
def Context.fill (p : Pattern) : Context → Pattern
  | hole => p
  | seqLeft left right => .seq (left.fill p) right
  | seqRight left right => .seq left (right.fill p)
  | altLeft left right => .alt (left.fill p) right
  | altRight left right => .alt left (right.fill p)
  | optional inner => .optional (inner.fill p)
  | span inner => .span (inner.fill p)
  | repeated inner count => .repeated (inner.fill p) count
  | negation inner => .negation (inner.fill p)
  | rangeOpener opener closer => .range (opener.fill p) closer
  | rangeCloser opener closer => .range opener (closer.fill p)
  | escapedOpener opener closer escape => .escapedRange (opener.fill p) closer escape
  | escapedCloser opener closer escape => .escapedRange opener (closer.fill p) escape
  | escapedEscape opener closer escape => .escapedRange opener closer (escape.fill p)
  | nestedOpener opener closer => .nestedRange (opener.fill p) closer
  | nestedCloser opener closer => .nestedRange opener (closer.fill p)
  | capture inner name => .capture (inner.fill p) name

variable {p q : Pattern}

theorem outcome_fill (h : ∀ mode, p.outcome mode = q.outcome mode) (k : Context) (mode : Mode) :
    (k.fill p).outcome mode = (k.fill q).outcome mode := by
  induction k generalizing mode with
  | hole => exact h mode
  | seqLeft left right ih => simp only [Context.fill, outcome_seq, ih]
  | seqRight left right ih => simp only [Context.fill, outcome_seq, ih]
  | altLeft left right ih => simp only [Context.fill, outcome_alt, ih]
  | altRight left right ih => simp only [Context.fill, outcome_alt, ih]
  | optional inner ih => simp only [Context.fill, outcome_optional, ih]
  | span inner ih => simp only [Context.fill, outcome_span, ih]
  | repeated inner count ih => simp only [Context.fill, outcome_repeated, ih]
  | negation inner ih => simp only [Context.fill, outcome_negation, ih]
  | rangeOpener opener closer ih => simp only [Context.fill, outcome_range, ih]
  | rangeCloser opener closer ih => simp only [Context.fill, outcome_range, ih]
  | escapedOpener opener closer escape ih => simp only [Context.fill, outcome_escapedRange, ih]
  | escapedCloser opener closer escape ih => simp only [Context.fill, outcome_escapedRange, ih]
  | escapedEscape opener closer escape ih => simp only [Context.fill, outcome_escapedRange, ih]
  | nestedOpener opener closer ih => simp only [Context.fill, outcome_nestedRange, ih]
  | nestedCloser opener closer ih => simp only [Context.fill, outcome_nestedRange, ih]
  | capture inner name ih => simp only [Context.fill, outcome_capture, ih]

/-- A part can be exchanged for one that agrees with it, whatever pattern surrounds it: the whole
agrees with what it was, and every search finds the same hits. -/
theorem agrees_in_context (h : p.Agrees q) (k : Context) :
    (k.fill p).Agrees (k.fill q) ∧ (k.fill p).SameHits (k.fill q) := by
  have whole : (k.fill p).Agrees (k.fill q) :=
    agrees_iff.mpr (outcome_fill (agrees_iff.mp h) k)
  exact ⟨whole, whole.sameHits⟩

/-- A range up to the first character that is neither of two letters. The two forms of the closer
have different headers, so the scan attempts the one where it passes over the other. -/
theorem agrees_in_context_of_folded_tests :
    let s : CharTest := ⟨.named "a", (· == 'a')⟩
    let t : CharTest := ⟨.named "b", (· == 'b')⟩
    let p := alt (test s) (test t)
    let q := test (s.either 0 t)
    let k := Context.rangeCloser (ofText "(") (.negation .hole)
    p.header .neglect ['a'] = true ∧ q.header .neglect ['a'] = false ∧ p.Agrees q ∧
      (k.fill p).Agrees (k.fill q) ∧
      (k.fill p).findForward ['x', '(', 'a', 'b', 'c'] 0 = some ⟨1, 5, []⟩ ∧
      (k.fill q).findForward ['x', '(', 'a', 'b', 'c'] 0 = some ⟨1, 5, []⟩ := by
  intro s t p q k
  have parts : p.Agrees q := alt_agrees_either s t 0
  obtain ⟨whole, hits⟩ := agrees_in_context parts k
  have found : (k.fill p).findForward ['x', '(', 'a', 'b', 'c'] 0 = some ⟨1, 5, []⟩ := by
    rfl
  exact ⟨rfl, rfl, parts, whole, found, (hits.findForward _ 0).symm.trans found⟩

end Pattern

end TextPattern
