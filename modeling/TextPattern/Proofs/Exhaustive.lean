import TextPattern.Proofs.Conservative
import TextPattern.Proofs.Follow
import TextPattern.Proofs.SameMatches

namespace TextPattern

namespace Matcher

variable {ε : Type}

/-- A test that a matcher is guarded by can be left out. -/
theorem GuardedBy.sameMatches {test : List Char → Bool} {a : Matcher ε} (h : a.GuardedBy test) :
    (a.probe test).SameMatches a := by
  intro p m
  rw [run_probe_ok_iff]
  exact ⟨fun hm => hm.2, fun hm => ⟨h p m hm, hm⟩⟩

end Matcher

namespace Pattern

/-- How a pattern matches when choices, ranges and searches attempt every part in full, whatever
character comes next. -/
def exhaustive : Pattern → Mode → Matcher (MatchError Pattern)
  | literal l, .consume =>
    .block l.width l.accepts (.endOfSource (literal l)) (.unmatched (literal l))
  | literal l, .neglect =>
    .block l.width (fun ahead => !l.accepts ahead) (.endOfSource (literal l)) (.unwanted (literal l))
  | test t, .consume => .char t.accepts (.endOfSource (test t)) (.unmatched (test t))
  | test t, .neglect => .char (fun c => !t.accepts c) (.endOfSource (test t)) (.unwanted (test t))
  | seq left right, mode =>
    ((left.exhaustive .consume).andThen (right.exhaustive .consume)).inMode (seq left right) mode
  | alt left right, mode =>
    ((left.exhaustive .consume).orElse (right.exhaustive .consume)).inMode (alt left right) mode
  | optional inner, mode => (inner.exhaustive .consume).optional.inMode (optional inner) mode
  | span inner, mode => (inner.exhaustive .consume).span.inMode (span inner) mode
  | repeated inner count, mode =>
    ((inner.exhaustive .consume).times count.toNat).inMode (repeated inner count) mode
  | negation inner, mode => inner.exhaustive mode.flip
  | range opener closer, mode =>
    ((opener.exhaustive .consume).range (closer.exhaustive .consume)
      (.endOfSource closer)).inMode (range opener closer) mode
  | escapedRange opener closer escape, mode =>
    ((opener.exhaustive .consume).escapedRange (closer.exhaustive .consume)
      (escape.exhaustive .consume) (.endOfSource closer)).inMode
        (escapedRange opener closer escape) mode
  | nestedRange opener closer, mode =>
    ((opener.exhaustive .consume).nestedRange (closer.exhaustive .consume)
      (opener.exhaustive .consume) (.endOfSource closer)).inMode (nestedRange opener closer) mode
  | capture inner name, mode => (inner.exhaustive mode).captured name

/-- Attempting a part only where its header allows finds the same matches of it. -/
theorem attempt_sameMatches (p : Pattern) : p.attempt.SameMatches (p.matcher .consume) :=
  (p.matcher_guardedBy .consume).sameMatches

theorem matcher_eq_exhaustive (p : Pattern) (mode : Mode) :
    p.matcher mode = p.exhaustive mode := by
  induction p generalizing mode with
  | literal l => cases mode <;> rfl
  | test t => cases mode <;> rfl
  | seq left right ihl ihr => rw [matcher, exhaustive, ihl, ihr]
  | alt left right ihl ihr =>
    have skip := left.attempt_sameMatches.orElse (right.matcher .consume)
    rw [attempt] at skip
    rw [matcher, exhaustive, skip, ihl, ihr]
  | optional inner ih => rw [matcher, exhaustive, ih]
  | span inner ih => rw [matcher, exhaustive, ih]
  | repeated inner count ih => rw [matcher, exhaustive, ih]
  | negation inner ih => rw [matcher, exhaustive, ih]
  | range opener closer iho ihc =>
    have skip := closer.attempt_sameMatches.range (opener.matcher .consume)
      (.endOfSource closer)
    rw [attempt] at skip
    rw [matcher, exhaustive, skip, iho, ihc]
  | escapedRange opener closer escape iho ihc ihe =>
    have skip := closer.attempt_sameMatches.escapedRange escape.attempt_sameMatches
      (opener.matcher .consume) (.endOfSource closer)
    rw [attempt, attempt] at skip
    rw [matcher, exhaustive, skip, iho, ihc, ihe]
  | nestedRange opener closer iho ihc =>
    have skip := closer.attempt_sameMatches.nestedRange opener.attempt_sameMatches
      (opener.matcher .consume) (.endOfSource closer)
    rw [attempt, attempt] at skip
    rw [matcher, exhaustive, skip, iho, ihc]
  | capture inner name ih => rw [matcher, exhaustive, ih]

theorem attempt_sameMatches_exhaustive (p : Pattern) :
    p.attempt.SameMatches (p.exhaustive .consume) := by
  rw [← matcher_eq_exhaustive]
  exact p.attempt_sameMatches

/-- Headers save work and change nothing: every cursor ends with the same match or the same error at
the same place as without them, and every search finds the same hits. -/
theorem headers_unobservable (p : Pattern) :
    (∀ (c : Cursor) (mode : Mode), c.run p mode = c.follow (p.exhaustive mode)) ∧
      ∀ (text : List Char) (start : Nat),
        p.hitAt text start = (p.exhaustive .consume).hitAtOffset text start ∧
          p.findForward text start = (p.exhaustive .consume).firstHit text start ∧
          p.findBackward text start = (p.exhaustive .consume).lastHit text start ∧
          p.findAll text start = (p.exhaustive .consume).hitsFrom text start := by
  have same := p.attempt_sameMatches_exhaustive
  refine ⟨fun c mode => ?_, fun text start => ⟨?_, ?_, ?_, ?_⟩⟩
  · rw [Cursor.run_eq_follow, matcher_eq_exhaustive]
  · exact congrFun (same.hitAtOffset text) start
  · exact (p.attempt.findSome?_forward text start).trans (same.firstHit text start)
  · exact (p.attempt.findSome?_backward text start).trans (same.lastHit text start)
  · exact (p.attempt.hitsOnto_forward text start).trans (same.hitsFrom text start)

end Pattern

end TextPattern
