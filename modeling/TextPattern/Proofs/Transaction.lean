import TextPattern.Proofs.ScansFollow

namespace TextPattern

/-- All or nothing: a move that fails leaves the cursor, a length of zero and no capture behind, and
one that succeeds goes just as far as it says. -/
structure Transaction (c : Cursor) (v : Verdict) (d : Cursor) : Prop where
  text : d.text = c.text
  undone : v.error ≠ none → d.position = c.position ∧ v.length = 0 ∧ v.captures = []
  done : v.error = none →
    d.position = c.position + v.length ∧ c.position + v.length ≤ c.text.length

def Verdict.ofResult : Except (MatchError Pattern) Match → Verdict
  | .ok m => .ofMatch m
  | .error e => .failure e

namespace Matcher

variable {a : Matcher (MatchError Pattern)} {c d : Cursor} {v : Verdict}

theorem ends_iff : a.Ends c v d ↔ v = .ofResult (c.follow a).1 ∧ d = (c.follow a).2 := by
  cases ha : a.run c.point with
  | ok m =>
    simp only [Cursor.follow, ha, Verdict.ofResult]
    constructor
    · rintro (⟨hm⟩ | ⟨he⟩)
      · cases ha.symm.trans hm
        exact ⟨rfl, rfl⟩
      · cases ha.symm.trans he
    · rintro ⟨rfl, rfl⟩
      exact .ok ha
  | error e =>
    simp only [Cursor.follow, ha, Verdict.ofResult]
    constructor
    · rintro (⟨hm⟩ | ⟨he⟩)
      · cases ha.symm.trans hm
      · cases ha.symm.trans he
        exact ⟨rfl, rfl⟩
    · rintro ⟨rfl, rfl⟩
      exact .error ha

theorem Ends.transaction (h : a.Ends c v d) : Transaction c v d := by
  cases h with
  | @ok m hm =>
    have fits := a.fits hm
    have bound := c.position_le
    refine ⟨rfl, fun failed => absurd rfl failed, fun _ => ⟨Cursor.position_advance fits, ?_⟩⟩
    rw [Cursor.length_rest] at fits
    simp only [Verdict.ofMatch]
    omega
  | error he => exact ⟨rfl, fun _ => ⟨rfl, rfl, rfl⟩, fun passed => by cases passed⟩

end Matcher

namespace Move

variable {a : Move} {x : Matcher (MatchError Pattern)}

theorem inMode_follows (ha : a.Follows x) (p : Pattern) (mode : Mode) :
    (a.inMode p mode).Follows (x.inMode p mode) := by
  cases mode with
  | consume => exact ha
  | neglect => exact anythingBut_follows _ _ ha

/-- What can be made of a move is what the matcher says, and nothing else. -/
theorem Follows.iff_ends (ha : a.Follows x) {c d : Cursor} {v : Verdict} :
    a c v d ↔ x.Ends c v d := by
  constructor
  · exact ha.sound
  · intro h
    obtain ⟨w, e, hw⟩ := ha.total c
    obtain ⟨rfl, rfl⟩ := Matcher.ends_iff.mp h
    obtain ⟨rfl, rfl⟩ := Matcher.ends_iff.mp (ha.sound hw)
    exact hw

end Move

namespace Pattern

theorem moves_follow (p : Pattern) (mode : Mode) : (p.moves mode).Follows (p.matcher mode) := by
  have header (q : Pattern) (c : Cursor) : c.header q .consume = q.header .consume c.point.rest :=
    rfl
  induction p generalizing mode with
  | literal l => cases mode <;> exact Move.block_follows _ _ _ _
  | test t => cases mode <;> exact Move.single_follows _ _ _
  | seq left right ihl ihr =>
    exact Move.inMode_follows (Move.sequence_follows (ihl .consume) (ihr .consume)) _ mode
  | alt left right ihl ihr =>
    have first := Move.attempt_follows (header left) (ihl .consume)
    exact Move.inMode_follows (Move.choice_follows first (ihr .consume)) _ mode
  | optional inner ih => exact Move.inMode_follows (Move.optional_follows (ih .consume)) _ mode
  | span inner ih => exact Move.inMode_follows (Move.span_follows (ih .consume)) _ mode
  | repeated inner count ih =>
    exact Move.inMode_follows (Move.times_follows (ih .consume) count.toNat) _ mode
  | negation inner ih => exact ih mode.flip
  | range opener closer iho ihc =>
    have closing := Move.attempt_follows (header closer) (ihc .consume)
    exact Move.inMode_follows
      (Move.opened_follows (iho .consume) (Move.toCloser_scans closing)
        (Matcher.range_run _ _ _)) _ mode
  | escapedRange opener closer escape iho ihc ihe =>
    have closing := Move.attempt_follows (header closer) (ihc .consume)
    have escaping := Move.attempt_follows (header escape) (ihe .consume)
    exact Move.inMode_follows
      (Move.opened_follows (iho .consume) (Move.toUnescaped_scans closing escaping)
        (Matcher.escapedRange_run _ _ _ _)) _ mode
  | nestedRange opener closer iho ihc =>
    have closing := Move.attempt_follows (header closer) (ihc .consume)
    have opening := Move.attempt_follows (header opener) (iho .consume)
    exact Move.inMode_follows
      (Move.opened_follows (iho .consume) (Move.toBalance_scans closing opening)
        (Matcher.nestedRange_run _ _ _ _)) _ mode
  | capture inner name ih => exact Move.captured_follows name (ih mode)

/-- Every pattern moves every cursor in one way, which is that of `Cursor.run`, and the move is a
transaction. -/
theorem moves_transaction (p : Pattern) (mode : Mode) (c : Cursor) :
    (∀ v d, p.moves mode c v d ↔ v = .ofResult (c.run p mode).1 ∧ d = (c.run p mode).2) ∧
      ∀ v d, p.moves mode c v d → Transaction c v d := by
  refine ⟨fun v d => ?_, fun v d h => ((p.moves_follow mode).sound h).transaction⟩
  rw [(p.moves_follow mode).iff_ends, Matcher.ends_iff, Cursor.run_eq_follow]

end Pattern

end TextPattern
