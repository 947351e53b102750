import TextPattern.Proofs.Outcome

namespace TextPattern

namespace Cursor

/-- What a pattern does to a cursor, with no more told of a failure than its kind. -/
def outcome (c : Cursor) (p : Pattern) (mode : Mode) : Except (MatchError Unit) Match × Cursor :=
  ((c.run p mode).1.mapError MatchError.kind, (c.run p mode).2)

theorem outcome_eq_follow (c : Cursor) (p : Pattern) (mode : Mode) :
    c.outcome p mode = c.follow (p.outcome mode) := by
  simp only [outcome, run_eq_follow, follow, Pattern.outcome, Matcher.mapError]
  cases (p.matcher mode).run c.point <;> rfl

theorem fst_follow {ε : Type} (c : Cursor) (a : Matcher ε) : (c.follow a).1 = a.run c.point := by
  simp only [follow]
  cases a.run c.point <;> rfl

/-- Every place is where some cursor stands. -/
theorem exists_point (p : Point) : ∃ c : Cursor, c.point = p := by
  obtain ⟨offset, rest⟩ := p
  let text := List.replicate offset ' ' ++ rest
  have inside : offset ≤ text.length := by
    simp only [text, List.length_append, List.length_replicate]
    omega
  refine ⟨⟨text, offset, inside⟩, ?_⟩
  have ahead : text.drop offset = rest := List.drop_left' List.length_replicate
  rw [point, Point.within, ahead]

end Cursor

namespace Pattern

/-- Two patterns that match the same text with the same captures, wherever they are consumed and
wherever they are neglected, and that fail in the same way where they fail. -/
def Agrees (p q : Pattern) : Prop :=
  ∀ (c : Cursor) (mode : Mode), (c.outcome p mode).1 = (c.outcome q mode).1

/-- No search tells the two apart. -/
structure SameHits (p q : Pattern) : Prop where
  hitAt : ∀ text offset, p.hitAt text offset = q.hitAt text offset
  findForward : ∀ text start, p.findForward text start = q.findForward text start
  findBackward : ∀ text start, p.findBackward text start = q.findBackward text start
  findAll : ∀ text start, p.findAll text start = q.findAll text start

section Searches

variable (p : Pattern) (text : List Char)

theorem attempt_sameMatches_outcome : p.attempt.SameMatches (p.outcome .consume) :=
  p.attempt_sameMatches.trans (Matcher.mapError_sameMatches _ _).symm

theorem hitAt_eq_outcome (offset : Nat) :
    p.hitAt text offset = (p.outcome .consume).hitAtOffset text offset :=
  congrFun (p.attempt_sameMatches_outcome.hitAtOffset text) offset

theorem findForward_eq_outcome (start : Nat) :
    p.findForward text start = (p.outcome .consume).firstHit text start := by
  rw [findForward, Matcher.findSome?_forward, p.attempt_sameMatches_outcome.firstHit]

theorem findBackward_eq_outcome (start : Nat) :
    p.findBackward text start = (p.outcome .consume).lastHit text start := by
  rw [findBackward, Matcher.findSome?_backward, p.attempt_sameMatches_outcome.lastHit]

theorem findAll_eq_outcome (start : Nat) :
    p.findAll text start = (p.outcome .consume).hitsFrom text start := by
  rw [findAll, Matcher.hitsOnto_forward, p.attempt_sameMatches_outcome.hitsFrom]

end Searches

variable {p q : Pattern}

theorem agrees_iff : p.Agrees q ↔ ∀ mode, p.outcome mode = q.outcome mode := by
  constructor
  · intro h mode
    ext place : 2
    obtain ⟨c, rfl⟩ := Cursor.exists_point place
    have same := h c mode
    rwa [Cursor.outcome_eq_follow, Cursor.outcome_eq_follow, Cursor.fst_follow,
      Cursor.fst_follow] at same
  · intro h c mode
    rw [Cursor.outcome_eq_follow, Cursor.outcome_eq_follow, h mode]

namespace Agrees

/-- The cursors go the same way too. -/
theorem outcome (h : p.Agrees q) (c : Cursor) (mode : Mode) :
    c.outcome p mode = c.outcome q mode := by
  rw [Cursor.outcome_eq_follow, Cursor.outcome_eq_follow, agrees_iff.mp h mode]

theorem sameHits (h : p.Agrees q) : p.SameHits q := by
  have same := agrees_iff.mp h .consume
  constructor
  · intro text offset
    rw [hitAt_eq_outcome, hitAt_eq_outcome, same]
  · intro text start
    rw [findForward_eq_outcome, findForward_eq_outcome, same]
  · intro text start
    rw [findBackward_eq_outcome, findBackward_eq_outcome, same]
  · intro text start
    rw [findAll_eq_outcome, findAll_eq_outcome, same]

end Agrees

end Pattern

namespace Matcher

variable {δ ε : Type}

theorem char_orElse (accepts others : Char → Bool) (short refused : δ) (short' refused' : ε) :
    (char accepts short refused).orElse (char others short' refused') =
      char (fun c => accepts c || others c) short' refused' := by
  ext p : 2
  simp only [orElse, char]
  cases p.rest with
  | nil => rfl
  | cons c rest =>
    by_cases taken : accepts c <;> simp [taken]

theorem char_anythingBut (accepts : Char → Bool) (short refused : δ) (short' found : ε) :
    (char accepts short refused).anythingBut short' found =
      char (fun c => !accepts c) short' found := by
  ext p : 2
  simp only [anythingBut, char]
  cases p.rest with
  | nil => rfl
  | cons c rest =>
    by_cases taken : accepts c <;> simp [taken]

end Matcher

/-- Either of two tests does the same as one test for both. It is neglected like any choice where
the one test is neglected like a test. -/
theorem Pattern.alt_agrees_either (s t : CharTest) (id : Nat) :
    (alt (test s) (test t)).Agrees (test (s.either id t)) := by
  rw [agrees_iff]
  intro mode
  rw [outcome_alt, outcome_test_consume, outcome_test_consume, Matcher.char_orElse]
  cases mode with
  | consume =>
    rw [outcome_test_consume]
    rfl
  | neglect =>
    rw [outcome_test_neglect]
    exact Matcher.char_anythingBut _ _ _ _ _

end TextPattern
