import TextPattern.Proofs.Agreement
import TextPattern.Proofs.LeftmostCloser

namespace TextPattern

namespace Matcher

variable {δ ε : Type} {a : Matcher ε} {short found : δ} {p : Point}

/-- Past everything that `a` does not match, one character at a time, and then `a`. -/
def skipTo (a : Matcher ε) (short found : δ) : Matcher ε :=
  (a.anythingBut short found).span.andThen a

theorem skipTo_stopped {e : δ} (stopped : (a.anythingBut short found).run p = .error e) :
    (a.skipTo short found).run p = a.run p := by
  have still : (a.anythingBut short found).spanFrom .empty p = .empty := by
    rw [spanFrom, stopped]
  simp only [skipTo, andThen, span, still, Match.length_empty, Point.advance_zero,
    Match.empty_append]
  cases a.run p <;> rfl

theorem skipTo_onward (taken : (a.anythingBut short found).run p = .ok ⟨1, []⟩) :
    (a.skipTo short found).run p =
      ((a.skipTo short found).run (p.advance 1)).map (⟨1, []⟩ ++ ·) := by
  have onward : (a.anythingBut short found).spanFrom .empty p =
      ⟨1, []⟩ ++ (a.anythingBut short found).spanFrom .empty (p.advance 1) := by
    rw [spanFrom, taken]
    simp only [Nat.one_ne_zero, ↓reduceIte, Match.empty_append]
    rw [spanFrom_eq]
  simp only [skipTo, andThen, span, onward, Match.length_append, ← Point.advance_advance]
  cases a.run ((p.advance 1).advance _) with
  | error e => rfl
  | ok m => simp only [Except.map, Match.append_assoc]

/-- `acc`, and then what is skipped up to a match of `a`, and that match. -/
def skipFrom (a : Matcher ε) (short found : δ) (unclosed : ε) (acc : Match) (p : Point) :
    Except ε Match :=
  match (a.skipTo short found).run p with
  | .ok m => .ok (acc ++ m)
  | .error _ => .error unclosed

/-- Skipping goes round by round like a scan for a closer. -/
theorem skipFrom_round (a : Matcher ε) (short found : δ) (unclosed : ε) (acc : Match) (p : Point) :
    a.skipFrom short found unclosed acc p =
      a.closingRound unclosed (a.skipFrom short found unclosed) acc p := by
  cases here : a.run p with
  | ok m =>
    have stopped : (a.anythingBut short found).run p = .error found := by
      simp only [anythingBut, here]
    simp only [skipFrom, closingRound, skipTo_stopped stopped, here]
  | error e =>
    cases ahead : p.rest with
    | nil =>
      have stopped : (a.anythingBut short found).run p = .error short := by
        simp only [anythingBut, here, ahead]
      have ended : p.atEnd := by simp only [Point.atEnd, ahead, List.isEmpty_nil]
      simp only [skipFrom, closingRound, skipTo_stopped stopped, here, ended, ↓reduceIte]
    | cons ch rest =>
      have taken : (a.anythingBut short found).run p = .ok ⟨1, []⟩ :=
        run_anythingBut_ok_iff.mpr ⟨⟨e, here⟩, by simp [ahead], rfl⟩
      have more : ¬p.atEnd := by simp [Point.atEnd, ahead]
      simp only [skipFrom, closingRound, skipTo_onward taken, here, more, Bool.false_eq_true,
        ↓reduceIte]
      cases (a.skipTo short found).run (p.advance 1) with
      | error e => rfl
      | ok m => simp only [Except.map, ← Match.append_assoc, append_one]

theorem range_sameMatches_skipTo (opener closer : Matcher ε) (unclosed : ε) (short found : δ) :
    (opener.range closer unclosed).SameMatches (opener.andThen (closer.skipTo short found)) := by
  intro p m
  obtain ⟨c, rfl⟩ := Cursor.exists_point p
  cases opened : opener.run c.point with
  | error e => simp only [range, andThen, opened]
  | ok k =>
    have skipped := scan_eq_closedBy
      (fun acc o _ _ => closer.skipFrom_round short found unclosed acc _) k
      (opener_inside opened c.position_le)
    have closed : (opener.range closer unclosed).run c.point = _ :=
      range_closedBy opened c.position_le
    have place : Point.within c.text (c.position + k.length) = c.point.advance k.length :=
      (Point.advance_within _ _ _).symm
    rw [closed, ← skipped, place]
    simp only [andThen, skipFrom, opened]
    cases (closer.skipTo short found).run (c.point.advance k.length) with
    | error e => simp only [reduceCtorEq]
    | ok n => simp only

/-- Refusing a block of one character, or of none, is taking a character where the block fails. -/
theorem block_singly {width : Nat} {accepts : List Char → Bool} (narrow : width ≤ 1)
    (empty : width = 0 → accepts [] = true) (short refused found : ε) :
    block width (fun ahead => !accepts ahead) short found =
      (block width accepts short refused).anythingBut short found := by
  ext p : 2
  rcases Nat.le_one_iff_eq_zero_or_eq_one.mp narrow with rfl | rfl
  · simp [block, anythingBut, empty rfl]
  · cases ahead : p.rest with
    | nil => simp [block, anythingBut, ahead]
    | cons c rest => by_cases taken : accepts [c] <;> simp [block, anythingBut, ahead, taken]

theorem SameMatches.follow {b : Matcher δ} (h : a.SameMatches b) (c : Cursor) :
    (c.follow a).2 = (c.follow b).2 := by
  cases ha : a.run c.point with
  | ok m => simp only [Cursor.follow, ha, (h c.point m).mp ha]
  | error e =>
    obtain ⟨e', hb⟩ := h.error ha
    simp only [Cursor.follow, ha, hb]

end Matcher

namespace Pattern

/-- Whether a pattern is neglected by one character, wherever it cannot be consumed. -/
def neglectsSingly : Pattern → Bool
  | literal l => l.width ≤ 1
  | test _ | seq _ _ | alt _ _ | optional _ | span _ | repeated _ _ | range _ _
  | escapedRange _ _ _ | nestedRange _ _ => true
  | negation _ | capture _ _ => false

theorem matcher_neglect {p : Pattern} (single : p.neglectsSingly = true) :
    p.matcher .neglect = (p.matcher .consume).inMode p .neglect := by
  cases p with
  | literal l =>
    refine Matcher.block_singly (of_decide_eq_true single) (fun empty => ?_) _ _ _
    rw [Literal.accepts, List.eq_nil_of_length_eq_zero empty]
    rfl
  | test t => rw [matcher, matcher, Matcher.inMode, Matcher.char_anythingBut]
  | negation inner => cases single
  | capture inner name => cases single
  | _ => rfl

/-- The opener, then as much as possible of what the closer is not, and then the closer. -/
def skipping (opener closer : Pattern) : Pattern :=
  (opener.seq (span (negation closer))).seq closer

theorem range_sameMatches_skipping {closer : Pattern} (single : closer.neglectsSingly = true)
    (opener : Pattern) : ((range opener closer).matcher .consume).SameMatches
      ((skipping opener closer).matcher .consume) := by
  let passing := (closer.matcher .consume).inMode closer .neglect
  have neglects : closer.matcher .neglect = passing := matcher_neglect single
  have skip : (skipping opener closer).matcher .consume = (opener.matcher .consume).andThen
      (passing.span.andThen (closer.matcher .consume)) := by
    rw [← neglects, ← Matcher.andThen_assoc]
    rfl
  have scan : (range opener closer).matcher .consume =
      (opener.matcher .consume).range (closer.matcher .consume) (.endOfSource closer) :=
    closer.attempt_sameMatches.range _ _
  rw [skip, scan]
  exact Matcher.range_sameMatches_skipTo _ _ _ _ _

/-- A range matches what its opener, a span of its negated closer and its closer match one after
another, if the closer is neglected by one character wherever it cannot be consumed. -/
theorem range_matches_as_skipping {closer : Pattern} (single : closer.neglectsSingly = true)
    (opener : Pattern) (c : Cursor) :
    (∀ m, (c.run (range opener closer) .consume).1 = .ok m ↔
        (c.run (skipping opener closer) .consume).1 = .ok m) ∧
      (c.run (range opener closer) .consume).2 = (c.run (skipping opener closer) .consume).2 := by
  have same := range_sameMatches_skipping single opener
  rw [Cursor.run_eq_follow, Cursor.run_eq_follow]
  refine ⟨fun m => ?_, same.follow c⟩
  rw [Cursor.fst_follow, Cursor.fst_follow]
  exact same c.point m

/-- A star that is not followed by a slash is passed over. -/
theorem range_matches_as_skipping_of_comment :
    let star := literal ⟨['*'], .matchCase⟩
    let closer := (star.capture "star").seq (literal ⟨['/'], .matchCase⟩)
    let p := skipping (literal ⟨['/', '*'], .matchCase⟩) closer
    let text := ['x', '/', '*', 'a', '*', '*', '/', 'b']
    ((Cursor.place text 1).run p .consume).1 = .ok ⟨6, [⟨"star", 5, ['*']⟩]⟩ ∧
      ((Cursor.place text 1).run p .consume).2 = .place text 7 := by
  intro star closer p text
  have single : closer.neglectsSingly = true := rfl
  obtain ⟨same, cursor⟩ := range_matches_as_skipping single (literal ⟨['/', '*'], .matchCase⟩)
    (.place text 1)
  exact ⟨(same _).mp rfl, cursor.symm.trans rfl⟩

/-- The negation of a longer text may take the beginning of that text. -/
example :
    let closer := literal ⟨['a', 'b'], .matchCase⟩
    let text := ['(', 'x', 'a', 'b']
    (range (literal ⟨['('], .matchCase⟩) closer).runOn .consume text = .ok ⟨4, []⟩ ∧
      (skipping (literal ⟨['('], .matchCase⟩) closer).runOn .consume text =
        .error (.endOfSource closer) := by
  cbv

end Pattern

end TextPattern
