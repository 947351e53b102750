import TextPattern.Proofs.SkippedRange

namespace TextPattern

namespace Matcher

variable {γ δ ε : Type}

theorem orElse_assoc (a : Matcher γ) (b : Matcher δ) (c : Matcher ε) :
    (a.orElse b).orElse c = a.orElse (b.orElse c) := by
  ext p : 2
  simp only [orElse]
  cases a.run p <;> rfl

/-- What comes before a choice can as well be matched anew for the second part. The other side has no
such law: a first part that matches hides the second from what comes after the choice. -/
theorem andThen_orElse (a b c : Matcher ε) :
    a.andThen (b.orElse c) = (a.andThen b).orElse (a.andThen c) := by
  ext p : 2
  simp only [andThen, orElse]
  cases a.run p with
  | error e => rfl
  | ok m =>
    simp only
    cases b.run (p.advance m.length) <;> rfl

theorem optional_eq_orElse (a : Matcher δ) {accepts : List Char → Bool} (empty : accepts [] = true)
    (short refused : ε) : a.optional = a.orElse (block 0 accepts short refused) := by
  ext p : 2
  simp only [optional, orElse, block, List.take_zero, List.length_nil, empty, ↓reduceIte]
  rfl

/-- A span is a match and then a span, or nothing. A match that takes nothing would end the span on
one side only. -/
theorem AtLeast.span_eq {a : Matcher ε} (h : a.AtLeast 1) :
    (a.span : Matcher ε) = (a.andThen a.span).optional := by
  ext p : 2
  change Except.ok (a.spanFrom .empty p) = _
  rw [spanFrom]
  cases ha : a.run p with
  | error e => simp only [optional, Matcher.andThen, ha]
  | ok m =>
    have pos : m.length ≠ 0 := Nat.ne_of_gt (h p m ha)
    simp only [optional, Matcher.andThen, span, ha, pos, ↓reduceIte, Match.empty_append]
    rw [spanFrom_eq]

end Matcher

namespace Pattern

/-- Consumed, two patterns do the same, and where they fail the error concerns the same pattern.
Neglected, they do the same but for what an error concerns. -/
structure Interchangeable (p q : Pattern) : Prop where
  consume : ∀ c : Cursor, c.run p .consume = c.run q .consume
  neglect : ∀ c : Cursor, c.outcome p .neglect = c.outcome q .neglect

theorem matcher_seq (left right : Pattern) : (seq left right).matcher .consume =
    (left.matcher .consume).andThen (right.matcher .consume) := rfl

/-- The header of the first part decides nothing. -/
theorem matcher_alt (left right : Pattern) : (alt left right).matcher .consume =
    (left.matcher .consume).orElse (right.matcher .consume) :=
  left.attempt_sameMatches.orElse _

theorem Interchangeable.of_consume {p q : Pattern} (hp : p.neglectsSingly = true)
    (hq : q.neglectsSingly = true) (same : p.matcher .consume = q.matcher .consume) :
    p.Interchangeable q := by
  constructor
  · intro c
    rw [Cursor.run_eq_follow, Cursor.run_eq_follow, same]
  · intro c
    rw [Cursor.outcome_eq_follow, Cursor.outcome_eq_follow, outcome, outcome, matcher_neglect hp,
      matcher_neglect hq, Matcher.mapError_inMode, Matcher.mapError_inMode, same]

/-- Sequences and choices can be grouped either way, a sequence can be drawn into a choice that ends
it, an option is a choice with the empty text, and a span of what is not nullable is that and then a
span, or nothing. -/
theorem ordered_choice_laws (a b c : Pattern) :
    ((a.seq b).seq c).Interchangeable (a.seq (b.seq c)) ∧
      ((a.alt b).alt c).Interchangeable (a.alt (b.alt c)) ∧
      (a.seq (b.alt c)).Interchangeable ((a.seq b).alt (a.seq c)) ∧
      (∀ k, (optional a).Interchangeable (a.alt (literal ⟨[], k⟩))) ∧
      (a.nullable .consume = false →
        (span a).Interchangeable (optional (a.seq (span a)))) := by
  refine ⟨.of_consume rfl rfl ?_, .of_consume rfl rfl ?_, .of_consume rfl rfl ?_,
    fun k => .of_consume rfl rfl ?_, fun moves => .of_consume rfl rfl ?_⟩
  · simp only [matcher_seq]
    exact Matcher.andThen_assoc _ _ _
  · simp only [matcher_alt]
    exact Matcher.orElse_assoc _ _ _
  · simp only [matcher_seq, matcher_alt]
    exact Matcher.andThen_orElse _ _ _
  · rw [matcher_alt]
    exact Matcher.optional_eq_orElse _ rfl _ _
  · have least := a.matcher_atLeast .consume
    rw [moves] at least
    exact least.span_eq

/-- The letters before a digit, in one go and with the first of them apart. -/
theorem ordered_choice_laws_of_letters :
    let a := (literal ⟨['a'], .matchCase⟩).capture "x"
    let c := Cursor.start ['a', 'a', '1']
    let m : Match := ⟨2, [⟨"x", 0, ['a']⟩, ⟨"x", 1, ['a']⟩]⟩
    a.nullable .consume = false ∧ (c.run (span a) .consume).1 = .ok m ∧
      (c.run (optional (a.seq (span a))) .consume).1 = .ok m := by
  intro a c m
  obtain ⟨-, -, -, -, unroll⟩ := ordered_choice_laws a a a
  have moves : a.nullable .consume = false := rfl
  have all : (c.run (span a) .consume).1 = .ok m := by
    rw [Cursor.run_fst]
    cbv
  exact ⟨moves, all, ((unroll moves).consume c) ▸ all⟩

/-- What comes after a choice cannot be drawn into it: it is tried after the first part that matches
and after no other. -/
example :
    let a := literal ⟨['a'], .matchCase⟩
    let b := literal ⟨['a', 'b'], .matchCase⟩
    let c := literal ⟨['c'], .matchCase⟩
    ((a.alt b).seq c).runOn .consume ['a', 'b', 'c'] = .error (.unmatched c) ∧
      ((a.seq c).alt (b.seq c)).runOn .consume ['a', 'b', 'c'] = .ok ⟨3, []⟩ := by
  cbv

/-- A span ends with a match that takes nothing, so that such a match put before it is one more. -/
example :
    let a := (literal ⟨[], .matchCase⟩).capture "x"
    let m : Match := ⟨0, [⟨"x", 0, []⟩]⟩
    (span a).runOn .consume [] = .ok m ∧
      (optional (a.seq (span a))).runOn .consume [] = .ok (m ++ m) := by
  cbv

end Pattern

end TextPattern
