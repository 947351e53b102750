import TextPattern.Cursor
import TextPattern.Proofs.MatcherRun

namespace TextPattern

def MatchError.IsEndOfSource {α : Type} (e : MatchError α) : Prop :=
  ∃ x, e = .endOfSource x

namespace Matcher

variable {α δ : Type}

/-- Two matchers of which at most one matches at a place, and neither only where text is missing. -/
structure Opposed (a b : Matcher (MatchError α)) : Prop where
  exclusive : ∀ p m n, a.run p = .ok m → b.run p = .ok n → False
  short : ∀ p e f, a.run p = .error e → b.run p = .error f → e.IsEndOfSource ∨ f.IsEndOfSource

variable {a b : Matcher (MatchError α)}

theorem Opposed.symm (h : a.Opposed b) : b.Opposed a where
  exclusive p m n hb ha := h.exclusive p n m ha hb
  short p e f hb ha := (h.short p f e ha hb).symm

theorem Opposed.captured (h : a.Opposed b) (name : String) :
    (a.captured name).Opposed (b.captured name) := by
  constructor
  · intro p m n hm hn
    obtain ⟨k, hk, _⟩ := run_captured_ok_iff.mp hm
    obtain ⟨l, hl, _⟩ := run_captured_ok_iff.mp hn
    exact h.exclusive p k l hk hl
  · intro p e f he hf
    exact h.short p e f (run_captured_error_iff.mp he) (run_captured_error_iff.mp hf)

theorem block_opposed (width : Nat) (accepts : List Char → Bool) (x : α)
    (refused refused' : MatchError α) :
    (block width accepts (.endOfSource x) refused).Opposed
      (block width (fun ahead => !accepts ahead) (.endOfSource x) refused') := by
  constructor
  · intro p m n hm hn
    obtain ⟨_, taken, _⟩ := run_block_ok_iff.mp hm
    obtain ⟨_, other, _⟩ := run_block_ok_iff.mp hn
    simp [taken] at other
  · intro p e f he hf
    by_cases enough : (p.rest.take width).length = width
    · cases taken : accepts (p.rest.take width) with
      | true => simp only [block, enough, taken, ↓reduceIte, reduceCtorEq] at he
      | false =>
        simp only [block, enough, taken, Bool.not_false, ↓reduceIte, reduceCtorEq] at hf
    · simp only [block, enough, ↓reduceIte, Except.error.injEq] at he
      exact .inl ⟨x, he.symm⟩

theorem char_opposed (accepts : Char → Bool) (x : α) (refused refused' : MatchError α) :
    (char accepts (.endOfSource x) refused).Opposed
      (char (fun c => !accepts c) (.endOfSource x) refused') := by
  constructor
  · intro p m n hm hn
    obtain ⟨c, rest, hc, taken, _⟩ := run_char_ok_iff.mp hm
    obtain ⟨d, rest', hd, other, _⟩ := run_char_ok_iff.mp hn
    cases hc.symm.trans hd
    simp [taken] at other
  · intro p e f he hf
    cases hr : p.rest with
    | nil =>
      have short : MatchError.endOfSource x = e := by simpa [char, hr] using he
      exact .inl ⟨x, short.symm⟩
    | cons c rest =>
      cases taken : accepts c with
      | true => simp [char, hr, taken] at he
      | false => simp [char, hr, taken] at hf

/-- One character where something fails is opposed to that, whatever it is. -/
theorem anythingBut_opposed (a : Matcher (MatchError α)) (x : α) (found : MatchError α) :
    a.Opposed (a.anythingBut (.endOfSource x) found) := by
  constructor
  · intro p m n hm hn
    obtain ⟨⟨e, he⟩, _⟩ := run_anythingBut_ok_iff.mp hn
    rw [hm] at he
    cases he
  · intro p e f he hf
    cases hr : p.rest with
    | nil =>
      have short : MatchError.endOfSource x = f := by simpa [anythingBut, he, hr] using hf
      exact .inr ⟨x, short.symm⟩
    | cons c rest => simp [anythingBut, he, hr] at hf

theorem inMode_opposed (a : Matcher (MatchError Pattern)) (p : Pattern) (mode : Mode) :
    (a.inMode p mode).Opposed (a.inMode p mode.flip) := by
  cases mode with
  | consume => exact a.anythingBut_opposed p _
  | neglect => exact (a.anythingBut_opposed p _).symm

end Matcher

namespace Pattern

theorem matcher_opposed (p : Pattern) (mode : Mode) :
    (p.matcher mode).Opposed (p.matcher mode.flip) := by
  have leaf (q : Pattern) (h : (q.matcher .consume).Opposed (q.matcher .neglect)) (mode : Mode) :
      (q.matcher mode).Opposed (q.matcher mode.flip) := by
    cases mode with
    | consume => exact h
    | neglect => exact h.symm
  induction p generalizing mode with
  | literal l =>
    exact leaf (.literal l) (Matcher.block_opposed l.width l.accepts (literal l) _ _) mode
  | test t => exact leaf (.test t) (Matcher.char_opposed t.accepts (test t) _ _) mode
  | negation inner ih => exact ih mode.flip
  | capture inner name ih => exact (ih mode).captured name
  | _ => exact Matcher.inMode_opposed _ _ mode

/-- Consuming and neglecting never both succeed, and where both fail one of them ran out of text. -/
theorem consume_neglect_exclusive (p : Pattern) (c : Cursor) :
    (¬∃ m n, (c.run p .consume).1 = .ok m ∧ (c.run p .neglect).1 = .ok n) ∧
      ∀ e f, (c.run p .consume).1 = .error e → (c.run p .neglect).1 = .error f →
        (∃ q, e = .endOfSource q) ∨ ∃ q, f = .endOfSource q := by
  have opposed := p.matcher_opposed .consume
  rw [Cursor.run_fst, Cursor.run_fst]
  constructor
  · rintro ⟨m, n, hm, hn⟩
    exact opposed.exclusive c.point m n hm hn
  · intro e f he hf
    exact opposed.short c.point e f he hf

/-- At the end of a text this is not consumed because of what its first part refuses; only
neglecting it lacks a character. -/
theorem consume_neglect_exclusive_at_end :
    let nothing := literal ⟨[], .matchCase⟩
    let p := (nothing.negation.seq nothing).capture "x"
    let c := Cursor.place ['a'] 1
    (c.run p .consume).1 = .error (.unwanted nothing) ∧
      (c.run p .neglect).1 = .error (.endOfSource (nothing.negation.seq nothing)) ∧
      ((∃ q, MatchError.unwanted nothing = .endOfSource q) ∨
        ∃ q, MatchError.endOfSource (nothing.negation.seq nothing) = .endOfSource q) := by
  intro nothing p c
  have consumed : (c.run p .consume).1 = .error (.unwanted nothing) := by
    rfl
  have neglected :
      (c.run p .neglect).1 = .error (.endOfSource (nothing.negation.seq nothing)) := by
    rfl
  exact ⟨consumed, neglected, (consume_neglect_exclusive p c).2 _ _ consumed neglected⟩

end Pattern

end TextPattern
