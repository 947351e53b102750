import Mathlib.Order.Bounds.Basic
import TextPattern.Pattern.Build
import TextPattern.Proofs.Exhaustive

namespace TextPattern

/-- The test that a pattern makes of the one character that it takes, if it always takes one. -/
def Pattern.oneChar? : Pattern → Option (Char → Bool)
  | literal ⟨[expected], k⟩ => some (k.sameChar expected)
  | test t => some t.accepts
  | _ => none

section Counting

variable {opens closes : Char → Bool} {text rest : List Char} {c : Char} {n depth later : Nat}

/-- The first `n` characters of a text have as many openers as closers, and some of each. -/
structure BalancedPrefix (opens closes : Char → Bool) (text : List Char) (n : Nat) : Prop where
  inside : n ≤ text.length
  opened : 0 < (text.take n).countP opens
  balanced : (text.take n).countP opens = (text.take n).countP closes

instance : Decidable (BalancedPrefix opens closes text n) :=
  decidable_of_iff
    (n ≤ text.length ∧ 0 < (text.take n).countP opens ∧
      (text.take n).countP opens = (text.take n).countP closes)
    ⟨fun ⟨inside, opened, balanced⟩ => ⟨inside, opened, balanced⟩,
      fun h => ⟨h.inside, h.opened, h.balanced⟩⟩

/-- The first `n` characters of a text close what opens among them, and `depth` levels more. -/
structure ClosingPrefix (opens closes : Char → Bool) (depth : Nat) (text : List Char) (n : Nat) :
    Prop where
  inside : n ≤ text.length
  balanced : (text.take n).countP opens + depth = (text.take n).countP closes

theorem BalancedPrefix.pos (h : BalancedPrefix opens closes text n) : 0 < n := by
  apply Nat.pos_of_ne_zero
  rintro rfl
  have := h.opened
  simp only [List.take_zero, List.countP_nil] at this
  omega

theorem ClosingPrefix.pos (h : ClosingPrefix opens closes depth text n) (open_level : 0 < depth) :
    0 < n := by
  apply Nat.pos_of_ne_zero
  rintro rfl
  have := h.balanced
  simp only [List.take_zero, List.countP_nil] at this
  omega

theorem closingPrefix_zero : ClosingPrefix opens closes 0 text 0 :=
  ⟨Nat.zero_le _, rfl⟩

/-- Behind the first character as many levels are open as before it, with that character counted. -/
theorem closingPrefix_cons
    (step : depth + (if opens c then 1 else 0) = later + if closes c then 1 else 0) :
    ClosingPrefix opens closes depth (c :: rest) (n + 1) ↔
      ClosingPrefix opens closes later rest n := by
  constructor
  · rintro ⟨inside, balanced⟩
    rw [List.take_succ_cons, List.countP_cons, List.countP_cons] at balanced
    exact ⟨Nat.le_of_succ_le_succ inside, by omega⟩
  · rintro ⟨inside, balanced⟩
    refine ⟨Nat.succ_le_succ inside, ?_⟩
    rw [List.take_succ_cons, List.countP_cons, List.countP_cons]
    omega

/-- After an opener, what closes the one open level makes the whole balanced. -/
theorem balancedPrefix_cons (opener : opens c = true) (closer : closes c = false) :
    BalancedPrefix opens closes (c :: rest) (n + 1) ↔ ClosingPrefix opens closes 1 rest n := by
  have step : ClosingPrefix opens closes 0 (c :: rest) (n + 1) ↔
      ClosingPrefix opens closes 1 rest n :=
    closingPrefix_cons (by simp [opener, closer])
  rw [← step]
  constructor
  · exact fun h => ⟨h.inside, h.balanced⟩
  · refine fun h => ⟨h.inside, ?_, h.balanced⟩
    rw [List.take_succ_cons, List.countP_cons_of_pos opener]
    omega

end Counting

/-- What is found belongs to the least number that has a property. Where no number has it, there is
an error instead. -/
inductive LeastFound {ε α : Type} (has : Nat → Prop) (found : Nat → α) (absent : ε) :
    Except ε α → Prop
  | least {n} : IsLeast {k | has k} n → LeastFound has found absent (.ok (found n))
  | absent : (∀ k, ¬has k) → LeastFound has found absent (.error absent)

theorem LeastFound.of_later {ε α : Type} {has later : Nat → Prop} {found sooner : Nat → α}
    {absent : ε} {result : Except ε α} (h : LeastFound later sooner absent result)
    (pos : ∀ k, has k → 0 < k) (step : ∀ k, has (k + 1) ↔ later k)
    (same : ∀ k, sooner k = found (k + 1)) : LeastFound has found absent result := by
  have shifted {k : Nat} (hk : has k) : ∃ l, k = l + 1 ∧ later l := by
    obtain ⟨l, rfl⟩ := Nat.exists_eq_succ_of_ne_zero (Nat.ne_of_gt (pos k hk))
    exact ⟨l, rfl, (step l).mp hk⟩
  cases h with
  | @least n h =>
    rw [same n]
    refine .least ⟨(step n).mpr h.1, fun k hk => ?_⟩
    obtain ⟨l, rfl, hl⟩ := shifted hk
    exact Nat.succ_le_succ (h.2 hl)
  | absent h =>
    refine .absent fun k hk => ?_
    obtain ⟨l, -, hl⟩ := shifted hk
    exact h l hl

namespace Matcher

variable {ε : Type} {opens closes : Char → Bool}

theorem run_char_accepted {accepts : Char → Bool} {c : Char} (h : accepts c = true)
    (short refused : ε) (offset : Nat) (rest : List Char) :
    (char accepts short refused).run ⟨offset, c :: rest⟩ = .ok ⟨1, []⟩ := by
  simp only [char, h, ↓reduceIte]

theorem run_char_refused {accepts : Char → Bool} {c : Char} (h : accepts c = false)
    (short refused : ε) (offset : Nat) (rest : List Char) :
    (char accepts short refused).run ⟨offset, c :: rest⟩ = .error refused := by
  simp only [char, h, Bool.false_eq_true, ↓reduceIte]

/-- The scan keeps count: it stops at the first place where all levels are closed, and it fails only
where the text has no such place. -/
theorem throughBalance_leastFound (apart : ∀ c, ¬(opens c = true ∧ closes c = true))
    (unclosed : ε) (outer : Nat) (acc : Match) (offset : Nat) (text : List Char) :
    LeastFound (ClosingPrefix opens closes (outer + 1) text)
      (fun n => ⟨acc.length + n, acc.captures⟩) unclosed
      ((char closes () ()).throughBalance (char opens () ()) unclosed outer acc ⟨offset, text⟩) := by
  induction text generalizing outer acc offset with
  | nil =>
    rw [throughBalance]
    refine .absent fun n h => ?_
    have := h.pos (Nat.succ_pos _)
    have := h.inside
    simp only [List.length_nil] at this
    omega
  | cons c rest ih =>
    -- What the first character leaves to be closed is looked for in the rest.
    have later (outer' : Nat) (step : outer + 1 + (if opens c then 1 else 0) =
        outer' + 1 + if closes c then 1 else 0) :
        LeastFound (ClosingPrefix opens closes (outer + 1) (c :: rest))
          (fun n => ⟨acc.length + n, acc.captures⟩) unclosed
          ((char closes () ()).throughBalance (char opens () ()) unclosed outer' acc.skip
            ⟨offset + 1, rest⟩) := by
      refine (ih outer' acc.skip (offset + 1)).of_later
        (fun _ h => h.pos (Nat.succ_pos _)) (fun _ => closingPrefix_cons step) fun n => ?_
      simp only [Match.length_skip, Match.captures_skip, Nat.add_assoc, Nat.add_comm 1]
    cases closer : closes c with
    | true =>
      have opener : opens c = false := by
        rw [Bool.eq_false_iff]
        exact fun opener => apart c ⟨opener, closer⟩
      rw [throughBalance, run_char_accepted closer]
      simp only [append_one]
      cases outer with
      | zero =>
        have first : ClosingPrefix opens closes 1 (c :: rest) 1 :=
          (closingPrefix_cons (by simp [opener, closer])).mpr closingPrefix_zero
        exact .least ⟨first, fun n h => h.pos (Nat.succ_pos _)⟩
      | succ outer => exact later outer (by simp [opener, closer])
    | false =>
      cases opener : opens c with
      | true =>
        have opened : (char opens () ()).nonempty.run ⟨offset, c :: rest⟩ = .ok ⟨1, []⟩ :=
          run_nonempty_ok_iff.mpr ⟨run_char_accepted opener _ _ _ _, Nat.one_pos⟩
        rw [throughBalance, run_char_refused closer, opened]
        simp only [append_one]
        exact later (outer + 1) (by simp [opener, closer])
      | false =>
        have unopened : (char opens () ()).nonempty.run ⟨offset, c :: rest⟩ = .error () := by
          simp only [nonempty, run_char_refused opener]
        rw [throughBalance, run_char_refused closer, unopened]
        exact later outer (by simp [opener, closer])

end Matcher

namespace Pattern

theorem oneChar_sameMatches {p : Pattern} {accepts : Char → Bool} (h : p.oneChar? = some accepts) :
    (p.matcher .consume).SameMatches (Matcher.char accepts () ()) := by
  unfold oneChar? at h
  split at h
  next expected k =>
    cases h
    intro place m
    rw [matcher, Matcher.run_block_ok_iff, Matcher.run_char_ok_iff]
    cases place.rest with
    | nil => simp [Literal.width]
    | cons c rest => simp [Literal.width, Literal.accepts, Comparison.sameText]
  next t =>
    cases h
    intro place m
    rw [matcher, Matcher.run_char_ok_iff, Matcher.run_char_ok_iff]
  next => cases h

variable {f t : Pattern} {opens closes : Char → Bool}

theorem nestedRange_matcher (opener : f.oneChar? = some opens) (closer : t.oneChar? = some closes) :
    (nestedRange f t).matcher .consume = (f.matcher .consume).nestedRange
      (Matcher.char closes () ()) (Matcher.char opens () ()) (.endOfSource t) := by
  have closing := t.attempt_sameMatches.trans (oneChar_sameMatches closer)
  have opening := f.attempt_sameMatches.trans (oneChar_sameMatches opener)
  exact closing.nestedRange opening _ _

theorem nestedRange_leastFound (opener : f.oneChar? = some opens)
    (closer : t.oneChar? = some closes) (apart : ∀ c, ¬(opens c = true ∧ closes c = true))
    {place : Point} (first : place.rest.head?.any opens = true) :
    LeastFound (BalancedPrefix opens closes place.rest) (fun n => ⟨n, []⟩) (.endOfSource t)
      ((nestedRange f t).run .consume place) := by
  obtain ⟨offset, text⟩ := place
  cases text with
  | nil => cases first
  | cons c rest =>
    have open_c : opens c = true := first
    have close_c : closes c = false := by
      rw [Bool.eq_false_iff]
      exact fun close_c => apart c ⟨open_c, close_c⟩
    have opened : (f.matcher .consume).run ⟨offset, c :: rest⟩ = .ok ⟨1, []⟩ :=
      (oneChar_sameMatches opener _ _).mpr (Matcher.run_char_accepted open_c _ _ _ _)
    have scan := Matcher.throughBalance_leastFound apart (MatchError.endOfSource t) 0 ⟨1, []⟩
      (offset + 1) rest
    rw [run, nestedRange_matcher opener closer, Matcher.nestedRange]
    simp only [opened]
    refine scan.of_later (fun _ => BalancedPrefix.pos)
      (fun _ => balancedPrefix_cons open_c close_c) fun n => ?_
    rw [Nat.add_comm]

theorem nestedRange_unopened (opener : f.oneChar? = some opens)
    (closer : t.oneChar? = some closes) {place : Point}
    (first : ¬place.rest.head?.any opens = true) (m : Match) :
    (nestedRange f t).run .consume place ≠ .ok m := by
  intro h
  rw [run, nestedRange_matcher opener closer] at h
  obtain ⟨k, hk, -⟩ := Matcher.run_nestedRange_ok h
  have hk := (oneChar_sameMatches opener _ _).mp hk
  obtain ⟨c, rest, hr, taken, -⟩ := Matcher.run_char_ok_iff.mp hk
  rw [hr] at first
  exact first taken

/-- A nested range between two characters takes the shortest balanced beginning of the text. Where
the text has none, though it begins with an opener, the range lacks its closer. -/
theorem nestedRange_shortest_balanced (opener : f.oneChar? = some opens)
    (closer : t.oneChar? = some closes) (apart : ∀ c, ¬(opens c = true ∧ closes c = true))
    (c : Cursor) :
    let text := c.point.rest
    (∀ m, (c.run (nestedRange f t) .consume).1 = .ok m ↔
        text.head?.any opens = true ∧
          IsLeast {n | BalancedPrefix opens closes text n} m.length ∧ m.captures = []) ∧
      ((∃ m, (c.run (nestedRange f t) .consume).1 = .ok m) ↔
        text.head?.any opens = true ∧ ∃ n, BalancedPrefix opens closes text n) ∧
      (text.head?.any opens = true → (¬∃ n, BalancedPrefix opens closes text n) →
        c.run (nestedRange f t) .consume = (.error (.endOfSource t), c)) := by
  intro text
  rw [Cursor.run_fst]
  by_cases first : text.head?.any opens = true
  · have scan := nestedRange_leastFound opener closer apart first
    generalize result : (nestedRange f t).run .consume c.point = r at scan ⊢
    cases scan with
    | @least n least =>
      refine ⟨fun m => ?_, ?_, ?_⟩
      · constructor
        · rintro ⟨⟩
          exact ⟨first, least, rfl⟩
        · rintro ⟨-, least', bare⟩
          obtain ⟨length, captures⟩ := m
          cases bare
          rw [IsLeast.unique least least']
      · exact ⟨fun _ => ⟨first, n, least.1⟩, fun _ => ⟨_, rfl⟩⟩
      · exact fun _ none => absurd ⟨n, least.1⟩ none
    | absent none =>
      refine ⟨fun m => ?_, ?_, fun _ _ => Cursor.run_error result⟩
      · exact ⟨nofun, fun h => absurd h.2.1.1 (none _)⟩
      · refine ⟨?_, fun ⟨_, n, h⟩ => absurd h (none n)⟩
        rintro ⟨m, ⟨⟩⟩
  · have fails := nestedRange_unopened opener closer first
    refine ⟨fun m => ?_, ?_, fun first' => absurd first' first⟩
    · exact ⟨fun h => absurd h (fails m), fun h => absurd h.1 first⟩
    · exact ⟨fun ⟨m, h⟩ => absurd h (fails m), fun h => absurd h.1 first⟩

theorem nestedRange_parentheses :
    let p := nestedRange (ofChar '(') (ofChar ')')
    let unclosed := Cursor.start "(a(b)".toList
    ((Cursor.start "(a(b)c)d".toList).run p .consume).1 = .ok ⟨7, []⟩ ∧
      unclosed.run p .consume = (.error (.endOfSource (ofChar ')')), unclosed) := by
  have apart (c : Char) : ¬(Comparison.matchCase.sameChar '(' c = true ∧
      Comparison.matchCase.sameChar ')' c = true) := by
    simp only [Comparison.sameChar, beq_iff_eq]
    rintro ⟨rfl, h⟩
    exact absurd h (by decide)
  have shortest := nestedRange_shortest_balanced (f := ofChar '(') (t := ofChar ')') rfl rfl apart
  constructor
  · refine ((shortest _).1 _).mpr ⟨rfl, ⟨?_, fun n h => ?_⟩, rfl⟩
    · exact of_decide_eq_true rfl
    · have sooner : ∀ n < 7, ¬BalancedPrefix (Comparison.matchCase.sameChar '(')
          (Comparison.matchCase.sameChar ')') "(a(b)c)d".toList n := by decide
      by_contra few
      exact sooner n (by simpa using few) h
  · refine (shortest _).2.2 rfl ?_
    rintro ⟨n, h⟩
    have never : ∀ n < 6, ¬BalancedPrefix (Comparison.matchCase.sameChar '(')
        (Comparison.matchCase.sameChar ')') "(a(b)".toList n := by decide
    exact never n (Nat.lt_succ_of_le h.inside) h

end Pattern

end TextPattern
