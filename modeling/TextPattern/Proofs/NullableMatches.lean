import TextPattern.Pattern.Build
import TextPattern.Proofs.ScanRounds

namespace TextPattern

/-- Places in texts from which there is no way on to a place of another kind. -/
structure Region where
  Holds : Point → Prop
  onward : ∀ {p : Point} (n : Nat), Holds p → Holds (p.advance n)

namespace Region

def anywhere : Region where
  Holds _ := True
  onward _ _ := trivial

def ends : Region where
  Holds p := p.rest = []
  onward n h := by rw [Point.rest_advance, h, List.drop_nil]

end Region

namespace Matcher

variable {δ ε : Type} {r : Region}

/-- There is a match at every place of a region. -/
def SucceedsIn (r : Region) (a : Matcher ε) : Prop :=
  ∀ p, r.Holds p → ∃ m, a.run p = .ok m

def FailsIn (r : Region) (a : Matcher ε) : Prop :=
  ∀ p, r.Holds p → ∃ e, a.run p = .error e

theorem SucceedsIn.andThen {a b : Matcher ε} (ha : a.SucceedsIn r) (hb : b.SucceedsIn r) :
    (a.andThen b).SucceedsIn r := by
  intro p h
  obtain ⟨k, hk⟩ := ha p h
  obtain ⟨n, hn⟩ := hb _ (r.onward k.length h)
  exact ⟨k ++ n, run_andThen_ok_iff.mpr ⟨k, n, hk, hn, rfl⟩⟩

theorem SucceedsIn.orElse {a : Matcher δ} {b : Matcher ε}
    (h : a.SucceedsIn r ∨ b.SucceedsIn r) : (a.orElse b).SucceedsIn r := by
  intro p inside
  cases ha : a.run p with
  | ok m => exact ⟨m, by simp only [Matcher.orElse, ha]⟩
  | error e =>
    rcases h with first | second
    · obtain ⟨m, hm⟩ := first p inside
      rw [hm] at ha
      cases ha
    · obtain ⟨m, hm⟩ := second p inside
      exact ⟨m, by simp only [Matcher.orElse, ha, hm]⟩

theorem optional_succeedsIn (a : Matcher δ) : (a.optional : Matcher ε).SucceedsIn r :=
  fun p _ => run_optional_ok a p

theorem span_succeedsIn (a : Matcher δ) : (a.span : Matcher ε).SucceedsIn r :=
  fun p _ => ⟨a.spanFrom .empty p, rfl⟩

theorem times_zero_succeedsIn (a : Matcher ε) : (times 0 a).SucceedsIn r :=
  fun _ _ => ⟨.empty, rfl⟩

theorem SucceedsIn.times {a : Matcher ε} (ha : a.SucceedsIn r) (count : Nat) :
    (times count a).SucceedsIn r := by
  induction count with
  | zero => exact times_zero_succeedsIn a
  | succ count ih =>
    rw [times_succ]
    exact ha.andThen ih

theorem SucceedsIn.captured {a : Matcher ε} (name : String) (ha : a.SucceedsIn r) :
    (a.captured name).SucceedsIn r := by
  intro p h
  obtain ⟨n, hn⟩ := ha p h
  exact ⟨_, run_captured_ok_iff.mpr ⟨n, hn, rfl⟩⟩

theorem SucceedsIn.range {opener : Matcher ε} {closer : Matcher δ} (ho : opener.SucceedsIn r)
    (hc : closer.SucceedsIn r) (unclosed : ε) : (opener.range closer unclosed).SucceedsIn r := by
  intro p h
  obtain ⟨k, hk⟩ := ho p h
  obtain ⟨n, hn⟩ := hc _ (r.onward k.length h)
  have closed : closer.throughCloser unclosed k (p.advance k.length).offset
      (p.advance k.length).rest = .ok (k ++ n) := by
    rw [throughCloser_eq, hn]
  refine ⟨k ++ n, ?_⟩
  simp only [Matcher.range, hk]
  exact closed

/-- Where no escape can be matched, the closer is tried right behind the opener. -/
theorem SucceedsIn.escapedRange {opener : Matcher ε} {closer escape : Matcher δ}
    (ho : opener.SucceedsIn r) (hc : closer.SucceedsIn r) (he : escape.FailsIn r) (unclosed : ε) :
    (opener.escapedRange closer escape unclosed).SucceedsIn r := by
  intro p h
  obtain ⟨k, hk⟩ := ho p h
  obtain ⟨n, hn⟩ := hc _ (r.onward k.length h)
  obtain ⟨e, escaped⟩ := he _ (r.onward k.length h)
  have closed : closer.throughUnescaped escape unclosed k (p.advance k.length) = .ok (k ++ n) := by
    rw [throughUnescaped, escaped, hn]
  exact ⟨k ++ n, by simp only [Matcher.escapedRange, hk, closed]⟩

theorem SucceedsIn.nestedRange {opener : Matcher ε} {closer : Matcher δ}
    (ho : opener.SucceedsIn r) (hc : closer.SucceedsIn r) (again : Matcher δ) (unclosed : ε) :
    (opener.nestedRange closer again unclosed).SucceedsIn r := by
  intro p h
  obtain ⟨k, hk⟩ := ho p h
  obtain ⟨n, hn⟩ := hc _ (r.onward k.length h)
  have closed : closer.throughBalance again unclosed 0 k (p.advance k.length) = .ok (k ++ n) := by
    rw [throughBalance, hn]
  exact ⟨k ++ n, by simp only [Matcher.nestedRange, hk, closed]⟩

/-- What takes a character or more is not matched where none is left. -/
theorem AtLeast.failsIn_ends {a : Matcher ε} (h : a.AtLeast 1) : a.FailsIn .ends := by
  intro p ended
  cases ha : a.run p with
  | error e => exact ⟨e, rfl⟩
  | ok m =>
    have fits := a.fits ha
    have moved := h p m ha
    rw [show p.rest = [] from ended, List.length_nil] at fits
    omega

/-- If an escape is matched wherever it is tried, the scan never comes to try a closer. -/
theorem SucceedsIn.throughUnescaped {closer escape : Matcher δ} (he : escape.SucceedsIn .anywhere)
    (unclosed : ε) (acc : Match) (p : Point) :
    closer.throughUnescaped escape unclosed acc p = .error unclosed := by
  fun_induction Matcher.throughUnescaped closer escape unclosed acc p with
  | case1 => rfl
  | case2 acc p m escaped more ih => exact ih
  | case3 acc p e refused | case4 acc p e refused | case5 acc p e refused =>
    obtain ⟨m, escaped⟩ := he p trivial
    cases refused.symm.trans escaped

end Matcher

namespace Pattern

/-- Whether every escaped range in a pattern passes a test of its opener, closer and escape. -/
def escapedRangesPass (pass : Pattern → Pattern → Pattern → Bool) : Pattern → Bool
  | literal _ | test _ => true
  | optional inner | span inner | repeated inner _ | negation inner | capture inner _ =>
    inner.escapedRangesPass pass
  | seq left right | alt left right | range left right | nestedRange left right =>
    left.escapedRangesPass pass && right.escapedRangesPass pass
  | escapedRange opener closer escape =>
    pass opener closer escape && opener.escapedRangesPass pass && closer.escapedRangesPass pass &&
      escape.escapedRangesPass pass

/-- No part of the pattern is an escaped range. -/
def escapeFree (p : Pattern) : Bool :=
  p.escapedRangesPass fun _ _ _ => false

/-- An escaped range in the pattern that may take nothing has an escape that takes something. -/
def escapesAdvance (p : Pattern) : Bool :=
  p.escapedRangesPass fun opener closer escape =>
    !(opener.nullable .consume && closer.nullable .consume && escape.nullable .consume)

variable {p : Pattern} {mode : Mode} {pass : Pattern → Pattern → Pattern → Bool}

/-- Apart from negations and captures, nothing can be neglected without taking a character. -/
theorem mode_of_nullable (h : p.nullable mode = true) (never : p.nullable .neglect = false) :
    mode = .consume := by
  cases mode with
  | consume => rfl
  | neglect => cases never.symm.trans h

theorem header_of_nullable (h : p.nullable mode = true) (ahead : List Char) :
    p.header mode ahead = true := by
  induction p generalizing mode with
  | literal l =>
    obtain rfl := mode_of_nullable h rfl
    have empty : l.text = [] := List.isEmpty_iff.mp h
    simp only [header, empty]
  | test t => cases mode_of_nullable h rfl; cases h
  | negation inner ih | capture inner name ih => exact ih h
  | optional inner _ | span inner _ => cases mode_of_nullable h rfl; rfl
  | seq left right ihl _ =>
    obtain rfl := mode_of_nullable h rfl
    have first := ihl (Bool.and_eq_true_iff.mp h).1
    simp only [header, first, Bool.true_or]
  | alt left right ihl ihr =>
    obtain rfl := mode_of_nullable h rfl
    exact Bool.or_eq_true_iff.mpr ((Bool.or_eq_true_iff.mp h).imp ihl ihr)
  | repeated inner count ih =>
    obtain rfl := mode_of_nullable h rfl
    exact Bool.or_eq_true_iff.mpr ((Bool.or_eq_true_iff.mp h).imp_right ih)
  | range opener closer _ _ | escapedRange opener closer escape _ _ _
  | nestedRange opener closer _ _ =>
    obtain rfl := mode_of_nullable h rfl
    exact Bool.or_eq_true_iff.mpr (.inl (Bool.and_eq_true_iff.mp h).1)

theorem literal_succeedsIn {r : Region} {l : Literal} (h : (literal l).nullable .consume = true) :
    ((literal l).matcher .consume).SucceedsIn r := by
  have empty : l.text = [] := List.isEmpty_iff.mp h
  intro place _
  refine ⟨_, Matcher.run_block_ok_iff.mpr ⟨?_, ?_, rfl⟩⟩
  · simp [Literal.width, empty]
  · simp [Literal.accepts, Literal.width, empty, Comparison.sameText]

/-- A nullable pattern is matched everywhere in a region, if no escape in it can be matched there
that would come before a closer. -/
theorem matcher_succeedsIn {r : Region} (escapes : ∀ opener closer escape : Pattern,
      pass opener closer escape = true →
      (escapedRange opener closer escape).nullable .consume = true →
      (escape.matcher .consume).FailsIn r)
    (passes : p.escapedRangesPass pass = true) (h : p.nullable mode = true) :
    (p.matcher mode).SucceedsIn r := by
  simp only [matcher_eq_exhaustive] at escapes ⊢
  induction p generalizing mode with
  | literal l =>
    obtain rfl := mode_of_nullable h rfl
    exact literal_succeedsIn h
  | test t => cases mode_of_nullable h rfl; cases h
  | negation inner ih => exact ih passes h
  | capture inner name ih => exact (ih passes h).captured name
  | optional inner _ =>
    obtain rfl := mode_of_nullable h rfl
    exact Matcher.optional_succeedsIn _
  | span inner _ =>
    obtain rfl := mode_of_nullable h rfl
    exact Matcher.span_succeedsIn _
  | repeated inner count ih =>
    obtain rfl := mode_of_nullable h rfl
    rcases Bool.or_eq_true_iff.mp h with zero | h
    · rw [eq_of_beq zero]
      exact Matcher.times_zero_succeedsIn _
    · exact (ih passes h).times _
  | seq left right ihl ihr =>
    obtain rfl := mode_of_nullable h rfl
    obtain ⟨inLeft, inRight⟩ := Bool.and_eq_true_iff.mp passes
    obtain ⟨first, second⟩ := Bool.and_eq_true_iff.mp h
    exact (ihl inLeft first).andThen (ihr inRight second)
  | alt left right ihl ihr =>
    obtain rfl := mode_of_nullable h rfl
    obtain ⟨inLeft, inRight⟩ := Bool.and_eq_true_iff.mp passes
    exact .orElse ((Bool.or_eq_true_iff.mp h).imp (ihl inLeft) (ihr inRight))
  | range opener closer iho ihc =>
    obtain rfl := mode_of_nullable h rfl
    obtain ⟨inOpener, inCloser⟩ := Bool.and_eq_true_iff.mp passes
    obtain ⟨opens, closes⟩ := Bool.and_eq_true_iff.mp h
    exact (iho inOpener opens).range (ihc inCloser closes) _
  | nestedRange opener closer iho ihc =>
    obtain rfl := mode_of_nullable h rfl
    obtain ⟨inOpener, inCloser⟩ := Bool.and_eq_true_iff.mp passes
    obtain ⟨opens, closes⟩ := Bool.and_eq_true_iff.mp h
    exact (iho inOpener opens).nestedRange (ihc inCloser closes) _ _
  | escapedRange opener closer escape iho ihc _ =>
    obtain rfl := mode_of_nullable h rfl
    simp only [escapedRangesPass, Bool.and_eq_true] at passes
    obtain ⟨⟨⟨here, inOpener⟩, inCloser⟩, -⟩ := passes
    obtain ⟨opens, closes⟩ := Bool.and_eq_true_iff.mp h
    exact (iho inOpener opens).escapedRange (ihc inCloser closes)
      (escapes opener closer escape here h) _

/-- Without escaped ranges, what can take nothing never fails. -/
theorem matcher_succeeds (free : p.escapeFree = true) (h : p.nullable mode = true) :
    (p.matcher mode).SucceedsIn .anywhere := by
  refine matcher_succeedsIn ?_ free h
  exact nofun

/-- Where the text has ended a nullable pattern is matched, if escapes that come before a closer
take something: there is nothing to escape then. -/
theorem matcher_succeedsIn_ends (advance : p.escapesAdvance = true) (h : p.nullable mode = true) :
    (p.matcher mode).SucceedsIn .ends := by
  refine matcher_succeedsIn (fun opener closer escape here nullable => ?_) advance h
  obtain ⟨opens, closes⟩ := Bool.and_eq_true_iff.mp nullable
  have moves : escape.nullable .consume = false := by simpa [opens, closes] using here
  have least := escape.matcher_atLeast .consume
  simp only [moves, Bool.false_eq_true, ↓reduceIte] at least
  exact least.failsIn_ends

/-- An escape that can take nothing and has no escaped range in it is matched at every place that
the scan comes to, so that the range never closes. -/
theorem escapedRange_fails {opener closer escape : Pattern}
    (free : escape.escapeFree = true) (h : escape.nullable .consume = true) :
    ((escapedRange opener closer escape).matcher .consume).FailsIn .anywhere := by
  have escaping : (escape.exhaustive .consume).SucceedsIn .anywhere := by
    rw [← matcher_eq_exhaustive]
    exact matcher_succeeds free h
  intro place _
  rw [matcher_eq_exhaustive]
  cases opened : (opener.exhaustive .consume).run place with
  | error e =>
    refine ⟨e, ?_⟩
    simp only [exhaustive, Matcher.inMode, Matcher.escapedRange, opened]
  | ok k =>
    refine ⟨.endOfSource closer, ?_⟩
    simp only [exhaustive, Matcher.inMode, Matcher.escapedRange, opened, escaping.throughUnescaped]

theorem exists_run_of_nullable (free : p.escapeFree = true) (h : p.nullable mode = true)
    (c : Cursor) : ∃ m d, c.run p mode = (.ok m, d) := by
  obtain ⟨m, matched⟩ := matcher_succeeds free h c.point trivial
  exact ⟨m, _, Cursor.run_eq_ok_iff.mpr ⟨matched, rfl⟩⟩

/-- What can take nothing passes its header everywhere, so that it hides no header behind it: a
sequence has the header of its first part and a range that of its opener. And it does match
everywhere, unless an escaped range is part of it. -/
theorem nullable_patterns_pass (c : Cursor) :
    (∀ (p : Pattern) (mode : Mode), p.nullable mode = true →
        c.header p mode = true ∧ (p.escapeFree = true → ∃ m d, c.run p mode = (.ok m, d))) ∧
      (∀ left right : Pattern, c.header (seq left right) .consume = c.header left .consume) ∧
      ∀ r : RangePattern, c.header r.pattern .consume = c.header r.opener .consume := by
  have absorbs (p : Pattern) (other : Bool) :
      (p.header .consume c.point.rest || p.nullable .consume && other) =
        p.header .consume c.point.rest := by
    cases h : p.nullable .consume with
    | true => rw [header_of_nullable h, Bool.true_or]
    | false => rw [Bool.false_and, Bool.or_false]
  refine ⟨fun p mode h => ⟨header_of_nullable h _, fun free => exists_run_of_nullable free h c⟩,
    fun left right => absorbs left _, fun r => ?_⟩
  have opening := absorbs r.opener true
  rw [Bool.and_true, Bool.or_comm] at opening
  obtain ⟨opener, closer, kind⟩ := r
  cases kind <;> exact opening

/-- Delimiters that may be missing, and a range of them that is neglected twice. -/
theorem nullable_patterns_pass_of_optional_delimiters :
    let bracket := nestedRange (optional (ofChar '(')) (span (ofChar ')'))
    let p := negation (seq (repeated bracket 3) (negation (capture (negation bracket) "x")))
    let c := Cursor.place ['(', 'a', ')', ')', 'b'] 1
    p.nullable .neglect = true ∧ c.header p .neglect = true ∧ p.escapeFree = true ∧
      (∃ m d, c.run p .neglect = (.ok m, d)) ∧
      c.header (seq bracket (ofChar 'b')) .consume = c.header bracket .consume := by
  intro bracket p c
  obtain ⟨passes, sequences, -⟩ := nullable_patterns_pass c
  obtain ⟨header, succeeds⟩ := passes p .neglect rfl
  exact ⟨rfl, header, rfl, succeeds rfl, sequences bracket _⟩

theorem nullable_of_run {c d : Cursor} {m : Match} (h : c.run p mode = (.ok m, d))
    (still : m.length = 0) : p.nullable mode = true := by
  have least := p.matcher_atLeast mode c.point m (Cursor.run_eq_ok_iff.mp h).1
  cases nullable : p.nullable mode with
  | true => rfl
  | false => simp [nullable, still] at least

/-- What takes nothing anywhere is nullable. And what is nullable is matched in the empty text,
unless an escaped range that may take nothing has an escape that may take nothing too. -/
theorem nullable_exact (p : Pattern) (mode : Mode) :
    (∀ (c d : Cursor) (m : Match), c.run p mode = (.ok m, d) → m.length = 0 →
        p.nullable mode = true) ∧
      (p.escapesAdvance = true → p.nullable mode = true →
        ∃ m d, (Cursor.start []).run p mode = (.ok m, d) ∧ m.length = 0) := by
  refine ⟨fun _ _ _ => nullable_of_run, fun advance h => ?_⟩
  obtain ⟨m, matched⟩ := matcher_succeedsIn_ends advance h (Cursor.start []).point rfl
  have empty : m.length ≤ 0 := (p.matcher mode).fits matched
  exact ⟨m, _, Cursor.run_eq_ok_iff.mpr ⟨matched, rfl⟩, Nat.le_zero.mp empty⟩

theorem nullable_exact_of_missing_quotes :
    let quote := optional (ofChar '"')
    let p := escapedRange quote quote (ofChar '\\')
    p.escapesAdvance = true ∧ p.nullable .consume = true ∧
      (∃ m d, (Cursor.start []).run p .consume = (.ok m, d) ∧ m.length = 0) ∧
      ∀ (c d : Cursor) (m : Match), c.run (ofChar '"') .consume = (.ok m, d) → m.length ≠ 0 := by
  intro quote p
  refine ⟨rfl, rfl, (nullable_exact p .consume).2 rfl rfl, fun c d m matched still => ?_⟩
  cases (nullable_exact (ofChar '"') .consume).1 c d m matched still

/-- An escaped range that is nullable and fails in every text: an empty escape is found again and
again, up to the end of the text. -/
theorem nullable_not_exact_of_empty_escape :
    let empty := ofText ""
    let p := escapedRange empty empty empty
    p.nullable .consume = true ∧ (∀ c : Cursor, ∃ e, c.run p .consume = (.error e, c)) ∧
      ¬∀ q : Pattern, q.nullable .consume = true →
        (∃ (c d : Cursor) (m : Match), c.run q .consume = (.ok m, d) ∧ m.length = 0) ∧
          ∃ m d, (Cursor.start []).run q .consume = (.ok m, d) := by
  intro empty p
  have nullable : p.nullable .consume = true := rfl
  have fails (c : Cursor) : c.Refuses p :=
    Cursor.refuses_iff.mpr (escapedRange_fails rfl rfl c.point trivial)
  refine ⟨nullable, fails, fun all => ?_⟩
  obtain ⟨c, d, m, matched, -⟩ := (all p nullable).1
  obtain ⟨e, failed⟩ := fails c
  cases failed.symm.trans matched

end Pattern

end TextPattern
