import TextPattern.Matcher.Range

namespace TextPattern.Matcher

variable {δ ε : Type}

theorem append_one (m : Match) : m ++ ⟨1, []⟩ = m.skip := by
  have one : m ++ Match.empty.skip = (m ++ .empty).skip := Match.append_skip m .empty
  rwa [Match.append_empty] at one

theorem run_block_ok_iff {width : Nat} {accepts : List Char → Bool} {short refused : ε} {p : Point}
    {m : Match} : (block width accepts short refused).run p = .ok m ↔
      width ≤ p.rest.length ∧ accepts (p.rest.take width) ∧ m = ⟨width, []⟩ := by
  have fits : (p.rest.take width).length = width ↔ width ≤ p.rest.length := by
    simp only [List.length_take]
    omega
  simp only [block, fits]
  by_cases enough : width ≤ p.rest.length
  · by_cases taken : accepts (p.rest.take width)
    · simp only [enough, taken, ↓reduceIte, Except.ok.injEq, true_and, eq_comm]
    · simp [enough, taken]
  · simp [enough]

theorem run_char_ok_iff {accepts : Char → Bool} {short refused : ε} {p : Point} {m : Match} :
    (char accepts short refused).run p = .ok m ↔
      ∃ c rest, p.rest = c :: rest ∧ accepts c ∧ m = ⟨1, []⟩ := by
  cases hr : p.rest with
  | nil => simp [char, hr]
  | cons c rest =>
    by_cases taken : accepts c
    · simp only [char, hr, taken, ↓reduceIte, Except.ok.injEq]
      constructor
      · rintro rfl
        exact ⟨c, rest, rfl, taken, rfl⟩
      · rintro ⟨_, _, _, _, rfl⟩
        rfl
    · simp [char, hr, taken]

theorem run_block_error_iff {width : Nat} {accepts : List Char → Bool} {short refused e : ε}
    {p : Point} : (block width accepts short refused).run p = .error e ↔
      p.rest.length < width ∧ e = short ∨
        width ≤ p.rest.length ∧ accepts (p.rest.take width) = false ∧ e = refused := by
  have fits : (p.rest.take width).length = width ↔ width ≤ p.rest.length := by
    simp only [List.length_take]
    omega
  simp only [block, fits]
  by_cases enough : width ≤ p.rest.length
  · have some : ¬p.rest.length < width := Nat.not_lt_of_le enough
    cases taken : accepts (p.rest.take width) with
    | true => simp [enough, some]
    | false =>
      simp only [enough, some, ↓reduceIte, Bool.false_eq_true, Except.error.injEq, false_and,
        false_or, true_and]
      exact eq_comm
  · have few : p.rest.length < width := Nat.lt_of_not_le enough
    simp only [enough, few, ↓reduceIte, Except.error.injEq, true_and, false_and, or_false]
    exact eq_comm

theorem run_char_error_iff {accepts : Char → Bool} {short refused e : ε} {p : Point} :
    (char accepts short refused).run p = .error e ↔
      p.rest = [] ∧ e = short ∨
        ∃ c rest, p.rest = c :: rest ∧ accepts c = false ∧ e = refused := by
  cases hr : p.rest with
  | nil =>
    simp only [char, hr, Except.error.injEq, true_and, List.nil_eq, reduceCtorEq, false_and,
      exists_false, or_false]
    exact eq_comm
  | cons c rest =>
    cases taken : accepts c with
    | true => simp [char, hr, taken]
    | false =>
      simp only [char, hr, taken, Bool.false_eq_true, ↓reduceIte, Except.error.injEq, reduceCtorEq,
        false_and, false_or]
      exact ⟨fun h => ⟨c, rest, rfl, taken, h.symm⟩, fun ⟨_, _, _, _, h⟩ => h.symm⟩

theorem run_andThen_error_iff {a b : Matcher ε} {p : Point} {e : ε} :
    (a.andThen b).run p = .error e ↔
      a.run p = .error e ∨ ∃ k, a.run p = .ok k ∧ b.run (p.advance k.length) = .error e := by
  simp only [andThen]
  cases a.run p with
  | error e' => simp
  | ok k =>
    simp only [reduceCtorEq, false_or, Except.ok.injEq, exists_eq_left']
    cases b.run (p.advance k.length) <;> simp

theorem andThen_assoc (a b c : Matcher ε) : (a.andThen b).andThen c = a.andThen (b.andThen c) := by
  ext p : 2
  simp only [andThen]
  cases a.run p with
  | error e => rfl
  | ok k =>
    simp only
    cases b.run (p.advance k.length) with
    | error e => rfl
    | ok m =>
      simp only [Match.length_append, Point.advance_advance]
      cases c.run (p.advance (k.length + m.length)) with
      | error e => rfl
      | ok n => simp only [Match.append_assoc]

theorem run_orElse_ok {a : Matcher δ} {b : Matcher ε} {p : Point} {m : Match}
    (h : (a.orElse b).run p = .ok m) : a.run p = .ok m ∨ b.run p = .ok m := by
  simp only [orElse] at h
  split at h
  next k ha =>
    cases h
    exact Or.inl ha
  next => exact Or.inr h

theorem run_orElse_error {a : Matcher δ} {b : Matcher ε} {p : Point} {e : ε}
    (h : (a.orElse b).run p = .error e) : b.run p = .error e := by
  simp only [orElse] at h
  split at h
  next => cases h
  next => exact h

theorem run_optional_ok (a : Matcher δ) (p : Point) :
    ∃ m, (a.optional : Matcher ε).run p = .ok m := by
  simp only [optional]
  cases a.run p with
  | ok m => exact ⟨m, rfl⟩
  | error e => exact ⟨.empty, rfl⟩

theorem run_captured_ok_iff {name : String} {a : Matcher ε} {p : Point} {m : Match} :
    (a.captured name).run p = .ok m ↔
      ∃ n, a.run p = .ok n ∧ m = n.record ⟨name, p.offset, p.rest.take n.length⟩ := by
  cases ha : a.run p with
  | error e => simp [captured, ha]
  | ok n => simp [captured, ha, eq_comm]

theorem run_captured_error_iff {name : String} {a : Matcher ε} {p : Point} {e : ε} :
    (a.captured name).run p = .error e ↔ a.run p = .error e := by
  cases ha : a.run p with
  | error f => simp [captured, ha]
  | ok n => simp [captured, ha]

theorem run_anythingBut_ok_iff {a : Matcher δ} {short found : ε} {p : Point} {m : Match} :
    (a.anythingBut short found).run p = .ok m ↔
      (∃ e, a.run p = .error e) ∧ p.rest ≠ [] ∧ m = ⟨1, []⟩ := by
  cases ha : a.run p with
  | ok n => simp [anythingBut, ha]
  | error e =>
    cases hr : p.rest with
    | nil => simp [anythingBut, ha, hr]
    | cons c rest => simp [anythingBut, ha, hr, eq_comm]

theorem run_anythingBut_error_iff {a : Matcher δ} {short found e : ε} {p : Point} :
    (a.anythingBut short found).run p = .error e ↔
      (∃ m, a.run p = .ok m) ∧ e = found ∨
        (∃ e', a.run p = .error e') ∧ p.rest = [] ∧ e = short := by
  cases ha : a.run p with
  | ok m => simp [anythingBut, ha, eq_comm]
  | error e' =>
    cases hr : p.rest with
    | nil => simp [anythingBut, ha, hr, eq_comm]
    | cons c rest => simp [anythingBut, ha, hr]

theorem run_nonempty_ok_iff {a : Matcher δ} {p : Point} {m : Match} :
    a.nonempty.run p = .ok m ↔ a.run p = .ok m ∧ 0 < m.length := by
  cases ha : a.run p with
  | error e => simp [nonempty, ha]
  | ok n =>
    by_cases zero : n.length = 0
    · simp only [nonempty, ha, zero, ↓reduceIte, reduceCtorEq, Except.ok.injEq, false_iff]
      rintro ⟨rfl, pos⟩
      omega
    · simp only [nonempty, ha, zero, ↓reduceIte, Except.ok.injEq]
      constructor
      · rintro rfl
        exact ⟨rfl, by omega⟩
      · exact fun h => h.1

/-- One repetition more is one match and then the others. -/
theorem times_succ (count : Nat) (a : Matcher ε) :
    times (count + 1) a = a.andThen (times count a) := by
  ext p
  simp only [times, timesFrom, andThen]
  cases a.run p with
  | error e => rfl
  | ok m =>
    simp only [Match.empty_append]
    rw [timesFrom_eq]
    cases a.timesFrom count .empty (p.advance m.length) <;> rfl

/-- Repetitions fail where one of them does. -/
theorem run_times_error {count : Nat} {a : Matcher ε} {p : Point} {e : ε}
    (h : (times count a).run p = .error e) :
    ∃ n ≤ p.rest.length, a.run (p.advance n) = .error e := by
  induction count generalizing p with
  | zero => cases h
  | succ count ih =>
    rw [times_succ] at h
    rcases run_andThen_error_iff.mp h with here | ⟨m, hm, later⟩
    · exact ⟨0, Nat.zero_le _, here⟩
    · obtain ⟨n, inside, failed⟩ := ih later
      have fits := a.fits hm
      rw [Point.rest_advance, List.length_drop] at inside
      rw [Point.advance_advance] at failed
      exact ⟨m.length + n, by omega, failed⟩

theorem run_range_ok {opener : Matcher ε} {closer : Matcher δ} {unclosed : ε} {p : Point}
    {m : Match} (h : (opener.range closer unclosed).run p = .ok m) : ∃ k, opener.run p = .ok k ∧
      closer.throughCloser unclosed k (p.offset + k.length) (p.rest.drop k.length) = .ok m := by
  simp only [range] at h
  split at h
  next => cases h
  next k ho => exact ⟨k, ho, h⟩

theorem run_escapedRange_ok {opener : Matcher ε} {closer escape : Matcher δ} {unclosed : ε}
    {p : Point} {m : Match} (h : (opener.escapedRange closer escape unclosed).run p = .ok m) :
    ∃ k, opener.run p = .ok k ∧
      closer.throughUnescaped escape unclosed k (p.advance k.length) = .ok m := by
  simp only [escapedRange] at h
  split at h
  next => cases h
  next k ho => exact ⟨k, ho, h⟩

theorem run_nestedRange_ok {opener : Matcher ε} {closer again : Matcher δ} {unclosed : ε}
    {p : Point} {m : Match} (h : (opener.nestedRange closer again unclosed).run p = .ok m) :
    ∃ k, opener.run p = .ok k ∧
      closer.throughBalance again unclosed 0 k (p.advance k.length) = .ok m := by
  simp only [nestedRange] at h
  split at h
  next => cases h
  next k ho => exact ⟨k, ho, h⟩

end TextPattern.Matcher
