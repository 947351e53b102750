import TextPattern.Cursor
import TextPattern.Proofs.MatcherRun

namespace TextPattern

namespace Matcher

variable {δ ε : Type}

/-- Every match has `least` characters or more. -/
def AtLeast (least : Nat) (a : Matcher ε) : Prop :=
  ∀ p m, a.run p = .ok m → least ≤ m.length

/-- There is a match only where the text ahead passes the test. -/
def GuardedBy (test : List Char → Bool) (a : Matcher ε) : Prop :=
  ∀ p m, a.run p = .ok m → test p.rest = true

theorem AtLeast.zero (a : Matcher ε) : a.AtLeast 0 :=
  fun _ _ _ => Nat.zero_le _

theorem AtLeast.weaken {least lower : Nat} {a : Matcher ε} (h : a.AtLeast least)
    (le : lower ≤ least) : a.AtLeast lower :=
  fun p m ha => Nat.le_trans le (h p m ha)

theorem block_atLeast (width : Nat) (accepts : List Char → Bool) (short refused : ε) :
    (block width accepts short refused).AtLeast width := by
  intro p m h
  obtain ⟨_, _, rfl⟩ := run_block_ok_iff.mp h
  exact Nat.le_refl width

theorem char_atLeast (accepts : Char → Bool) (short refused : ε) :
    (char accepts short refused).AtLeast 1 := by
  intro p m h
  obtain ⟨_, _, _, _, rfl⟩ := run_char_ok_iff.mp h
  exact Nat.le_refl 1

theorem anythingBut_atLeast (a : Matcher δ) (short found : ε) :
    (a.anythingBut short found).AtLeast 1 := by
  intro p m h
  obtain ⟨_, _, rfl⟩ := run_anythingBut_ok_iff.mp h
  exact Nat.le_refl 1

theorem AtLeast.andThen {i j : Nat} {a b : Matcher ε} (ha : a.AtLeast i) (hb : b.AtLeast j) :
    (a.andThen b).AtLeast (i + j) := by
  intro p m h
  obtain ⟨k, n, hk, hn, rfl⟩ := run_andThen_ok_iff.mp h
  exact Nat.add_le_add (ha _ _ hk) (hb _ _ hn)

theorem AtLeast.orElse {least : Nat} {a : Matcher δ} {b : Matcher ε} (ha : a.AtLeast least)
    (hb : b.AtLeast least) : (a.orElse b).AtLeast least := by
  intro p m h
  rcases run_orElse_ok h with h | h
  · exact ha p m h
  · exact hb p m h

theorem AtLeast.probe {least : Nat} {a : Matcher δ} (ha : a.AtLeast least)
    (test : List Char → Bool) : (a.probe test).AtLeast least :=
  fun p m h => ha p m (run_probe_ok_iff.mp h).2

theorem AtLeast.captured {least : Nat} {a : Matcher ε} (name : String) (ha : a.AtLeast least) :
    (a.captured name).AtLeast least := by
  intro p m h
  obtain ⟨n, hn, rfl⟩ := run_captured_ok_iff.mp h
  exact ha p n hn

theorem AtLeast.times {least : Nat} {a : Matcher ε} {count : Nat} (ha : a.AtLeast least)
    (pos : 0 < count) : (times count a).AtLeast least := by
  obtain ⟨count, rfl⟩ := Nat.exists_eq_succ_of_ne_zero (Nat.ne_of_gt pos)
  rw [times_succ]
  exact (ha.andThen (AtLeast.zero _)).weaken (Nat.le_add_right _ _)

/-! Each scan ends with a closer, whatever it passes over before. -/

theorem AtLeast.throughCloser {least offset : Nat} {closer : Matcher δ} {unclosed : ε}
    {acc m : Match} {rest : List Char} (hc : closer.AtLeast least)
    (h : closer.throughCloser unclosed acc offset rest = .ok m) :
    acc.length + least ≤ m.length := by
  induction rest generalizing acc offset with
  | nil =>
    simp only [Matcher.throughCloser] at h
    split at h
    next n hn =>
      cases h
      exact Nat.add_le_add_left (hc _ _ hn) _
    next => cases h
  | cons c rest ih =>
    simp only [Matcher.throughCloser] at h
    split at h
    next n hn =>
      cases h
      exact Nat.add_le_add_left (hc _ _ hn) _
    next =>
      have := ih h
      simp only [Match.length_skip] at this
      omega

theorem AtLeast.throughUnescaped {least : Nat} {closer escape : Matcher δ} {unclosed : ε}
    {acc m : Match} {p : Point} (hc : closer.AtLeast least)
    (h : closer.throughUnescaped escape unclosed acc p = .ok m) :
    acc.length + least ≤ m.length := by
  fun_induction Matcher.throughUnescaped closer escape unclosed acc p with
  | case1 => cases h
  | case2 acc p n he more ih =>
    have := ih h
    simp only [Match.length_skip, Match.length_append] at this
    omega
  | case3 acc p e he n hn =>
    cases h
    exact Nat.add_le_add_left (hc _ _ hn) _
  | case4 => cases h
  | case5 acc p e he e' hn more ih =>
    have := ih h
    simp only [Match.length_skip] at this
    omega

theorem AtLeast.throughBalance {least outer : Nat} {closer opener : Matcher δ} {unclosed : ε}
    {acc m : Match} {p : Point} (hc : closer.AtLeast least)
    (h : closer.throughBalance opener unclosed outer acc p = .ok m) :
    acc.length + least ≤ m.length := by
  fun_induction Matcher.throughBalance closer opener unclosed outer acc p with
  | case1 acc p n hn =>
    cases h
    exact Nat.add_le_add_left (hc _ _ hn) _
  | case2 acc p n hn outer ih =>
    have := ih h
    simp only [Match.length_append] at this
    omega
  | case3 outer acc p e hn n ho ih =>
    have := ih h
    simp only [Match.length_append] at this
    omega
  | case4 => cases h
  | case5 outer acc p e hn e' ho more ih =>
    have := ih h
    simp only [Match.length_skip] at this
    omega

theorem AtLeast.range {i j : Nat} {opener : Matcher ε} {closer : Matcher δ} {unclosed : ε}
    (ho : opener.AtLeast i) (hc : closer.AtLeast j) :
    (opener.range closer unclosed).AtLeast (i + j) := by
  intro p m h
  obtain ⟨k, hk, h⟩ := run_range_ok h
  exact Nat.le_trans (Nat.add_le_add_right (ho p k hk) j) (hc.throughCloser h)

theorem AtLeast.escapedRange {i j : Nat} {opener : Matcher ε} {closer escape : Matcher δ}
    {unclosed : ε} (ho : opener.AtLeast i) (hc : closer.AtLeast j) :
    (opener.escapedRange closer escape unclosed).AtLeast (i + j) := by
  intro p m h
  obtain ⟨k, hk, h⟩ := run_escapedRange_ok h
  exact Nat.le_trans (Nat.add_le_add_right (ho p k hk) j) (hc.throughUnescaped h)

theorem AtLeast.nestedRange {i j : Nat} {opener : Matcher ε} {closer again : Matcher δ}
    {unclosed : ε} (ho : opener.AtLeast i) (hc : closer.AtLeast j) :
    (opener.nestedRange closer again unclosed).AtLeast (i + j) := by
  intro p m h
  obtain ⟨k, hk, h⟩ := run_nestedRange_ok h
  exact Nat.le_trans (Nat.add_le_add_right (ho p k hk) j) (hc.throughBalance h)

theorem GuardedBy.block {test : List Char → Bool} {width : Nat} {accepts : List Char → Bool}
    {short refused : ε} (h : ∀ text, width ≤ text.length → accepts (text.take width) →
      test text = true) : (block width accepts short refused).GuardedBy test := by
  intro p m hm
  obtain ⟨enough, taken, _⟩ := run_block_ok_iff.mp hm
  exact h p.rest enough taken

theorem char_guardedBy (accepts : Char → Bool) (short refused : ε) :
    (char accepts short refused).GuardedBy fun ahead => ahead.head?.any accepts := by
  intro p m h
  obtain ⟨c, rest, hr, taken, _⟩ := run_char_ok_iff.mp h
  simp [hr, taken]

theorem anythingBut_guardedBy (a : Matcher δ) (short found : ε) :
    (a.anythingBut short found).GuardedBy fun ahead => !ahead.isEmpty := by
  intro p m h
  obtain ⟨_, more, _⟩ := run_anythingBut_ok_iff.mp h
  simp [more]

theorem GuardedBy.andThen {test : List Char → Bool} {a b : Matcher ε} (h : a.GuardedBy test) :
    (a.andThen b).GuardedBy test := by
  intro p m hm
  obtain ⟨k, _, hk, _⟩ := run_andThen_ok_iff.mp hm
  exact h p k hk

theorem GuardedBy.orElse {test other : List Char → Bool} {a : Matcher δ} {b : Matcher ε}
    (ha : a.GuardedBy test) (hb : b.GuardedBy other) :
    (a.orElse b).GuardedBy fun ahead => test ahead || other ahead := by
  intro p m h
  rcases run_orElse_ok h with h | h
  · simp [ha p m h]
  · simp [hb p m h]

theorem GuardedBy.probe {test other : List Char → Bool} {a : Matcher δ} (ha : a.GuardedBy test) :
    (a.probe other).GuardedBy test :=
  fun p m h => ha p m (run_probe_ok_iff.mp h).2

theorem GuardedBy.captured {test : List Char → Bool} {a : Matcher ε} (name : String)
    (h : a.GuardedBy test) : (a.captured name).GuardedBy test := by
  intro p m hm
  obtain ⟨n, hn, _⟩ := run_captured_ok_iff.mp hm
  exact h p n hn

theorem GuardedBy.times {test : List Char → Bool} {a : Matcher ε} {count : Nat}
    (h : a.GuardedBy test) (pos : 0 < count) : (times count a).GuardedBy test := by
  obtain ⟨count, rfl⟩ := Nat.exists_eq_succ_of_ne_zero (Nat.ne_of_gt pos)
  rw [times_succ]
  exact h.andThen

theorem GuardedBy.range {test : List Char → Bool} {opener : Matcher ε} {closer : Matcher δ}
    {unclosed : ε} (h : opener.GuardedBy test) : (opener.range closer unclosed).GuardedBy test := by
  intro p m hm
  obtain ⟨k, hk, _⟩ := run_range_ok hm
  exact h p k hk

theorem GuardedBy.escapedRange {test : List Char → Bool} {opener : Matcher ε}
    {closer escape : Matcher δ} {unclosed : ε} (h : opener.GuardedBy test) :
    (opener.escapedRange closer escape unclosed).GuardedBy test := by
  intro p m hm
  obtain ⟨k, hk, _⟩ := run_escapedRange_ok hm
  exact h p k hk

theorem GuardedBy.nestedRange {test : List Char → Bool} {opener : Matcher ε}
    {closer again : Matcher δ} {unclosed : ε} (h : opener.GuardedBy test) :
    (opener.nestedRange closer again unclosed).GuardedBy test := by
  intro p m hm
  obtain ⟨k, hk, _⟩ := run_nestedRange_ok hm
  exact h p k hk

end Matcher

namespace Literal

theorem header_of_accepts {l : Literal} {text : List Char} (h : l.accepts (text.take l.width)) :
    (Pattern.literal l).header .consume text = true := by
  obtain ⟨expected, k⟩ := l
  cases expected with
  | nil => rfl
  | cons first others =>
    cases text with
    | nil => simp [accepts, width, Comparison.sameText] at h
    | cons c rest =>
      simp only [accepts, width, List.length_cons, List.take_succ_cons, Comparison.sameText,
        Bool.and_eq_true] at h
      exact h.1

theorem header_of_refuses {l : Literal} {text : List Char} (enough : l.width ≤ text.length)
    (h : l.accepts (text.take l.width) = false) :
    (Pattern.literal l).header .neglect text = true := by
  obtain ⟨expected, k⟩ := l
  match expected, text with
  | [], _ => simp [accepts, width, Comparison.sameText] at h
  | [single], [] => simp [width] at enough
  | [single], c :: rest =>
    simpa [accepts, width, Comparison.sameText, Pattern.header] using h
  | _ :: _ :: _, _ => exact hasLength_iff.mpr enough

theorem width_pos_of_refuses {l : Literal} {text : List Char}
    (h : l.accepts (text.take l.width) = false) : 0 < l.width := by
  obtain ⟨expected, k⟩ := l
  cases expected with
  | nil => simp [accepts, width, Comparison.sameText] at h
  | cons first others => simp [width]

end Literal

namespace Matcher

theorem AtLeast.inMode {a : Matcher (MatchError Pattern)} {p : Pattern}
    (h : a.AtLeast (if p.nullable .consume then 0 else 1)) (mode : Mode) :
    (a.inMode p mode).AtLeast (if p.nullable mode then 0 else 1) := by
  cases mode with
  | consume => exact h
  | neglect => exact (anythingBut_atLeast _ _ _).weaken (by split <;> omega)

theorem GuardedBy.inMode {a : Matcher (MatchError Pattern)} {p : Pattern}
    (h : a.GuardedBy (p.header .consume))
    (generic : p.header .neglect = fun ahead => !ahead.isEmpty) (mode : Mode) :
    (a.inMode p mode).GuardedBy (p.header mode) := by
  cases mode with
  | consume => exact h
  | neglect =>
    rw [generic]
    exact anythingBut_guardedBy _ _ _

end Matcher

/-! What a nullable pattern takes at least is nothing, and what any other takes is one character. -/

theorem least_and (a b : Bool) :
    (if a && b then 0 else 1) ≤ (if a then 0 else 1) + (if b then 0 else 1) := by
  cases a <;> cases b <;> decide

theorem least_or_left (a b : Bool) : (if a || b then 0 else 1) ≤ if a then 0 else 1 := by
  cases a <;> cases b <;> decide

theorem least_or_right (a b : Bool) : (if a || b then 0 else 1) ≤ if b then 0 else 1 := by
  cases a <;> cases b <;> decide

namespace Pattern

/-- A pattern that is not nullable takes a character or more. -/
theorem matcher_atLeast (p : Pattern) (mode : Mode) :
    (p.matcher mode).AtLeast (if p.nullable mode then 0 else 1) := by
  induction p generalizing mode with
  | literal l =>
    cases mode with
    | consume =>
      refine (Matcher.block_atLeast _ _ _ _).weaken ?_
      cases hl : l.text <;> simp [nullable, Literal.width, hl]
    | neglect =>
      intro place m h
      obtain ⟨_, refused, rfl⟩ := Matcher.run_block_ok_iff.mp h
      exact Literal.width_pos_of_refuses (by simpa using refused)
  | test t => cases mode <;> exact Matcher.char_atLeast _ _ _
  | seq left right ihl ihr =>
    have both := (ihl .consume).andThen (ihr .consume)
    exact Matcher.AtLeast.inMode (p := seq left right) (both.weaken (least_and _ _)) mode
  | alt left right ihl ihr =>
    have probed := (ihl .consume).probe (left.header .consume)
    have first := probed.weaken (least_or_left _ (right.nullable .consume))
    have second := (ihr .consume).weaken (least_or_right (left.nullable .consume) _)
    exact Matcher.AtLeast.inMode (p := alt left right) (first.orElse second) mode
  | optional inner _ =>
    refine Matcher.AtLeast.inMode ?_ mode
    exact Matcher.AtLeast.zero _
  | span inner _ =>
    refine Matcher.AtLeast.inMode ?_ mode
    exact Matcher.AtLeast.zero _
  | repeated inner count ih =>
    apply Matcher.AtLeast.inMode
    by_cases zero : count = 0
    · simp only [nullable, zero, BEq.rfl, Bool.true_or, ↓reduceIte]
      exact Matcher.AtLeast.zero _
    · have pos : 0 < count.toNat := Nat.pos_of_ne_zero fun h => zero (UInt64.toNat_inj.mp h)
      simpa only [nullable, beq_iff_eq, zero, Bool.or_eq_true, false_or] using
        (ih .consume).times pos
  | negation inner ih => exact ih mode.flip
  | range opener closer iho ihc =>
    have closing := (ihc .consume).probe (closer.header .consume)
    refine Matcher.AtLeast.inMode (p := range opener closer) (.weaken ?_ (least_and _ _)) mode
    exact (iho .consume).range closing
  | escapedRange opener closer escape iho ihc _ =>
    have closing := (ihc .consume).probe (closer.header .consume)
    refine Matcher.AtLeast.inMode (p := escapedRange opener closer escape)
      (.weaken ?_ (least_and _ _)) mode
    exact (iho .consume).escapedRange closing
  | nestedRange opener closer iho ihc =>
    have closing := (ihc .consume).probe (closer.header .consume)
    refine Matcher.AtLeast.inMode (p := nestedRange opener closer) (.weaken ?_ (least_and _ _)) mode
    exact (iho .consume).nestedRange closing
  | capture inner name ih => exact (ih mode).captured name

/-- A pattern matches only where its header allows. -/
theorem matcher_guardedBy (p : Pattern) (mode : Mode) :
    (p.matcher mode).GuardedBy (p.header mode) := by
  induction p generalizing mode with
  | literal l =>
    cases mode with
    | consume => exact Matcher.GuardedBy.block fun _ _ taken => Literal.header_of_accepts taken
    | neglect =>
      refine Matcher.GuardedBy.block fun _ enough refused => ?_
      exact Literal.header_of_refuses enough (by simpa using refused)
  | test t => cases mode <;> exact Matcher.char_guardedBy _ _ _
  | seq left right ihl _ =>
    refine Matcher.GuardedBy.inMode ?_ (by rfl) mode
    intro place m h
    have := (ihl .consume).andThen place m h
    simp [header, this]
  | alt left right ihl ihr =>
    refine Matcher.GuardedBy.inMode ?_ (by rfl) mode
    exact (ihl .consume).probe.orElse (ihr .consume)
  | optional inner _ =>
    refine Matcher.GuardedBy.inMode ?_ (by rfl) mode
    exact fun _ _ _ => rfl
  | span inner _ =>
    refine Matcher.GuardedBy.inMode ?_ (by rfl) mode
    exact fun _ _ _ => rfl
  | repeated inner count ih =>
    refine Matcher.GuardedBy.inMode ?_ (by rfl) mode
    intro place m h
    by_cases zero : count = 0
    · simp [header, zero]
    · have pos : 0 < count.toNat := Nat.pos_of_ne_zero fun h => zero (UInt64.toNat_inj.mp h)
      have := (ih .consume).times pos place m h
      simp [header, this]
  | negation inner ih => exact ih mode.flip
  | range opener closer iho _ =>
    refine Matcher.GuardedBy.inMode ?_ (by rfl) mode
    intro place m h
    have := (iho .consume).range place m h
    simp [header, this]
  | escapedRange opener closer escape iho _ _ =>
    refine Matcher.GuardedBy.inMode ?_ (by rfl) mode
    intro place m h
    have := (iho .consume).escapedRange place m h
    simp [header, this]
  | nestedRange opener closer iho _ =>
    refine Matcher.GuardedBy.inMode ?_ (by rfl) mode
    intro place m h
    have := (iho .consume).nestedRange place m h
    simp [header, this]
  | capture inner name ih => exact (ih mode).captured name

/-- Headers and nullability err on the side of a match: where the header is false the pattern fails
and the cursor stays, and a pattern that is not nullable never matches nothing. -/
theorem header_and_nullable_conservative (p : Pattern) (mode : Mode) (c : Cursor) :
    (c.header p mode = false → ∃ e, c.run p mode = (.error e, c)) ∧
      (p.nullable mode = false → ∀ m, (c.run p mode).1 = .ok m → 1 ≤ m.length) := by
  cases hr : p.run mode c.point with
  | error e =>
    rw [Cursor.run_error hr]
    exact ⟨fun _ => ⟨e, rfl⟩, fun _ m h => by cases h⟩
  | ok m =>
    refine ⟨fun off => ?_, fun moves n h => ?_⟩
    · have on := p.matcher_guardedBy mode c.point m hr
      simp only [Cursor.header, on, Bool.true_eq_false] at off
    · rw [(Cursor.run_ok hr).1] at h
      cases h
      simpa [moves] using p.matcher_atLeast mode c.point m hr

theorem header_and_nullable_of_negation :
    let p := negation (literal ⟨['a', 'b'], .matchCase⟩)
    (∃ e, (Cursor.start ['a']).run p .consume = (.error e, .start ['a'])) ∧
      ((Cursor.start ['a', 'c']).run p .consume).1 = .ok ⟨2, []⟩ ∧ 1 ≤ 2 := by
  intro p
  have atShort := header_and_nullable_conservative p .consume (.start ['a'])
  have atLong := header_and_nullable_conservative p .consume (.start ['a', 'c'])
  exact ⟨atShort.1 rfl, rfl, atLong.2 rfl ⟨2, []⟩ rfl⟩

end Pattern

end TextPattern
