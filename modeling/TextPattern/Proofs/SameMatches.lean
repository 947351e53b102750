import TextPattern.Proofs.MatcherRun
import TextPattern.Proofs.SearchByOffset

namespace TextPattern.Matcher

variable {γ δ ε : Type}

/-- Two matchers that match the same text with the same captures; where they fail, the errors may
differ. -/
def SameMatches (a : Matcher δ) (b : Matcher ε) : Prop :=
  ∀ p m, a.run p = .ok m ↔ b.run p = .ok m

theorem SameMatches.error {a : Matcher δ} {b : Matcher ε} (h : a.SameMatches b) {p : Point} {e : δ}
    (ha : a.run p = .error e) : ∃ e', b.run p = .error e' := by
  cases hb : b.run p with
  | error e' => exact ⟨e', rfl⟩
  | ok m =>
    rw [(h p m).mpr hb] at ha
    cases ha

theorem SameMatches.symm {a : Matcher δ} {b : Matcher ε} (h : a.SameMatches b) :
    b.SameMatches a :=
  fun p m => (h p m).symm

theorem SameMatches.trans {a : Matcher γ} {b : Matcher δ} {c : Matcher ε} (h : a.SameMatches b)
    (h' : b.SameMatches c) : a.SameMatches c :=
  fun p m => (h p m).trans (h' p m)

theorem SameMatches.nonempty {a : Matcher δ} {b : Matcher ε} (h : a.SameMatches b) :
    a.nonempty.SameMatches b.nonempty := by
  intro p m
  rw [run_nonempty_ok_iff, run_nonempty_ok_iff, h p m]

theorem SameMatches.orElse {a : Matcher γ} {b : Matcher δ} (h : a.SameMatches b)
    (c : Matcher ε) : a.orElse c = b.orElse c := by
  ext p : 2
  simp only [Matcher.orElse]
  cases ha : a.run p with
  | ok m => rw [(h p m).mp ha]
  | error e =>
    obtain ⟨e', hb⟩ := h.error ha
    rw [hb]

theorem SameMatches.optional {a : Matcher γ} {b : Matcher δ} (h : a.SameMatches b) :
    (a.optional : Matcher ε) = b.optional := by
  ext p : 2
  simp only [Matcher.optional]
  cases ha : a.run p with
  | ok m => rw [(h p m).mp ha]
  | error e =>
    obtain ⟨e', hb⟩ := h.error ha
    rw [hb]

theorem SameMatches.anythingBut {a : Matcher γ} {b : Matcher δ} (h : a.SameMatches b)
    (short found : ε) : a.anythingBut short found = b.anythingBut short found := by
  ext p : 2
  simp only [Matcher.anythingBut]
  cases ha : a.run p with
  | ok m => rw [(h p m).mp ha]
  | error e =>
    obtain ⟨e', hb⟩ := h.error ha
    rw [hb]

theorem SameMatches.spanFrom {a : Matcher γ} {b : Matcher δ} (h : a.SameMatches b) (acc : Match)
    (p : Point) : a.spanFrom acc p = b.spanFrom acc p := by
  fun_induction Matcher.spanFrom a acc p with
  | case1 acc p e ha =>
    obtain ⟨_, hb⟩ := h.error ha
    rw [Matcher.spanFrom, hb]
  | case2 acc p m ha zero =>
    rw [Matcher.spanFrom, (h p m).mp ha]
    simp only [zero, ↓reduceIte]
  | case3 acc p m ha pos ih =>
    refine ih.trans (Eq.symm ?_)
    rw [Matcher.spanFrom, (h p m).mp ha]
    simp only [pos, ↓reduceIte]

theorem SameMatches.span {a : Matcher γ} {b : Matcher δ} (h : a.SameMatches b) :
    (a.span : Matcher ε) = b.span := by
  ext p : 2
  simp only [Matcher.span, h.spanFrom]

theorem SameMatches.throughCloser {a : Matcher γ} {b : Matcher δ} (h : a.SameMatches b)
    (unclosed : ε) (acc : Match) (offset : Nat) (rest : List Char) :
    a.throughCloser unclosed acc offset rest = b.throughCloser unclosed acc offset rest := by
  induction rest generalizing acc offset with
  | nil =>
    rw [Matcher.throughCloser, Matcher.throughCloser]
    cases ha : a.run ⟨offset, []⟩ with
    | ok m => rw [(h _ m).mp ha]
    | error e =>
      obtain ⟨e', hb⟩ := h.error ha
      rw [hb]
  | cons c rest ih =>
    rw [Matcher.throughCloser, Matcher.throughCloser]
    cases ha : a.run ⟨offset, c :: rest⟩ with
    | ok m => rw [(h _ m).mp ha]
    | error e =>
      obtain ⟨e', hb⟩ := h.error ha
      rw [hb]
      exact ih acc.skip (offset + 1)

theorem SameMatches.throughUnescaped {a x : Matcher γ} {b y : Matcher δ} (h : a.SameMatches b)
    (hx : x.SameMatches y) (unclosed : ε) (acc : Match) (p : Point) :
    a.throughUnescaped x unclosed acc p = b.throughUnescaped y unclosed acc p := by
  fun_induction Matcher.throughUnescaped a x unclosed acc p with
  | case1 acc p m he atEnd =>
    rw [Matcher.throughUnescaped, (hx p m).mp he]
    simp only [atEnd, ↓reduceIte]
  | case2 acc p m he more ih =>
    refine ih.trans (Eq.symm ?_)
    rw [Matcher.throughUnescaped, (hx p m).mp he]
    simp only [more, Bool.false_eq_true, ↓reduceIte]
  | case3 acc p e he m hc =>
    obtain ⟨e', he'⟩ := hx.error he
    rw [Matcher.throughUnescaped, he', (h p m).mp hc]
  | case4 acc p e he e' hc atEnd =>
    obtain ⟨_, he'⟩ := hx.error he
    obtain ⟨_, hc'⟩ := h.error hc
    rw [Matcher.throughUnescaped, he', hc']
    simp only [atEnd, ↓reduceIte]
  | case5 acc p e he e' hc more ih =>
    obtain ⟨_, he'⟩ := hx.error he
    obtain ⟨_, hc'⟩ := h.error hc
    refine ih.trans (Eq.symm ?_)
    rw [Matcher.throughUnescaped, he', hc']
    simp only [more, Bool.false_eq_true, ↓reduceIte]

theorem SameMatches.throughBalance {a x : Matcher γ} {b y : Matcher δ} (h : a.SameMatches b)
    (hx : x.SameMatches y) (unclosed : ε) (outer : Nat) (acc : Match) (p : Point) :
    a.throughBalance x unclosed outer acc p = b.throughBalance y unclosed outer acc p := by
  fun_induction Matcher.throughBalance a x unclosed outer acc p with
  | case1 acc p m hc => rw [Matcher.throughBalance, (h p m).mp hc]
  | case2 acc p m hc outer ih =>
    refine ih.trans (Eq.symm ?_)
    rw [Matcher.throughBalance, (h p m).mp hc]
  | case3 outer acc p e hc m ho ih =>
    obtain ⟨_, hc'⟩ := h.error hc
    refine ih.trans (Eq.symm ?_)
    rw [Matcher.throughBalance, hc', (hx.nonempty p m).mp ho]
  | case4 outer acc p e hc e' ho atEnd =>
    obtain ⟨_, hc'⟩ := h.error hc
    obtain ⟨_, ho'⟩ := hx.nonempty.error ho
    rw [Matcher.throughBalance, hc', ho']
    simp only [atEnd, ↓reduceIte]
  | case5 outer acc p e hc e' ho more ih =>
    obtain ⟨_, hc'⟩ := h.error hc
    obtain ⟨_, ho'⟩ := hx.nonempty.error ho
    refine ih.trans (Eq.symm ?_)
    rw [Matcher.throughBalance, hc', ho']
    simp only [more, Bool.false_eq_true, ↓reduceIte]

theorem SameMatches.range {a : Matcher γ} {b : Matcher δ} (h : a.SameMatches b)
    (opener : Matcher ε) (unclosed : ε) : opener.range a unclosed = opener.range b unclosed := by
  ext p : 2
  simp only [Matcher.range, h.throughCloser]

theorem SameMatches.escapedRange {a x : Matcher γ} {b y : Matcher δ} (h : a.SameMatches b)
    (hx : x.SameMatches y) (opener : Matcher ε) (unclosed : ε) :
    opener.escapedRange a x unclosed = opener.escapedRange b y unclosed := by
  ext p : 2
  simp only [Matcher.escapedRange, h.throughUnescaped hx]

theorem SameMatches.nestedRange {a x : Matcher γ} {b y : Matcher δ} (h : a.SameMatches b)
    (hx : x.SameMatches y) (opener : Matcher ε) (unclosed : ε) :
    opener.nestedRange a x unclosed = opener.nestedRange b y unclosed := by
  ext p : 2
  simp only [Matcher.nestedRange, h.throughBalance hx]

theorem SameMatches.hitAtOffset {a : Matcher δ} {b : Matcher ε} (h : a.SameMatches b)
    (text : List Char) : a.hitAtOffset text = b.hitAtOffset text := by
  funext offset
  apply Option.ext
  intro hit
  simp only [hitAtOffset_eq_some_iff, h _ _]

theorem SameMatches.firstHit {a : Matcher δ} {b : Matcher ε} (h : a.SameMatches b)
    (text : List Char) (start : Nat) : a.firstHit text start = b.firstHit text start := by
  simp only [Matcher.firstHit, h.hitAtOffset text]

theorem SameMatches.lastHit {a : Matcher δ} {b : Matcher ε} (h : a.SameMatches b)
    (text : List Char) (start : Nat) : a.lastHit text start = b.lastHit text start := by
  simp only [Matcher.lastHit, h.hitAtOffset text]

theorem SameMatches.hitsFrom {a : Matcher δ} {b : Matcher ε} (h : a.SameMatches b)
    (text : List Char) (start : Nat) : a.hitsFrom text start = b.hitsFrom text start := by
  fun_induction Matcher.hitsFrom a text start with
  | case1 start absent =>
    rw [hitsFrom_of_none ((h.firstHit text start).symm.trans absent)]
  | case2 start hit present ih =>
    rw [hitsFrom_of_some ((h.firstHit text start).symm.trans present)]
    exact congrArg (hit :: ·) ih

end TextPattern.Matcher
