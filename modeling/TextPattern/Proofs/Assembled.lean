import TextPattern.Pattern.Matching
import TextPattern.Proofs.MatcherRun

namespace TextPattern

/-- The ways to make a match at a place: some characters of which nothing is recorded, two matches in
a row, and a match that is recorded after what it records itself. -/
inductive Match.Assembled : Point → Match → Prop
  | plain {p n} : n ≤ p.rest.length → Assembled p ⟨n, []⟩
  | append {p m n} : Assembled p m → Assembled (p.advance m.length) n → Assembled p (m ++ n)
  | record {p m} (name : String) : Assembled p m →
      Assembled p (m.record ⟨name, p.offset, p.rest.take m.length⟩)

namespace Match.Assembled

variable {p : Point} {m : Match}

theorem fits (h : Assembled p m) : m.length ≤ p.rest.length := by
  induction h with
  | plain enough => exact enough
  | append _ _ first second =>
    simp only [Point.rest_advance, List.length_drop] at second
    simp only [Match.length_append]
    omega
  | record _ _ ih => exact ih

theorem empty (p : Point) : Assembled p .empty :=
  plain (Nat.zero_le _)

theorem skip (h : Assembled p m) (more : m.length < p.rest.length) : Assembled p m.skip := by
  have one : Assembled (p.advance m.length) Match.empty.skip := by
    apply plain
    simp only [Point.rest_advance, List.length_drop, Match.length_empty]
    omega
  have both := append h one
  rwa [Match.append_skip, Match.append_empty] at both

end Match.Assembled

/-- A loop that began at `start` has assembled `acc` and stands at `p`, where that ends. -/
structure Match.Reaches (start : Point) (acc : Match) (p : Point) : Prop where
  assembled : Match.Assembled start acc
  here : p = start.advance acc.length

namespace Matcher

variable {δ ε : Type}

/-- Whatever is matched is assembled, however much was attempted in vain on the way. -/
def Assembles (a : Matcher ε) : Prop :=
  ∀ p m, a.run p = .ok m → Match.Assembled p m

theorem block_assembles (width : Nat) (accepts : List Char → Bool) (short refused : ε) :
    (block width accepts short refused).Assembles := by
  intro p m h
  obtain ⟨enough, _, rfl⟩ := run_block_ok_iff.mp h
  exact .plain enough

theorem char_assembles (accepts : Char → Bool) (short refused : ε) :
    (char accepts short refused).Assembles := by
  intro p m h
  obtain ⟨c, rest, hr, _, rfl⟩ := run_char_ok_iff.mp h
  apply Match.Assembled.plain
  simp [hr]

theorem anythingBut_assembles (a : Matcher δ) (short found : ε) :
    (a.anythingBut short found).Assembles := by
  intro p m h
  obtain ⟨_, more, rfl⟩ := run_anythingBut_ok_iff.mp h
  exact .plain (List.length_pos_iff.mpr more)

theorem Assembles.andThen {a b : Matcher ε} (ha : a.Assembles) (hb : b.Assembles) :
    (a.andThen b).Assembles := by
  intro p m h
  obtain ⟨k, n, hk, hn, rfl⟩ := run_andThen_ok_iff.mp h
  exact .append (ha p k hk) (hb _ n hn)

theorem Assembles.orElse {a : Matcher δ} {b : Matcher ε} (ha : a.Assembles) (hb : b.Assembles) :
    (a.orElse b).Assembles := by
  intro p m h
  rcases run_orElse_ok h with h | h
  · exact ha p m h
  · exact hb p m h

theorem Assembles.optional {a : Matcher δ} (ha : a.Assembles) :
    (a.optional : Matcher ε).Assembles := by
  intro p m h
  cases hr : a.run p with
  | ok n =>
    have same : n = m := by simpa [Matcher.optional, hr] using h
    exact ha p m (same ▸ hr)
  | error e =>
    have same : Match.empty = m := by simpa [Matcher.optional, hr] using h
    exact same ▸ .empty p

theorem Assembles.probe {a : Matcher δ} (ha : a.Assembles) (test : List Char → Bool) :
    (a.probe test).Assembles :=
  fun p m h => ha p m (run_probe_ok_iff.mp h).2

theorem Assembles.nonempty {a : Matcher δ} (ha : a.Assembles) : a.nonempty.Assembles :=
  fun p m h => ha p m (run_nonempty_ok_iff.mp h).1

theorem Assembles.captured {a : Matcher ε} (ha : a.Assembles) (name : String) :
    (a.captured name).Assembles := by
  intro p m h
  obtain ⟨n, hn, rfl⟩ := run_captured_ok_iff.mp h
  exact .record name (ha p n hn)

theorem Assembles.times {a : Matcher ε} (ha : a.Assembles) (count : Nat) :
    (times count a).Assembles := by
  induction count with
  | zero =>
    intro p m h
    cases h
    exact .empty p
  | succ count ih =>
    rw [times_succ]
    exact ha.andThen ih

section Loops

variable {a closer escape opener : Matcher δ} {unclosed : ε} {start p : Point} {acc m : Match}

theorem Assembles.ends (ha : a.Assembles) (h : Match.Reaches start acc p) (hm : a.run p = .ok m) :
    Match.Assembled start (acc ++ m) := by
  obtain ⟨hacc, rfl⟩ := h
  exact .append hacc (ha _ m hm)

theorem Assembles.reaches (ha : a.Assembles) (h : Match.Reaches start acc p)
    (hm : a.run p = .ok m) : Match.Reaches start (acc ++ m) (p.advance m.length) := by
  refine ⟨ha.ends h hm, ?_⟩
  rw [h.here, Point.advance_advance]
  rfl

theorem reaches_skip (h : Match.Reaches start acc p) (more : p.atEnd = false) :
    Match.Reaches start acc.skip (p.advance 1) := by
  obtain ⟨hacc, rfl⟩ := h
  have ahead : (start.advance acc.length).rest.length ≠ 0 := by
    intro none
    rw [Point.atEnd_iff.mpr none] at more
    cases more
  refine ⟨hacc.skip ?_, Point.advance_advance _ _ _⟩
  simp only [Point.rest_advance, List.length_drop] at ahead
  omega

theorem Assembles.spanFrom (ha : a.Assembles) (h : Match.Reaches start acc p) :
    Match.Assembled start (a.spanFrom acc p) := by
  fun_induction Matcher.spanFrom a acc p with
  | case1 => exact h.assembled
  | case2 acc p m hm zero => exact ha.ends h hm
  | case3 acc p m hm pos ih => exact ih (ha.reaches h hm)

theorem Assembles.throughCloser {offset : Nat} {rest : List Char} (hc : closer.Assembles)
    (h : Match.Reaches start acc ⟨offset, rest⟩)
    (hm : closer.throughCloser unclosed acc offset rest = .ok m) : Match.Assembled start m := by
  induction rest generalizing acc offset with
  | nil =>
    simp only [Matcher.throughCloser] at hm
    split at hm
    next n hn =>
      cases hm
      exact hc.ends h hn
    next => cases hm
  | cons c rest ih =>
    simp only [Matcher.throughCloser] at hm
    split at hm
    next n hn =>
      cases hm
      exact hc.ends h hn
    next => exact ih (reaches_skip h rfl) hm

theorem Assembles.throughUnescaped (hc : closer.Assembles) (he : escape.Assembles)
    (h : Match.Reaches start acc p)
    (hm : closer.throughUnescaped escape unclosed acc p = .ok m) : Match.Assembled start m := by
  fun_induction Matcher.throughUnescaped closer escape unclosed acc p with
  | case1 => cases hm
  | case2 acc p n hn more ih =>
    have past := reaches_skip (he.reaches h hn) (by simpa using more)
    rw [Point.advance_advance] at past
    exact ih past hm
  | case3 acc p e _ n hn =>
    cases hm
    exact hc.ends h hn
  | case4 => cases hm
  | case5 acc p e _ e' _ more ih => exact ih (reaches_skip h (by simpa using more)) hm

theorem Assembles.throughBalance {outer : Nat} (hc : closer.Assembles) (ho : opener.Assembles)
    (h : Match.Reaches start acc p)
    (hm : closer.throughBalance opener unclosed outer acc p = .ok m) :
    Match.Assembled start m := by
  fun_induction Matcher.throughBalance closer opener unclosed outer acc p with
  | case1 acc p n hn =>
    cases hm
    exact hc.ends h hn
  | case2 acc p n hn outer ih => exact ih (hc.reaches h hn) hm
  | case3 outer acc p e _ n hn ih => exact ih (ho.nonempty.reaches h hn) hm
  | case4 => cases hm
  | case5 outer acc p e _ e' _ more ih => exact ih (reaches_skip h (by simpa using more)) hm

end Loops

theorem Assembles.span {a : Matcher δ} (ha : a.Assembles) : (a.span : Matcher ε).Assembles := by
  intro p m h
  cases h
  exact ha.spanFrom ⟨.empty p, rfl⟩

theorem Assembles.opened {a : Matcher ε} (ha : a.Assembles) {p : Point} {m : Match}
    (h : a.run p = .ok m) : Match.Reaches p m (p.advance m.length) :=
  ⟨ha p m h, rfl⟩

theorem Assembles.range {opener : Matcher ε} {closer : Matcher δ} (ho : opener.Assembles)
    (hc : closer.Assembles) (unclosed : ε) : (opener.range closer unclosed).Assembles := by
  intro p m h
  obtain ⟨k, hk, h⟩ := run_range_ok h
  exact hc.throughCloser (ho.opened hk) h

theorem Assembles.escapedRange {opener : Matcher ε} {closer escape : Matcher δ}
    (ho : opener.Assembles) (hc : closer.Assembles) (he : escape.Assembles) (unclosed : ε) :
    (opener.escapedRange closer escape unclosed).Assembles := by
  intro p m h
  obtain ⟨k, hk, h⟩ := run_escapedRange_ok h
  exact hc.throughUnescaped he (ho.opened hk) h

theorem Assembles.nestedRange {opener : Matcher ε} {closer again : Matcher δ}
    (ho : opener.Assembles) (hc : closer.Assembles) (hr : again.Assembles) (unclosed : ε) :
    (opener.nestedRange closer again unclosed).Assembles := by
  intro p m h
  obtain ⟨k, hk, h⟩ := run_nestedRange_ok h
  exact hc.throughBalance hr (ho.opened hk) h

theorem Assembles.inMode {a : Matcher (MatchError Pattern)} (ha : a.Assembles) (p : Pattern)
    (mode : Mode) : (a.inMode p mode).Assembles := by
  cases mode with
  | consume => exact ha
  | neglect => exact anythingBut_assembles a _ _

end Matcher

theorem Pattern.matcher_assembles (p : Pattern) (mode : Mode) : (p.matcher mode).Assembles := by
  induction p generalizing mode with
  | literal l => cases mode <;> exact Matcher.block_assembles _ _ _ _
  | test t => cases mode <;> exact Matcher.char_assembles _ _ _
  | seq left right ihl ihr => exact ((ihl .consume).andThen (ihr .consume)).inMode _ mode
  | alt left right ihl ihr =>
    have first := (ihl .consume).probe (left.header .consume)
    exact (first.orElse (ihr .consume)).inMode _ mode
  | optional inner ih => exact (ih .consume).optional.inMode _ mode
  | span inner ih => exact (ih .consume).span.inMode _ mode
  | repeated inner count ih => exact ((ih .consume).times count.toNat).inMode _ mode
  | negation inner ih => exact ih mode.flip
  | range opener closer iho ihc =>
    have closing := (ihc .consume).probe (closer.header .consume)
    exact ((iho .consume).range closing _).inMode _ mode
  | escapedRange opener closer escape iho ihc ihe =>
    have closing := (ihc .consume).probe (closer.header .consume)
    have escaping := (ihe .consume).probe (escape.header .consume)
    exact ((iho .consume).escapedRange closing escaping _).inMode _ mode
  | nestedRange opener closer iho ihc =>
    have closing := (ihc .consume).probe (closer.header .consume)
    have opening := (iho .consume).probe (opener.header .consume)
    exact ((iho .consume).nestedRange closing opening _).inMode _ mode
  | capture inner name ih => exact (ih mode).captured name

end TextPattern
