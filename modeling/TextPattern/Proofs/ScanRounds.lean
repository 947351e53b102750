import TextPattern.Proofs.Iterations
import TextPattern.Proofs.LeftmostCloser
import TextPattern.Proofs.LoopRounds

namespace TextPattern

namespace Cursor

variable {c d : Cursor} {p : Pattern} {mode : Mode} {m : Match}

theorem run_eq_ok_iff : c.run p mode = (.ok m, d) ↔
    (p.matcher mode).run c.point = .ok m ∧ d = c.advance m.length := by
  constructor
  · intro h
    have here : p.run mode c.point = .ok m := by rw [← run_fst, h]
    rw [run_ok_eq here] at h
    exact ⟨here, (Prod.mk.inj h).2.symm⟩
  · rintro ⟨here, rfl⟩
    exact run_ok_eq here

/-- A pattern cannot be consumed here. -/
def Refuses (c : Cursor) (p : Pattern) : Prop :=
  ∃ e, c.run p .consume = (.error e, c)

theorem refuses_iff : c.Refuses p ↔ ∃ e, (p.matcher .consume).run c.point = .error e := by
  constructor
  · rintro ⟨e, h⟩
    exact ⟨e, by rw [← Pattern.run, ← run_fst, h]⟩
  · rintro ⟨e, h⟩
    exact ⟨e, run_error h⟩

theorem refuses_or_consumes (c : Cursor) (p : Pattern) :
    c.Refuses p ∨ ∃ m d, c.run p .consume = (.ok m, d) := by
  cases h : (p.matcher .consume).run c.point with
  | error e => exact .inl (refuses_iff.mpr ⟨e, h⟩)
  | ok m => exact .inr ⟨m, _, run_eq_ok_iff.mpr ⟨h, rfl⟩⟩

end Cursor

/-- What counts in a range besides its closer. -/
inductive RangeKind
  | plain
  | escaped (escape : Pattern)
  | nested

/-- A pattern that is a range. -/
structure RangePattern where
  opener : Pattern
  closer : Pattern
  kind : RangeKind

/-- Where the scan of a range has come to, and how many closers are still to come. -/
structure Scan where
  depth : Nat
  place : Cursor

/-- One closer is still to come or more, but with what is left of the text no more than `bound`. -/
structure Scan.Within (bound : Nat) (s : Scan) : Prop where
  depth_pos : 0 < s.depth
  paid : s.place.remaining + s.depth ≤ bound

namespace RangePattern

def pattern (r : RangePattern) : Pattern :=
  match r.kind with
  | .plain => .range r.opener r.closer
  | .escaped escape => .escapedRange r.opener r.closer escape
  | .nested => .nestedRange r.opener r.closer

/-- Nothing that counts in the range can be consumed here; an opener that takes nothing does not
count. -/
def Idle (r : RangePattern) (c : Cursor) : Prop :=
  c.Refuses r.closer ∧
    match r.kind with
    | .plain => True
    | .escaped escape => c.Refuses escape
    | .nested => ∀ m d, c.run r.opener .consume = (.ok m, d) → m.length = 0

/-- One round of the scan of a range after which the scan goes on. -/
inductive Round (r : RangePattern) : Scan → Scan → Prop
  | onward {depth c} : r.Idle c → c.atEnd = false → Round r ⟨depth, c⟩ ⟨depth, c.advance 1⟩
  | escaped {depth c escape m d} : r.kind = .escaped escape → c.run escape .consume = (.ok m, d) →
      d.atEnd = false → Round r ⟨depth, c⟩ ⟨depth, d.advance 1⟩
  | closed {depth c m d} : r.kind = .nested → c.run r.closer .consume = (.ok m, d) → depth ≠ 1 →
      Round r ⟨depth, c⟩ ⟨depth - 1, d⟩
  | opened {depth c m d} : r.kind = .nested → c.Refuses r.closer →
      c.run r.opener .consume = (.ok m, d) → 0 < m.length → Round r ⟨depth, c⟩ ⟨depth + 1, d⟩

/-- The round in which the scan comes to the end of the text and lacks a closer. -/
inductive RunsOut (r : RangePattern) : Scan → Prop
  | ended {depth c} : r.Idle c → c.atEnd = true → RunsOut r ⟨depth, c⟩
  | cutOff {depth c escape m d} : r.kind = .escaped escape → c.run escape .consume = (.ok m, d) →
      d.atEnd = true → RunsOut r ⟨depth, c⟩

/-- The round in which the scan takes the closer that it ends with. -/
inductive Closes (r : RangePattern) : Scan → Cursor → Prop
  | closed {depth c m d} : (∀ escape, r.kind = .escaped escape → c.Refuses escape) →
      c.run r.closer .consume = (.ok m, d) → (r.kind = .nested → depth = 1) →
      Closes r ⟨depth, c⟩ d

/-- The scan of a range as a loop. It comes to where its closer ends, or to nothing where the text
ends before. -/
def rounds (r : RangePattern) : Rounds Scan (Option Cursor) where
  again := r.Round
  last s
    | some d => r.Closes s d
    | none => r.RunsOut s

/-- The opener is consumed, and from there on one round follows the other to the end of the text. -/
def Unclosed (r : RangePattern) (c : Cursor) : Prop :=
  ∃ m d s, c.run r.opener .consume = (.ok m, d) ∧ Relation.ReflTransGen r.Round ⟨1, d⟩ s ∧
    r.RunsOut s

/-- What the scan comes to that has taken `acc` so far. -/
def scan (r : RangePattern) (acc : Match) (s : Scan) : Except (MatchError Pattern) Match :=
  let closer := r.closer.matcher .consume
  match r.kind with
  | .plain =>
    closer.throughCloser (.endOfSource r.closer) acc s.place.point.offset s.place.point.rest
  | .escaped escape =>
    closer.throughUnescaped (escape.matcher .consume) (.endOfSource r.closer) acc s.place.point
  | .nested =>
    closer.throughBalance (r.opener.matcher .consume) (.endOfSource r.closer) (s.depth - 1) acc
      s.place.point

variable {r : RangePattern} {s t : Scan} {c : Cursor} {e : MatchError Pattern}

/-- A range is its opener and then a scan for one closer. The headers of its parts decide nothing. -/
theorem run_pattern (r : RangePattern) (c : Cursor) : r.pattern.run .consume c.point =
    match r.opener.run .consume c.point with
    | .error e => .error e
    | .ok m => r.scan m ⟨1, c.advance m.length⟩ := by
  obtain ⟨opener, closer, kind⟩ := r
  have inner {m : Match} (h : (opener.matcher .consume).run c.point = .ok m) :
      (c.advance m.length).point = c.point.advance m.length :=
    Cursor.point_advance ((opener.matcher .consume).fits h)
  cases kind with
  | plain =>
    have exhaustive : (Pattern.range opener closer).matcher .consume =
        (opener.matcher .consume).range (closer.matcher .consume) (.endOfSource closer) :=
      closer.attempt_sameMatches.range _ _
    simp only [pattern, Pattern.run, exhaustive, Matcher.range, scan]
    cases opened : (opener.matcher .consume).run c.point with
    | error e => rfl
    | ok m => simp only [inner opened, Point.offset_advance, Point.rest_advance]
  | escaped escape =>
    have exhaustive : (Pattern.escapedRange opener closer escape).matcher .consume =
        (opener.matcher .consume).escapedRange (closer.matcher .consume)
          (escape.matcher .consume) (.endOfSource closer) :=
      closer.attempt_sameMatches.escapedRange escape.attempt_sameMatches _ _
    simp only [pattern, Pattern.run, exhaustive, Matcher.escapedRange, scan]
    cases opened : (opener.matcher .consume).run c.point with
    | error e => rfl
    | ok m => simp only [inner opened]
  | nested =>
    have exhaustive : (Pattern.nestedRange opener closer).matcher .consume =
        (opener.matcher .consume).nestedRange (closer.matcher .consume)
          (opener.matcher .consume) (.endOfSource closer) :=
      closer.attempt_sameMatches.nestedRange opener.attempt_sameMatches _ _
    simp only [pattern, Pattern.run, exhaustive, Matcher.nestedRange, scan]
    cases opened : (opener.matcher .consume).run c.point with
    | error e => rfl
    | ok m => simp only [inner opened, Nat.sub_self]

/-- Where nothing counts a character is passed over, if there is one. -/
theorem Idle.scan_eq (idle : r.Idle s.place) (acc : Match) : r.scan acc s =
    if s.place.atEnd then .error (.endOfSource r.closer)
    else r.scan acc.skip ⟨s.depth, s.place.advance 1⟩ := by
  obtain ⟨opener, closer, kind⟩ := r
  obtain ⟨depth, c⟩ := s
  obtain ⟨unclosed, rest⟩ := idle
  obtain ⟨e, hc⟩ := Cursor.refuses_iff.mp unclosed
  have onward (more : c.point.atEnd = false) : (c.advance 1).point = c.point.advance 1 := by
    rw [← Cursor.atEnd_eq] at more
    exact Cursor.point_advance (Move.room_of_more more)
  simp only at hc rest
  cases kind with
  | plain =>
    simp only [scan]
    rw [Matcher.throughCloser_eq, hc, Cursor.atEnd_eq]
    cases ended : c.point.atEnd with
    | true => rfl
    | false => simp only [Bool.false_eq_true, ↓reduceIte, onward ended]
  | escaped escape =>
    obtain ⟨e', he⟩ := Cursor.refuses_iff.mp rest
    simp only [scan]
    rw [Matcher.throughUnescaped, he, hc, Cursor.atEnd_eq]
    cases ended : c.point.atEnd with
    | true => rfl
    | false => simp only [Bool.false_eq_true, ↓reduceIte, onward ended]
  | nested =>
    have unopened : ∃ e', (opener.matcher .consume).nonempty.run c.point = .error e' := by
      cases opened : (opener.matcher .consume).nonempty.run c.point with
      | error e' => exact ⟨e', rfl⟩
      | ok m =>
        obtain ⟨ho, pos⟩ := Matcher.run_nonempty_ok_iff.mp opened
        exact absurd (rest m _ (Cursor.run_eq_ok_iff.mpr ⟨ho, rfl⟩)) (Nat.ne_of_gt pos)
    obtain ⟨e', ho⟩ := unopened
    simp only [scan]
    rw [Matcher.throughBalance, hc, ho, Cursor.atEnd_eq]
    cases ended : c.point.atEnd with
    | true => rfl
    | false => simp only [Bool.false_eq_true, ↓reduceIte, onward ended]

/-- A round takes a step forward and leaves the rest of the scan to be done. -/
theorem Round.scan_eq (h : r.Round s t) (pos : 0 < s.depth) :
    ∃ step, t.place = s.place.advance step.length ∧
      ∀ acc, r.scan acc s = r.scan (acc ++ step) t := by
  cases h with
  | @onward depth c idle more =>
    refine ⟨⟨1, []⟩, rfl, fun acc => ?_⟩
    rw [idle.scan_eq (s := ⟨depth, c⟩), Matcher.append_one]
    simp only [more, Bool.false_eq_true, ↓reduceIte]
  | @escaped depth c escape m d kind consumed more =>
    obtain ⟨he, rfl⟩ := Cursor.run_eq_ok_iff.mp consumed
    have there := Cursor.point_advance ((escape.matcher .consume).fits he)
    have room := Move.room_of_more more
    rw [there, Point.rest_advance, List.length_drop] at room
    rw [Cursor.atEnd_eq, there] at more
    refine ⟨m.skip, Cursor.advance_advance c m.length 1, fun acc => ?_⟩
    simp only [scan, kind]
    rw [Matcher.throughUnescaped, he, Cursor.advance_advance, Cursor.point_advance (by omega),
      Match.append_skip]
    simp only [more, Bool.false_eq_true, ↓reduceIte]
  | @closed depth c m d kind consumed inner =>
    obtain ⟨hc, rfl⟩ := Cursor.run_eq_ok_iff.mp consumed
    have there := Cursor.point_advance ((r.closer.matcher .consume).fits hc)
    obtain ⟨outer, rfl⟩ : ∃ outer, depth = outer + 2 := ⟨depth - 2, by simp only at pos; omega⟩
    refine ⟨m, rfl, fun acc => ?_⟩
    simp only [scan, kind]
    rw [Matcher.throughBalance, hc, there]
    rfl
  | @opened depth c m d kind unclosed consumed moved =>
    obtain ⟨e, hc⟩ := Cursor.refuses_iff.mp unclosed
    obtain ⟨ho, rfl⟩ := Cursor.run_eq_ok_iff.mp consumed
    have there := Cursor.point_advance ((r.opener.matcher .consume).fits ho)
    have again := Matcher.run_nonempty_ok_iff.mpr ⟨ho, moved⟩
    obtain ⟨outer, rfl⟩ : ∃ outer, depth = outer + 1 := ⟨depth - 1, by simp only at pos; omega⟩
    refine ⟨m, rfl, fun acc => ?_⟩
    simp only [scan, kind]
    rw [Matcher.throughBalance, hc, again, there]
    rfl

theorem RunsOut.scan_eq (h : r.RunsOut s) (acc : Match) :
    r.scan acc s = .error (.endOfSource r.closer) := by
  cases h with
  | @ended depth c idle ended =>
    rw [idle.scan_eq (s := ⟨depth, c⟩)]
    simp only [ended, ↓reduceIte]
  | @cutOff depth c escape m d kind consumed ended =>
    obtain ⟨he, rfl⟩ := Cursor.run_eq_ok_iff.mp consumed
    rw [Cursor.atEnd_eq, Cursor.point_advance ((escape.matcher .consume).fits he)] at ended
    simp only [scan, kind]
    rw [Matcher.throughUnescaped, he]
    simp only [ended, ↓reduceIte]

theorem Closes.scan_eq {d : Cursor} (h : r.Closes s d) :
    ∃ m, d = s.place.advance m.length ∧ ∀ acc, r.scan acc s = .ok (acc ++ m) := by
  cases h with
  | @closed depth c m d unescaped consumed outermost =>
    obtain ⟨hc, rfl⟩ := Cursor.run_eq_ok_iff.mp consumed
    refine ⟨m, rfl, fun acc => ?_⟩
    cases kind : r.kind with
    | plain =>
      simp only [scan, kind]
      rw [Matcher.throughCloser_eq, hc]
    | escaped escape =>
      obtain ⟨e, he⟩ := Cursor.refuses_iff.mp (unescaped escape kind)
      simp only [scan, kind]
      rw [Matcher.throughUnescaped, he, hc]
    | nested =>
      simp only [scan, kind, outermost kind, Nat.sub_self]
      rw [Matcher.throughBalance, hc]

/-- A closer ends the scan, or it closes an inner range. -/
theorem closes_or_round {m : Match} {d : Cursor}
    (unescaped : ∀ escape, r.kind = .escaped escape → s.place.Refuses escape)
    (consumed : s.place.run r.closer .consume = (.ok m, d)) :
    r.Closes s d ∨ ∃ t, r.Round s t := by
  by_cases inner : r.kind = .nested ∧ s.depth ≠ 1
  · exact .inr ⟨_, .closed inner.1 consumed inner.2⟩
  · refine .inl (.closed unescaped consumed fun kind => ?_)
    exact Decidable.of_not_not fun deeper => inner ⟨kind, deeper⟩

theorem Idle.runsOut_or_round (idle : r.Idle s.place) : r.RunsOut s ∨ ∃ t, r.Round s t := by
  cases ended : s.place.atEnd with
  | true => exact .inl (.ended idle ended)
  | false => exact .inr ⟨_, .onward idle ended⟩

/-- A scan is closed, comes to the end of the text or goes on. -/
theorem closes_or_runsOut_or_round (r : RangePattern) (s : Scan) :
    (∃ d, r.Closes s d) ∨ r.RunsOut s ∨ ∃ t, r.Round s t := by
  have closing {m d} (unescaped : ∀ escape, r.kind = .escaped escape → s.place.Refuses escape)
      (consumed : s.place.run r.closer .consume = (.ok m, d)) :
      (∃ d, r.Closes s d) ∨ r.RunsOut s ∨ ∃ t, r.Round s t :=
    (closes_or_round unescaped consumed).imp (⟨d, ·⟩) .inr
  cases kind : r.kind with
  | plain =>
    rcases s.place.refuses_or_consumes r.closer with unclosed | ⟨m, d, consumed⟩
    · exact .inr (Idle.runsOut_or_round ⟨unclosed, by rw [kind]; trivial⟩)
    · exact closing (by simp [kind]) consumed
  | escaped escape =>
    rcases s.place.refuses_or_consumes escape with unescaped | ⟨m, d, consumed⟩
    · rcases s.place.refuses_or_consumes r.closer with unclosed | ⟨m, d, consumed⟩
      · exact .inr (Idle.runsOut_or_round ⟨unclosed, by rw [kind]; exact unescaped⟩)
      · exact closing (by simpa [kind] using unescaped) consumed
    · cases ended : d.atEnd with
      | true => exact .inr (.inl (.cutOff kind consumed ended))
      | false => exact .inr (.inr ⟨_, .escaped kind consumed ended⟩)
  | nested =>
    rcases s.place.refuses_or_consumes r.closer with unclosed | ⟨m, d, consumed⟩
    · by_cases opened : ∃ m d, s.place.run r.opener .consume = (.ok m, d) ∧ 0 < m.length
      · obtain ⟨m, d, consumed, moved⟩ := opened
        exact .inr (.inr ⟨_, .opened kind unclosed consumed moved⟩)
      · have still m d (consumed : s.place.run r.opener .consume = (.ok m, d)) : m.length = 0 :=
          Nat.eq_zero_of_not_pos fun moved => opened ⟨m, d, consumed, moved⟩
        exact .inr (Idle.runsOut_or_round ⟨unclosed, by rw [kind]; exact still⟩)
    · exact closing (by simp [kind]) consumed

/-- A closer may take nothing, but then fewer closers are to come; any other round takes something,
and adds one closer at most. -/
theorem Round.progress (h : r.Round s t) (pos : 0 < s.depth) : 0 < t.depth ∧
    (t.depth + 1 = s.depth ∧ t.place.remaining ≤ s.place.remaining ∨
      t.depth ≤ s.depth + 1 ∧ t.place.remaining < s.place.remaining) := by
  cases h with
  | onward _ more =>
    have := Cursor.remaining_skip more
    simp only at pos ⊢
    omega
  | @escaped _ c _ m _ _ consumed more =>
    obtain ⟨-, rfl⟩ := Cursor.run_eq_ok_iff.mp consumed
    have := Cursor.remaining_skip more
    have := c.remaining_advance m.length
    simp only at pos ⊢
    omega
  | @closed _ c m _ _ consumed _ =>
    obtain ⟨-, rfl⟩ := Cursor.run_eq_ok_iff.mp consumed
    have := c.remaining_advance m.length
    simp only at pos ⊢
    omega
  | @opened _ c m _ _ _ consumed moved =>
    obtain ⟨ho, rfl⟩ := Cursor.run_eq_ok_iff.mp consumed
    have fits := (r.opener.matcher .consume).fits ho
    have := c.remaining_advance m.length
    rw [← Cursor.remaining_eq] at fits
    simp only
    omega

theorem rounds_variant (r : RangePattern) (bound : Nat) :
    r.rounds.Variant (Scan.Within bound) fun s => 2 * s.place.remaining + s.depth where
  goes {s} _ := by
    rcases r.closes_or_runsOut_or_round s with ⟨d, closes⟩ | ended | more
    · exact .inl ⟨some d, closes⟩
    · exact .inl ⟨none, ended⟩
    · exact .inr more
  keeps {s t} within round := by
    have progress := Round.progress round within.depth_pos
    have paid := within.paid
    exact ⟨progress.1, by omega⟩
  less {s t} within round := by
    have progress := Round.progress round within.depth_pos
    omega
  pos within := Nat.add_pos_right _ within.depth_pos

theorem scan_of_closes {d : Cursor} (pos : 0 < s.depth)
    (rounds : Relation.ReflTransGen r.Round s t) (closes : r.Closes t d) :
    ∃ m, d = s.place.advance m.length ∧ ∀ acc, r.scan acc s = .ok (acc ++ m) := by
  induction rounds using Relation.ReflTransGen.head_induction_on with
  | refl => exact closes.scan_eq
  | head round _ ih =>
    obtain ⟨step, there, same⟩ := round.scan_eq pos
    obtain ⟨m, stop, closed⟩ := ih (round.progress pos).1
    refine ⟨step ++ m, ?_, fun acc => ?_⟩
    · rw [stop, there, Cursor.advance_advance, Match.length_append]
    · rw [same, closed, Match.append_assoc]

theorem scan_of_runsOut (pos : 0 < s.depth) (rounds : Relation.ReflTransGen r.Round s t)
    (ended : r.RunsOut t) (acc : Match) : r.scan acc s = .error (.endOfSource r.closer) := by
  induction rounds using Relation.ReflTransGen.head_induction_on generalizing acc with
  | refl => exact ended.scan_eq acc
  | head round _ ih =>
    obtain ⟨step, -, same⟩ := round.scan_eq pos
    rw [same acc]
    exact ih (round.progress pos).1 (acc ++ step)

/-- Where a scan fails, its rounds lead to the end of the text. -/
theorem runsOut_of_scan {acc : Match} (pos : 0 < s.depth) (h : r.scan acc s = .error e) :
    e = .endOfSource r.closer ∧ ∃ t, Relation.ReflTransGen r.Round s t ∧ r.RunsOut t := by
  obtain ⟨entries, o, entered⟩ := (r.rounds_variant _).exists_entered s ⟨pos, Nat.le_refl _⟩
  obtain ⟨t, rounds, last⟩ := entered.exists_last
  cases o with
  | some d =>
    obtain ⟨m, -, closed⟩ := scan_of_closes pos rounds last
    rw [closed acc] at h
    cases h
  | none =>
    rw [scan_of_runsOut pos rounds last acc] at h
    cases h
    exact ⟨rfl, t, rounds, last⟩

/-- A range fails where its opener does, and else only if its scan comes to the end of the text. -/
theorem run_pattern_error_iff : r.pattern.run .consume c.point = .error e ↔
    r.opener.run .consume c.point = .error e ∨ e = .endOfSource r.closer ∧ r.Unclosed c := by
  rw [run_pattern]
  cases opened : r.opener.run .consume c.point with
  | error e' =>
    refine ⟨Or.inl, ?_⟩
    rintro (same | ⟨-, m, d, s, consumed, -⟩)
    · exact same
    · rw [Cursor.run_error opened] at consumed
      cases consumed
  | ok m =>
    have consumed : c.run r.opener .consume = (.ok m, c.advance m.length) :=
      Cursor.run_ok_eq opened
    constructor
    · intro h
      obtain ⟨cause, s, rounds, ended⟩ := runsOut_of_scan Nat.one_pos h
      exact .inr ⟨cause, m, _, s, consumed, rounds, ended⟩
    · rintro (same | ⟨rfl, k, d, s, consumed', rounds, ended⟩)
      · cases same
      · cases consumed.symm.trans consumed'
        exact scan_of_runsOut Nat.one_pos rounds ended m

/-- A range comes to what the rounds of its scan come to. -/
theorem run_pattern_of_entered {m : Match} {d : Cursor} {entries : List Scan} {o : Option Cursor}
    (consumed : c.run r.opener .consume = (.ok m, d)) (h : r.rounds.Entered ⟨1, d⟩ entries o) :
    (∀ e, o = some e → ∃ n, c.run r.pattern .consume = (.ok n, e)) ∧
      (o = none → c.run r.pattern .consume = (.error (.endOfSource r.closer), c)) := by
  obtain ⟨t, rounds, last⟩ := h.exists_last
  constructor
  · rintro e rfl
    obtain ⟨n, rfl, closed⟩ := scan_of_closes Nat.one_pos rounds last
    obtain ⟨opened, rfl⟩ := Cursor.run_eq_ok_iff.mp consumed
    have whole := r.run_pattern c
    rw [Pattern.run, Pattern.run, opened] at whole
    refine ⟨m ++ n, Cursor.run_eq_ok_iff.mpr ⟨whole.trans (closed m), ?_⟩⟩
    rw [Cursor.advance_advance, Match.length_append]
  · rintro rfl
    exact Cursor.run_error
      (run_pattern_error_iff.mpr (.inr ⟨rfl, m, d, t, consumed, rounds, last⟩))

end RangePattern

end TextPattern
