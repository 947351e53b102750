import TextPattern.Proofs.MatcherRun
import TextPattern.Proofs.Moves

namespace TextPattern

namespace Cursor

theorem seek_position {c d : Cursor} (text : d.text = c.text) : d.seek c.position = c := by
  have := c.position_le
  refine eq_of_position (show (d.seek c.position).text = c.text from text) ?_
  simp only [seek, place, text]
  omega

@[simp] theorem seek_self (c : Cursor) : c.seek c.position = c :=
  seek_position rfl

@[simp] theorem advance_seek (c : Cursor) (n : Nat) : (c.advance n).seek c.position = c :=
  seek_position rfl

theorem advance_advance (c : Cursor) (m n : Nat) : (c.advance m).advance n = c.advance (m + n) := by
  refine eq_of_position (c := (c.advance m).advance n) rfl ?_
  simp only [advance, seek, place]
  omega

@[simp] theorem advance_zero (c : Cursor) : c.advance 0 = c :=
  c.seek_self

theorem remaining_advance (c : Cursor) (n : Nat) :
    (c.advance n).remaining = c.remaining - n := by
  have := c.position_le
  simp only [remaining, advance, seek, place]
  omega

theorem remaining_eq (c : Cursor) : c.remaining = c.point.rest.length :=
  c.length_rest.symm

theorem atEnd_eq (c : Cursor) : c.atEnd = c.point.atEnd := by
  have := c.position_le
  rw [Bool.eq_iff_iff, Point.atEnd_iff, length_rest, atEnd, beq_iff_eq]
  omega

theorem remaining_pos {c : Cursor} (more : c.atEnd = false) : 0 < c.remaining := by
  rw [atEnd_eq, Point.atEnd, List.isEmpty_eq_false_iff] at more
  rw [remaining_eq]
  exact List.length_pos_iff.mpr more

theorem remaining_skip {c : Cursor} (more : c.atEnd = false) :
    (c.advance 1).remaining < c.remaining := by
  have := remaining_pos more
  rw [remaining_advance]
  omega

end Cursor

def Verdict.ofMatch (m : Match) : Verdict :=
  ⟨m.length, none, m.captures⟩

/-- The verdict and the cursor that a matcher accounts for. -/
inductive Matcher.Ends (a : Matcher (MatchError Pattern)) (c : Cursor) : Verdict → Cursor → Prop
  | ok {m} : a.run c.point = .ok m → Ends a c (.ofMatch m) (c.advance m.length)
  | error {e} : a.run c.point = .error e → Ends a c (.failure e) c

inductive Matcher.TrialEnds (a : Matcher Unit) (c : Cursor) : Option Verdict → Cursor → Prop
  | ok {m} : a.run c.point = .ok m → TrialEnds a c (some (.ofMatch m)) (c.advance m.length)
  | error {e} : a.run c.point = .error e → TrialEnds a c none c

/-- A move that can be made everywhere and always ends as the matcher says. -/
structure Move.Follows (a : Move) (x : Matcher (MatchError Pattern)) : Prop where
  sound : ∀ {c v d}, a c v d → x.Ends c v d
  total : ∀ c, ∃ v d, a c v d

structure Trial.Follows (a : Trial) (x : Matcher Unit) : Prop where
  sound : ∀ {c v d}, a c v d → x.TrialEnds c v d
  total : ∀ c, ∃ v d, a c v d

namespace Move.Follows

variable {a : Move} {x : Matcher (MatchError Pattern)} {c d : Cursor} {v : Verdict}

theorem failed (h : a.Follows x) (ha : a c v d) (hf : v.failed = true) :
    ∃ e, x.run c.point = .error e ∧ v = .failure e ∧ d = c := by
  cases h.sound ha with
  | ok hx => cases hf
  | error hx => exact ⟨_, hx, rfl, rfl⟩

theorem passed (h : a.Follows x) (ha : a c v d) (hf : v.failed = false) :
    ∃ m, x.run c.point = .ok m ∧ v = .ofMatch m ∧ d = c.advance m.length := by
  cases h.sound ha with
  | ok hx => exact ⟨_, hx, rfl, rfl⟩
  | error hx => cases hf

end Move.Follows

namespace Trial.Follows

variable {a : Trial} {x : Matcher Unit} {c d : Cursor} {v : Verdict}

theorem absent (h : a.Follows x) (ha : a c none d) : ∃ e, x.run c.point = .error e ∧ d = c := by
  cases h.sound ha with
  | error hx => exact ⟨_, hx, rfl⟩

theorem present (h : a.Follows x) (ha : a c (some v) d) :
    ∃ m, x.run c.point = .ok m ∧ v = .ofMatch m ∧ d = c.advance m.length := by
  cases h.sound ha with
  | ok hx => exact ⟨_, hx, rfl, rfl⟩

end Trial.Follows

namespace Move

variable {a b : Move} {x y : Matcher (MatchError Pattern)}

theorem block_follows (width : Nat) (accepts : List Char → Bool)
    (short refused : MatchError Pattern) :
    (Block width accepts short refused).Follows (.block width accepts short refused) where
  sound {c v d} h := by
    cases h with
    | short few =>
      rw [Cursor.remaining_eq] at few
      have less : ¬min width c.point.rest.length = width := by omega
      exact .error (by simp only [Matcher.block, List.length_take, less, ↓reduceIte])
    | taken enough ok =>
      rw [Cursor.remaining_eq] at enough
      exact .ok (Matcher.run_block_ok_iff.mpr ⟨enough, ok, rfl⟩)
    | refused enough no =>
      rw [Cursor.remaining_eq] at enough
      have all : min width c.point.rest.length = width := by omega
      exact .error (by
        simp only [Matcher.block, List.length_take, all, no, Bool.false_eq_true, ↓reduceIte])
  total c := by
    by_cases enough : width ≤ c.remaining
    · cases ok : accepts (c.point.rest.take width) with
      | true => exact ⟨_, _, .taken enough ok⟩
      | false => exact ⟨_, _, .refused enough ok⟩
    · exact ⟨_, _, .short (by omega)⟩

theorem single_follows (accepts : Char → Bool) (short refused : MatchError Pattern) :
    (Single accepts short refused).Follows (.char accepts short refused) where
  sound {c v d} h := by
    cases h with
    | short none =>
      have nil : c.point.rest = [] := List.head?_eq_none_iff.mp none
      exact .error (by simp only [Matcher.char, nil])
    | @taken _ ch next ok =>
      obtain ⟨rest, cons⟩ := List.head?_eq_some_iff.mp next
      exact .ok (Matcher.run_char_ok_iff.mpr ⟨ch, rest, cons, ok, rfl⟩)
    | refused next no =>
      obtain ⟨rest, cons⟩ := List.head?_eq_some_iff.mp next
      exact .error (by simp only [Matcher.char, cons, no, Bool.false_eq_true, ↓reduceIte])
  total c := by
    cases next : c.peek with
    | none => exact ⟨_, _, .short next⟩
    | some ch =>
      cases ok : accepts ch with
      | true => exact ⟨_, _, .taken next ok⟩
      | false => exact ⟨_, _, .refused next ok⟩

theorem sequence_follows (ha : a.Follows x) (hb : b.Follows y) :
    (Sequence a b).Follows (x.andThen y) where
  sound {c v d} h := by
    cases h with
    | first h hf =>
      obtain ⟨e, hx, rfl, rfl⟩ := ha.failed h hf
      rw [Cursor.seek_self]
      exact .error (by simp only [Matcher.andThen, hx])
    | second h hp h' hf =>
      obtain ⟨m, hx, rfl, rfl⟩ := ha.passed h hp
      obtain ⟨e, hy, rfl, rfl⟩ := hb.failed h' hf
      rw [Cursor.point_advance (x.fits hx)] at hy
      rw [Cursor.advance_seek]
      exact .error (by simp only [Matcher.andThen, hx, hy])
    | both h hp h' hp' =>
      obtain ⟨m, hx, rfl, rfl⟩ := ha.passed h hp
      obtain ⟨n, hy, rfl, rfl⟩ := hb.passed h' hp'
      rw [Cursor.point_advance (x.fits hx)] at hy
      rw [Cursor.advance_advance]
      exact .ok (Matcher.run_andThen_ok_iff.mpr ⟨m, n, hx, hy, rfl⟩)
  total c := by
    obtain ⟨v, d, h⟩ := ha.total c
    cases hv : v.failed with
    | true => exact ⟨_, _, .first h hv⟩
    | false =>
      obtain ⟨w, e, h'⟩ := hb.total d
      cases hw : w.failed with
      | true => exact ⟨_, _, .second h hv h' hw⟩
      | false => exact ⟨_, _, .both h hv h' hw⟩

theorem attempt_follows {header : Cursor → Bool} {test : List Char → Bool}
    (agree : ∀ c, header c = test c.point.rest) (ha : a.Follows x) :
    (Trial.Attempt header a).Follows (x.probe test) where
  sound {c v d} h := by
    cases h with
    | ruledOut off =>
      rw [agree] at off
      exact .error (e := ()) (by simp only [Matcher.probe, off, Bool.false_eq_true, ↓reduceIte])
    | matched on h hp =>
      obtain ⟨m, hx, rfl, rfl⟩ := ha.passed h hp
      rw [agree] at on
      exact .ok (Matcher.run_probe_ok_iff.mpr ⟨on, hx⟩)
    | undone on h hf =>
      obtain ⟨e, hx, rfl, rfl⟩ := ha.failed h hf
      rw [agree] at on
      rw [Cursor.seek_self]
      exact .error (e := ()) (by simp only [Matcher.probe, on, hx, ↓reduceIte])
  total c := by
    cases on : header c with
    | false => exact ⟨_, _, .ruledOut on⟩
    | true =>
      obtain ⟨v, d, h⟩ := ha.total c
      cases hv : v.failed with
      | true => exact ⟨_, _, .undone on h hv⟩
      | false => exact ⟨_, _, .matched on h hv⟩

theorem choice_follows {t : Trial} {z : Matcher Unit} (ht : t.Follows z) (hb : b.Follows y) :
    (Choice t b).Follows (z.orElse y) where
  sound {c v d} h := by
    cases h with
    | first h =>
      obtain ⟨m, hz, rfl, rfl⟩ := ht.present h
      exact .ok (by simp only [Matcher.orElse, hz])
    | second h h' hp =>
      obtain ⟨e, hz, rfl⟩ := ht.absent h
      obtain ⟨m, hy, rfl, rfl⟩ := hb.passed h' hp
      exact .ok (by simp only [Matcher.orElse, hz, hy])
    | neither h h' hf =>
      obtain ⟨e, hz, rfl⟩ := ht.absent h
      obtain ⟨e', hy, rfl, rfl⟩ := hb.failed h' hf
      rw [Cursor.seek_self]
      exact .error (by simp only [Matcher.orElse, hz, hy])
  total c := by
    obtain ⟨v, d, h⟩ := ht.total c
    cases v with
    | some v => exact ⟨_, _, .first h⟩
    | none =>
      obtain ⟨w, e, h'⟩ := hb.total d
      cases hw : w.failed with
      | true => exact ⟨_, _, .neither h h' hw⟩
      | false => exact ⟨_, _, .second h h' hw⟩

theorem optional_follows (ha : a.Follows x) : (Optional a).Follows x.optional where
  sound {c v d} h := by
    cases h with
    | present h hp =>
      obtain ⟨m, hx, rfl, rfl⟩ := ha.passed h hp
      exact .ok (by simp only [Matcher.optional, hx])
    | absent h hf =>
      obtain ⟨e, hx, _, same⟩ := ha.failed h hf
      have run : (x.optional : Matcher (MatchError Pattern)).run c.point = .ok .empty := by
        simp only [Matcher.optional, hx]
      have ends := Matcher.Ends.ok run
      rw [Match.length_empty, Cursor.advance_zero] at ends
      rw [same, Cursor.seek_self]
      exact ends
  total c := by
    obtain ⟨v, d, h⟩ := ha.total c
    cases hv : v.failed with
    | true => exact ⟨_, _, .absent h hv⟩
    | false => exact ⟨_, _, .present h hv⟩

theorem captured_follows (name : String) (ha : a.Follows x) :
    (Captured name a).Follows (x.captured name) where
  sound {c v d} h := by
    cases h with
    | recorded h hp =>
      obtain ⟨m, hx, rfl, rfl⟩ := ha.passed h hp
      exact .ok (Matcher.run_captured_ok_iff.mpr ⟨m, hx, rfl⟩)
    | failed h hf =>
      obtain ⟨e, hx, rfl, rfl⟩ := ha.failed h hf
      exact .error (by simp only [Matcher.captured, hx])
  total c := by
    obtain ⟨v, d, h⟩ := ha.total c
    cases hv : v.failed with
    | true => exact ⟨_, _, .failed h hv⟩
    | false => exact ⟨_, _, .recorded h hv⟩

theorem anythingBut_follows (short found : MatchError Pattern) (ha : a.Follows x) :
    (AnythingBut a short found).Follows (x.anythingBut short found) where
  sound {c v d} h := by
    cases h with
    | found h hp =>
      obtain ⟨m, hx, rfl, rfl⟩ := ha.passed h hp
      rw [Cursor.advance_seek]
      exact .error (by simp only [Matcher.anythingBut, hx])
    | short h hf ended =>
      obtain ⟨e, hx, rfl, rfl⟩ := ha.failed h hf
      rw [Cursor.seek_self, Cursor.atEnd_eq, Point.atEnd, List.isEmpty_iff] at ended
      rw [Cursor.seek_self]
      exact .error (by simp only [Matcher.anythingBut, hx, ended])
    | taken h hf more =>
      obtain ⟨e, hx, rfl, rfl⟩ := ha.failed h hf
      rw [Cursor.seek_self, Cursor.atEnd_eq, Point.atEnd, List.isEmpty_eq_false_iff] at more
      rw [Cursor.seek_self]
      exact .ok (Matcher.run_anythingBut_ok_iff.mpr ⟨⟨e, hx⟩, more, rfl⟩)
  total c := by
    obtain ⟨v, d, h⟩ := ha.total c
    cases hv : v.failed with
    | false => exact ⟨_, _, .found h hv⟩
    | true =>
      cases ended : (d.seek c.position).atEnd with
      | true => exact ⟨_, _, .short h hv ended⟩
      | false => exact ⟨_, _, .taken h hv ended⟩

theorem spanFrom_ends (ha : a.Follows x) {total v : Verdict} {c d : Cursor}
    (h : SpanFrom a total c v d) (acc : Match) (sofar : total = .ofMatch acc) :
    v = .ofMatch (acc ++ x.spanFrom .empty c.point) ∧
      d = c.advance (x.spanFrom .empty c.point).length := by
  induction h generalizing acc with
  | fails h hf =>
    obtain ⟨e, hx, _, rfl⟩ := ha.failed h hf
    rw [Matcher.spanFrom, hx]
    simp [sofar, Match.append_empty]
  | stays h hp zero =>
    obtain ⟨m, hx, rfl, rfl⟩ := ha.passed h hp
    have zero : m.length = 0 := zero
    rw [Matcher.spanFrom, hx]
    simp only [zero, ↓reduceIte, Match.empty_append, sofar]
    exact ⟨rfl, trivial⟩
  | onward h hp pos _ ih =>
    obtain ⟨m, hx, rfl, rfl⟩ := ha.passed h hp
    have pos : ¬m.length = 0 := Nat.ne_of_gt pos
    obtain ⟨hv, hd⟩ := ih (acc ++ m) (by rw [sofar]; rfl)
    rw [Cursor.point_advance (x.fits hx)] at hv hd
    rw [Matcher.spanFrom, hx]
    simp only [pos, ↓reduceIte, Match.empty_append]
    rw [Matcher.spanFrom_eq, ← Match.append_assoc, Match.length_append, ← Cursor.advance_advance]
    exact ⟨hv, hd⟩

theorem spanFrom_total (ha : a.Follows x) (total : Verdict) (c : Cursor) :
    ∃ v d, SpanFrom a total c v d := by
  obtain ⟨v, d, h⟩ := ha.total c
  cases hv : v.failed with
  | true => exact ⟨_, _, .fails h hv⟩
  | false =>
    obtain ⟨m, hx, rfl, rfl⟩ := ha.passed h hv
    rcases Nat.eq_zero_or_pos m.length with zero | pos
    · exact ⟨_, _, .stays h hv zero⟩
    · obtain ⟨w, e, h'⟩ := spanFrom_total ha (total.extend (.ofMatch m)) (c.advance m.length)
      exact ⟨_, _, .onward h hv pos h'⟩
termination_by c.remaining
decreasing_by
  have fits := x.fits hx
  rw [← Cursor.remaining_eq] at fits
  rw [Cursor.remaining_advance]
  omega

theorem span_follows (ha : a.Follows x) : Move.Follows (SpanFrom a (.success 0)) x.span where
  sound {c v d} h := by
    obtain ⟨rfl, rfl⟩ := spanFrom_ends ha h .empty rfl
    rw [Match.empty_append]
    exact .ok rfl
  total := spanFrom_total ha (.success 0)

theorem timesFrom_ends (ha : a.Follows x) {start count : Nat} {total v : Verdict} {c d : Cursor}
    (h : TimesFrom a start count total c v d) (acc : Match) (sofar : total = .ofMatch acc) :
    (∃ m, (Matcher.times count x).run c.point = .ok m ∧ v = .ofMatch (acc ++ m) ∧
      d = c.advance m.length) ∨
    (∃ e, (Matcher.times count x).run c.point = .error e ∧ v = .failure e ∧
      d = c.seek start) := by
  induction h generalizing acc with
  | done =>
    refine Or.inl ⟨.empty, rfl, ?_, ?_⟩
    · rw [sofar, Match.append_empty]
    · rw [Match.length_empty, Cursor.advance_zero]
  | fails h hf =>
    obtain ⟨e, hx, rfl, rfl⟩ := ha.failed h hf
    exact Or.inr ⟨e, by simp only [Matcher.times_succ, Matcher.andThen, hx], rfl, rfl⟩
  | onward h hp _ ih =>
    obtain ⟨m, hx, rfl, rfl⟩ := ha.passed h hp
    have later := ih (acc ++ m) (by rw [sofar]; rfl)
    rw [Cursor.point_advance (x.fits hx)] at later
    rcases later with ⟨n, hn, rfl, rfl⟩ | ⟨e, he, rfl, rfl⟩
    · refine Or.inl ⟨m ++ n, ?_, ?_, ?_⟩
      · simp only [Matcher.times_succ, Matcher.andThen, hx, hn]
      · rw [Match.append_assoc]
      · rw [Cursor.advance_advance, Match.length_append]
    · exact Or.inr ⟨e, by simp only [Matcher.times_succ, Matcher.andThen, hx, he], rfl, rfl⟩

theorem timesFrom_total (ha : a.Follows x) (start count : Nat) (total : Verdict) (c : Cursor) :
    ∃ v d, TimesFrom a start count total c v d := by
  induction count generalizing total c with
  | zero => exact ⟨_, _, .done⟩
  | succ count ih =>
    obtain ⟨v, d, h⟩ := ha.total c
    cases hv : v.failed with
    | true => exact ⟨_, _, .fails h hv⟩
    | false =>
      obtain ⟨w, e, h'⟩ := ih (total.extend v) d
      exact ⟨_, _, .onward h hv h'⟩

theorem times_follows (ha : a.Follows x) (count : Nat) :
    Move.Follows (fun c => TimesFrom a c.position count (.success 0) c) (.times count x) where
  sound {c v d} h := by
    rcases timesFrom_ends ha h .empty rfl with ⟨m, hm, rfl, rfl⟩ | ⟨e, he, rfl, rfl⟩
    · rw [Match.empty_append]
      exact .ok hm
    · rw [Cursor.seek_self]
      exact .error he
  total c := timesFrom_total ha c.position count (.success 0) c

end Move

end TextPattern
