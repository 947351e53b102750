import TextPattern.Proofs.CapturesErased
import TextPattern.Proofs.Iterations

namespace TextPattern

namespace Matcher

variable {ε : Type} {a : Matcher ε} {p : Point}

theorem times_zero_andThen (a b : Matcher ε) : (times 0 a).andThen b = b := by
  ext p : 2
  simp only [andThen, times, timesFrom, Match.length_empty, Point.advance_zero, Match.empty_append]
  cases b.run p <;> rfl

theorem times_add (m n : Nat) (a : Matcher ε) :
    times (m + n) a = (times m a).andThen (times n a) := by
  induction m with
  | zero => rw [Nat.zero_add, times_zero_andThen]
  | succ m ih => rw [Nat.succ_add, times_succ, times_succ, ih, andThen_assoc]

theorem times_mul (m n : Nat) (a : Matcher ε) : times (m * n) a = times n (times m a) := by
  induction n with
  | zero => rfl
  | succ n ih => rw [Nat.mul_succ, Nat.add_comm, times_add, ih, times_succ]

/-- Where one match takes nothing, any number of them take nothing. -/
theorem run_times_still {last : Match} (h : a.run p = .ok last) (zero : last.length = 0)
    (count : Nat) : ∃ m, (times count a).run p = .ok m ∧ m.length = 0 := by
  induction count with
  | zero => exact ⟨.empty, rfl, rfl⟩
  | succ count ih =>
    obtain ⟨m, hm, none⟩ := ih
    refine ⟨last ++ m, ?_, by rw [Match.length_append, zero, none]⟩
    rw [times_succ]
    exact run_andThen_ok_iff.mpr ⟨last, m, h, by rwa [zero, Point.advance_zero], rfl⟩

theorem run_times_failed {e : ε} (h : a.run p = .error e) (count : Nat) :
    (times (count + 1) a).run p = .error e := by
  simp only [times_succ, andThen, h]

namespace StallsAfter

variable {steps : List Match} (h : a.StallsAfter p steps) {count : Nat}
  (many : p.rest.length < count)

include h many

/-- More matches than there are characters left are those of the chain and then one or more where it
ends. -/
theorem run_times : ∃ n, (times count a).run p =
    ((times (n + 1) a).run (p.advance (Match.join steps).length)).map (.join steps ++ ·) := by
  have bound := h.length_le
  obtain ⟨n, rfl⟩ := Nat.exists_eq_add_of_lt (Nat.lt_of_le_of_lt bound many)
  refine ⟨n, ?_⟩
  rw [Nat.add_assoc, times_add]
  simp only [andThen, h.chain.run_times]
  cases (times (n + 1) a).run (p.advance (Match.join steps).length) <;> rfl

theorem run_times_failed {e : ε} (failed : a.run (p.advance (Match.join steps).length) = .error e) :
    (times count a).run p = .error e := by
  obtain ⟨n, split⟩ := h.run_times many
  rw [split, Matcher.run_times_failed failed n]
  rfl

theorem run_times_still {last : Match}
    (next : a.run (p.advance (Match.join steps).length) = .ok last) :
    ∃ m, (times count a).run p = .ok m ∧ m.length = (Match.join steps).length := by
  obtain ⟨n, split⟩ := h.run_times many
  obtain ⟨k, hk, zero⟩ := Matcher.run_times_still next (h.still last next) (n + 1)
  refine ⟨.join steps ++ k, ?_, by rw [Match.length_append, zero, Nat.add_zero]⟩
  rw [split, hk]
  rfl

end StallsAfter

end Matcher

namespace Pattern

/-- Nothing in the pattern records anything. -/
def Captureless : Pattern → Prop
  | literal _ | test _ => True
  | capture _ _ => False
  | optional inner | span inner | repeated inner _ | negation inner => inner.Captureless
  | seq left right | alt left right | range left right | nestedRange left right =>
    left.Captureless ∧ right.Captureless
  | escapedRange opener closer escape =>
    opener.Captureless ∧ closer.Captureless ∧ escape.Captureless

theorem Captureless.withoutCaptures {p : Pattern} (h : p.Captureless) : p.withoutCaptures = p := by
  induction p with
  | literal l => rfl
  | test t => rfl
  | capture inner name _ => cases h
  | optional inner ih | span inner ih | repeated inner count ih | negation inner ih =>
    rw [Pattern.withoutCaptures, ih h]
  | seq left right ihl ihr | alt left right ihl ihr | range left right ihl ihr
  | nestedRange left right ihl ihr => rw [Pattern.withoutCaptures, ihl h.1, ihr h.2]
  | escapedRange opener closer escape iho ihc ihe =>
    rw [Pattern.withoutCaptures, iho h.1, ihc h.2.1, ihe h.2.2]

theorem Captureless.bare {p : Pattern} (h : p.Captureless) {mode : Mode} {place : Point}
    {m : Match} (hm : p.run mode place = .ok m) : m.bare = m := by
  have same := (p.outcome_unrecorded mode).run place
  have found : (p.outcome mode).run place = .ok m :=
    (Matcher.mapError_sameMatches _ _ place m).mpr hm
  rw [h.withoutCaptures, found] at same
  exact (Except.ok.inj same).symm

/-- Beyond the number of characters left, the count makes no difference: the repetition fails in one
way, or it ends at one place, where the pattern takes nothing. What is recorded at that place is
recorded as often as the count says. -/
theorem repeat_counts_saturate (p : Pattern) (c : Cursor) {m n : UInt64}
    (hm : c.remaining < m.toNat) (hn : c.remaining < n.toNat) :
    let x := c.run (repeated p m) .consume
    let y := c.run (repeated p n) .consume
    x.1.map Match.length = y.1.map Match.length ∧ x.2 = y.2 ∧
      (∀ k, x.1 = .ok k → ∃ last, x.2.run p .consume = (.ok last, x.2) ∧ last.length = 0) ∧
      (p.Captureless → x = y) := by
  intro x y
  obtain ⟨steps, stalls⟩ := (p.matcher .consume).exists_stallsAfter c.point
  let d := c.advance (Match.join steps).length
  have there : d.point = c.point.advance (Match.join steps).length :=
    Cursor.point_advance stalls.chain.fits
  rw [Cursor.remaining_eq] at hm hn
  -- Two counts differ only in how often the pattern is matched where the chain ends.
  cases next : (p.matcher .consume).run d.point with
  | error e =>
    have fails {count : UInt64} (many : c.point.rest.length < count.toNat) :
        c.run (repeated p count) .consume = (.error e, c) :=
      Cursor.run_error (stalls.run_times_failed many (there ▸ next))
    rw [show x = (.error e, c) from fails hm, show y = (.error e, c) from fails hn]
    exact ⟨rfl, rfl, fun _ ok => (nomatch ok), fun _ => rfl⟩
  | ok last =>
    have onward := there ▸ next
    have zero := stalls.still last onward
    have ends {count : UInt64} (many : c.point.rest.length < count.toNat) :
        ∃ k, k.length = (Match.join steps).length ∧ (p.Captureless → k.bare = k) ∧
          c.run (repeated p count) .consume = (.ok k, d) := by
      obtain ⟨k, hk, length⟩ := stalls.run_times_still many onward
      have run : (repeated p count).run .consume c.point = .ok k := hk
      refine ⟨k, length, fun h => Captureless.bare (p := repeated p count) h run, ?_⟩
      rw [Cursor.run_ok_eq run, length]
    obtain ⟨i, length, bare, hx⟩ := ends hm
    obtain ⟨j, length', bare', hy⟩ := ends hn
    have lengths : i.length = j.length := length.trans length'.symm
    rw [show x = (.ok i, d) from hx, show y = (.ok j, d) from hy]
    refine ⟨congrArg Except.ok lengths, rfl,
      fun _ _ => ⟨last, Cursor.run_still next zero, zero⟩, fun h => ?_⟩
    rw [← bare h, ← bare' h, Match.bare, Match.bare, lengths]

/-- An optional letter is matched once and then not at all, for ever. -/
theorem repeat_counts_saturate_at_largest :
    let p := optional (literal ⟨['a'], .matchCase⟩)
    let c := Cursor.place ['-', 'a', 'b'] 1
    c.run (repeated p 18446744073709551615) .consume = c.run (repeated p 3) .consume ∧
      (c.run (repeated p 3) .consume).1 = .ok ⟨1, []⟩ := by
  intro p c
  obtain ⟨-, -, -, same⟩ := repeat_counts_saturate p c (m := 18446744073709551615) (n := 3)
    (by decide) (by decide)
  exact ⟨same trivial, rfl⟩

/-- What is recorded where nothing is taken is recorded every time. -/
example :
    let p := (literal ⟨[], .matchCase⟩).capture "x"
    ((repeated p 2).runOn .consume []).map Match.captures = .ok [⟨"x", 0, []⟩, ⟨"x", 0, []⟩] := rfl

/-- Repetitions one after another are a repetition with the sum of the counts, and a repetition of
repetitions is one with their product: in both cases with the same matches, the same captures and the
same errors, as long as the count fits a word. -/
theorem repeat_counts_add_and_multiply (p : Pattern) (m n : UInt64) (c : Cursor) :
    (m.toNat + n.toNat < UInt64.size →
        c.run (repeated p (m + n)) .consume =
          c.run ((repeated p m).seq (repeated p n)) .consume) ∧
      (m.toNat * n.toNat < UInt64.size →
        c.run (repeated p (m * n)) .consume = c.run (repeated (repeated p m) n) .consume) := by
  simp only [Cursor.run_eq_follow, matcher_repeated]
  constructor
  · intro fits
    rw [UInt64.toNat_add, Nat.mod_eq_of_lt fits, Matcher.times_add]
    rfl
  · intro fits
    rw [UInt64.toNat_mul, Nat.mod_eq_of_lt fits, Matcher.times_mul]

/-- Five letters are not there, and the cursor stays where it was before the first; four are. -/
theorem repeat_counts_add_and_multiply_of_letters :
    let a := literal ⟨['a'], .matchCase⟩
    let p := a.capture "x"
    let c := Cursor.place ['-', 'a', 'a', 'a', 'a', 'b'] 1
    c.run (repeated p (2 + 3)) .consume = (.error (.unmatched a), c) ∧
      (c.run (repeated p (2 * 2)) .consume).1.map Match.length = .ok 4 ∧
      c.run ((repeated p 2).seq (repeated p 3)) .consume = (.error (.unmatched a), c) ∧
      (c.run (repeated (repeated p 2) 2) .consume).1.map Match.length = .ok 4 := by
  intro a p c
  have sum := (repeat_counts_add_and_multiply p 2 3 c).1 (by decide)
  have product := (repeat_counts_add_and_multiply p 2 2 c).2 (by decide)
  rw [← sum, ← product]
  exact ⟨rfl, rfl, rfl, rfl⟩

end Pattern

end TextPattern
