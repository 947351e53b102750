import TextPattern.Proofs.MovesFollow

namespace TextPattern

namespace Match

/-- Stretches taken together, each right after the one before. -/
def join : List Match → Match
  | [] => .empty
  | m :: later => m ++ join later

@[simp] theorem join_nil : join [] = .empty := rfl

@[simp] theorem join_cons (m : Match) (later : List Match) :
    join (m :: later) = m ++ join later := rfl

theorem join_concat (before : List Match) (last : Match) :
    join (before ++ [last]) = join before ++ last := by
  induction before with
  | nil => rw [List.nil_append, join_cons, join_nil, append_empty, empty_append]
  | cons m before ih => rw [List.cons_append, join_cons, ih, join_cons, append_assoc]

/-- Stretches of one character or more have as many characters as there are stretches, or more. -/
theorem length_le_join {steps : List Match} (moving : ∀ m ∈ steps, 0 < m.length) :
    steps.length ≤ (join steps).length := by
  induction steps with
  | nil => exact Nat.le_refl 0
  | cons m later ih =>
    obtain ⟨pos, moving⟩ := List.forall_mem_cons.mp moving
    have := ih moving
    rw [join_cons, length_append, List.length_cons]
    omega

end Match

namespace Matcher

variable {ε : Type}

/-- Matches of `a` one after another, the first at a given place and each of the others right where
the one before ends. -/
inductive Chain (a : Matcher ε) : Point → List Match → Prop
  | nil {p} : Chain a p []
  | cons {p m later} : a.run p = .ok m → Chain a (p.advance m.length) later →
      Chain a p (m :: later)

variable {a : Matcher ε} {p : Point} {steps : List Match} {last m : Match} {e : ε}

namespace Chain

theorem concat (h : a.Chain p steps)
    (next : a.run (p.advance (Match.join steps).length) = .ok last) :
    a.Chain p (steps ++ [last]) := by
  induction h with
  | nil => exact .cons next .nil
  | cons hm _ ih =>
    rw [Match.join_cons, Match.length_append, ← Point.advance_advance] at next
    exact .cons hm (ih next)

theorem run_times (h : a.Chain p steps) :
    (times steps.length a).run p = .ok (.join steps) := by
  induction h with
  | nil => rfl
  | cons hm _ ih =>
    rw [List.length_cons, times_succ]
    exact run_andThen_ok_iff.mpr ⟨_, _, hm, ih, rfl⟩

theorem fits (h : a.Chain p steps) : (Match.join steps).length ≤ p.rest.length :=
  (times steps.length a).fits h.run_times

/-- A span goes on along a chain as long as every match in it moves. -/
theorem spanFrom (h : a.Chain p steps) (moving : ∀ m ∈ steps, 0 < m.length) :
    a.spanFrom .empty p =
      .join steps ++ a.spanFrom .empty (p.advance (Match.join steps).length) := by
  induction h with
  | nil => rw [Match.join_nil, Match.empty_append, Match.length_empty, Point.advance_zero]
  | cons hm _ ih =>
    obtain ⟨pos, moving⟩ := List.forall_mem_cons.mp moving
    rw [Matcher.spanFrom, hm]
    simp only [Nat.ne_of_gt pos, ↓reduceIte, Match.empty_append]
    rw [spanFrom_eq, ih moving, ← Match.append_assoc, Match.join_cons, Match.length_append,
      Point.advance_advance]

end Chain

theorem spanFrom_failed (h : a.run p = .error e) : a.spanFrom .empty p = .empty := by
  rw [spanFrom, h]

theorem spanFrom_still (h : a.run p = .ok last) (zero : last.length = 0) :
    a.spanFrom .empty p = last := by
  rw [spanFrom, h]
  simp only [zero, ↓reduceIte, Match.empty_append]

/-- The matches of `a` one after another as far as they move on. Where they end, `a` fails or takes
nothing. -/
structure StallsAfter (a : Matcher ε) (p : Point) (steps : List Match) : Prop where
  chain : a.Chain p steps
  moving : ∀ m ∈ steps, 0 < m.length
  still : ∀ m, a.run (p.advance (Match.join steps).length) = .ok m → m.length = 0

/-- What is left of the text bounds how often a match can move on. -/
theorem exists_stallsAfter (a : Matcher ε) (p : Point) : ∃ steps, a.StallsAfter p steps := by
  by_cases moves : ∃ m, a.run p = .ok m ∧ 0 < m.length
  · obtain ⟨m, hm, pos⟩ := moves
    obtain ⟨later, chain, moving, still⟩ := a.exists_stallsAfter (p.advance m.length)
    refine ⟨m :: later, .cons hm chain, List.forall_mem_cons.mpr ⟨pos, moving⟩, ?_⟩
    rwa [Match.join_cons, Match.length_append, ← Point.advance_advance]
  · exact ⟨[], .nil, List.forall_mem_nil _,
      fun m hm => Nat.eq_zero_of_not_pos fun pos => moves ⟨m, hm, pos⟩⟩
termination_by p.rest.length
decreasing_by exact advance_length_lt hm pos

namespace StallsAfter

theorem length_le (h : a.StallsAfter p steps) : steps.length ≤ p.rest.length :=
  Nat.le_trans (Match.length_le_join h.moving) h.chain.fits

theorem spanFrom_failed (h : a.StallsAfter p steps)
    (failed : a.run (p.advance (Match.join steps).length) = .error e) :
    a.spanFrom .empty p = .join steps := by
  rw [h.chain.spanFrom h.moving, Matcher.spanFrom_failed failed, Match.append_empty]

theorem spanFrom_still (h : a.StallsAfter p steps)
    (next : a.run (p.advance (Match.join steps).length) = .ok last) :
    a.spanFrom .empty p = .join (steps ++ [last]) := by
  rw [h.chain.spanFrom h.moving, Matcher.spanFrom_still next (h.still last next),
    Match.join_concat]

end StallsAfter

end Matcher

namespace Cursor

variable {c : Cursor} {p : Pattern} {mode : Mode} {m : Match}

theorem run_ok_eq (h : p.run mode c.point = .ok m) :
    c.run p mode = (.ok m, c.advance m.length) := by
  rw [run_eq_follow, follow]
  rw [Pattern.run] at h
  rw [h]

theorem run_still (h : p.run mode c.point = .ok m) (zero : m.length = 0) :
    c.run p mode = (.ok m, c) := by
  rw [run_ok_eq h, zero, advance_zero]

end Cursor

namespace Pattern

variable {p : Pattern} {c : Cursor} {steps : List Match}

theorem matcher_repeated (p : Pattern) (count : UInt64) :
    (repeated p count).matcher .consume = (p.matcher .consume).times count.toNat := rfl

theorem run_repeated_of_chain (h : (p.matcher .consume).Chain c.point steps) {count : UInt64}
    (counted : count.toNat = steps.length) :
    c.run (repeated p count) .consume = (.ok (.join steps), c.advance (Match.join steps).length) := by
  apply Cursor.run_ok_eq
  rw [run, matcher_repeated, counted]
  exact h.run_times

theorem run_span_of_spanFrom {m : Match} (h : (p.matcher .consume).spanFrom .empty c.point = m) :
    c.run (span p) .consume = (.ok m, c.advance m.length) :=
  Cursor.run_ok_eq (congrArg Except.ok h)

/-- A span is as many repetitions as there can be. It ends where the pattern cannot be consumed any
more and every repetition has moved on, or else with the first repetition that takes nothing, which
could go on for ever. -/
theorem span_maximal_repetition (p : Pattern) (c : Cursor) :
    ∃ steps d, (p.matcher .consume).Chain c.point steps ∧ steps.length ≤ c.remaining + 1 ∧
      c.run (span p) .consume = (.ok (.join steps), d) ∧
      (∀ count : UInt64, count.toNat = steps.length →
        c.run (repeated p count) .consume = (.ok (.join steps), d)) ∧
      ((∃ e, d.run p .consume = (.error e, d)) ∧ (∀ m ∈ steps, 0 < m.length) ∨
        ∃ before last, steps = before ++ [last] ∧ (∀ m ∈ before, 0 < m.length) ∧
          last.length = 0 ∧ d.run p .consume = (.ok last, d)) := by
  obtain ⟨steps, stalls⟩ := (p.matcher .consume).exists_stallsAfter c.point
  have room : steps.length ≤ c.remaining := c.remaining_eq ▸ stalls.length_le
  let d := c.advance (Match.join steps).length
  have there : d.point = c.point.advance (Match.join steps).length :=
    Cursor.point_advance stalls.chain.fits
  -- A failure where the chain ends is not one of the repetitions, an empty match there is the last.
  cases next : (p.matcher .consume).run d.point with
  | error e =>
    have spans := stalls.spanFrom_failed (there ▸ next)
    exact ⟨steps, d, stalls.chain, by omega, run_span_of_spanFrom spans,
      fun _ => run_repeated_of_chain stalls.chain, Or.inl ⟨⟨e, Cursor.run_error next⟩, stalls.moving⟩⟩
  | ok last =>
    have onward := there ▸ next
    have zero := stalls.still last onward
    have chain := stalls.chain.concat onward
    have same : (Match.join (steps ++ [last])).length = (Match.join steps).length := by
      rw [Match.join_concat, Match.length_append, zero, Nat.add_zero]
    refine ⟨steps ++ [last], d, chain, ?_, ?_, fun count counted => ?_,
      Or.inr ⟨steps, last, rfl, stalls.moving, zero, Cursor.run_still next zero⟩⟩
    · rw [List.length_append, List.length_singleton]
      omega
    · rw [run_span_of_spanFrom (stalls.spanFrom_still onward), same]
    · rw [run_repeated_of_chain chain counted, same]

/-- An optional letter is matched as a letter and then as nothing. -/
theorem span_maximal_repetition_of_option :
    let p := optional (literal ⟨['a'], .matchCase⟩)
    let c := Cursor.start ['a', 'b']
    ∃ count : UInt64, count.toNat ≤ 3 ∧
      c.run (repeated p count) .consume = c.run (span p) .consume := by
  intro p c
  obtain ⟨steps, d, -, few, spans, repeats, -⟩ := span_maximal_repetition p c
  have few : steps.length ≤ 3 := few
  have counted : (UInt64.ofNat steps.length).toNat = steps.length :=
    UInt64.toNat_ofNat_of_lt' (Nat.lt_of_le_of_lt few (by decide))
  exact ⟨.ofNat steps.length, Nat.le_trans (Nat.le_of_eq counted) few,
    (repeats _ counted).trans spans.symm⟩

end Pattern

end TextPattern
