import TextPattern.Proofs.GreedyCover
import TextPattern.Proofs.Iterations

namespace TextPattern

namespace Matcher

variable {δ ε : Type} {a : Matcher δ} {p : Point} {steps : List Match}

/-- Without empty matches, the matches one after another end where there is none. -/
theorem StallsAfter.failed (h : a.StallsAfter p steps) (moves : a.AtLeast 1) :
    ∃ e, a.run (p.advance (Match.join steps).length) = .error e := by
  cases next : a.run (p.advance (Match.join steps).length) with
  | error e => exact ⟨e, rfl⟩
  | ok m =>
    have zero := h.still m next
    have pos := moves _ m next
    omega

/-- The last match of a span may be an empty one, but that leaves its end where it is. -/
theorem StallsAfter.length_spanFrom (h : a.StallsAfter p steps) :
    (a.spanFrom .empty p).length = (Match.join steps).length := by
  cases next : a.run (p.advance (Match.join steps).length) with
  | error e => rw [h.spanFrom_failed next]
  | ok m => rw [h.spanFrom_still next, Match.join_concat, Match.length_append, h.still m next,
      Nat.add_zero]

/-- Where a span ends, another one takes nothing. -/
theorem length_spanFrom_again (a : Matcher δ) (p : Point) :
    (a.spanFrom .empty (p.advance (a.spanFrom .empty p).length)).length = 0 := by
  obtain ⟨steps, stalls⟩ := a.exists_stallsAfter p
  rw [stalls.length_spanFrom]
  cases next : a.run (p.advance (Match.join steps).length) with
  | error e => rw [Matcher.spanFrom_failed next, Match.length_empty]
  | ok m => rw [Matcher.spanFrom_still next (stalls.still m next), stalls.still m next]

theorem AtLeast.spanFrom_again (moves : a.AtLeast 1) (p : Point) :
    a.spanFrom .empty (p.advance (a.spanFrom .empty p).length) = .empty := by
  obtain ⟨steps, stalls⟩ := a.exists_stallsAfter p
  obtain ⟨e, failed⟩ := stalls.failed moves
  rw [stalls.length_spanFrom, spanFrom_failed failed]

/-- A span of spans that takes anything is two spans, the second of which takes nothing. -/
theorem spanFrom_span (a : Matcher δ) (p : Point) :
    (a.span : Matcher ε).spanFrom .empty p =
      if (a.spanFrom .empty p).length = 0 then a.spanFrom .empty p
      else a.spanFrom .empty p ++
        a.spanFrom .empty (p.advance (a.spanFrom .empty p).length) := by
  have here : (a.span : Matcher ε).run p = .ok (a.spanFrom .empty p) := rfl
  have next : (a.span : Matcher ε).run (p.advance (a.spanFrom .empty p).length) =
      .ok (a.spanFrom .empty (p.advance (a.spanFrom .empty p).length)) := rfl
  by_cases zero : (a.spanFrom .empty p).length = 0
  · rw [if_pos zero, spanFrom_still here zero]
  · rw [if_neg zero, spanFrom, here]
    simp only [zero, ↓reduceIte, Match.empty_append]
    rw [spanFrom_eq, spanFrom_still next (length_spanFrom_again a p)]

theorem length_spanFrom_span (a : Matcher δ) (p : Point) :
    ((a.span : Matcher ε).spanFrom .empty p).length = (a.spanFrom .empty p).length := by
  rw [spanFrom_span]
  split
  next => rfl
  next => rw [Match.length_append, length_spanFrom_again, Nat.add_zero]

theorem AtLeast.spanFrom_span (moves : a.AtLeast 1) (p : Point) :
    (a.span : Matcher ε).spanFrom .empty p = a.spanFrom .empty p := by
  rw [Matcher.spanFrom_span, moves.spanFrom_again, Match.append_empty, ite_self]

end Matcher

namespace Pattern

theorem matcher_span (p : Pattern) :
    (span p).matcher .consume = (p.matcher .consume).span := rfl

theorem matcher_moves {p : Pattern} (moves : p.nullable .consume = false) :
    (p.matcher .consume).AtLeast 1 := by
  have least := p.matcher_atLeast .consume
  rwa [moves] at least

/-- A span of a span takes what the span takes. It also records the same if the pattern never takes
nothing. -/
theorem span_of_span (p : Pattern) (c : Cursor) :
    ∃ m n d, c.run (span (span p)) .consume = (.ok m, d) ∧ c.run (span p) .consume = (.ok n, d) ∧
      m.length = n.length ∧ (p.nullable .consume = false → m = n) := by
  let a := p.matcher .consume
  let twice := ((span p).matcher .consume).spanFrom .empty c.point
  let once := a.spanFrom .empty c.point
  have same : twice.length = once.length := a.length_spanFrom_span c.point
  refine ⟨twice, once, c.advance once.length, ?_, run_span_of_spanFrom rfl, same, fun moves => ?_⟩
  · rw [run_span_of_spanFrom (m := twice) rfl, same]
  · exact (matcher_moves moves).spanFrom_span c.point

theorem span_of_span_of_letters :
    let a := (literal ⟨['a'], .matchCase⟩).capture "x"
    let c := Cursor.start ['a', 'a', 'b']
    a.nullable .consume = false ∧
      (c.run (span (span a)) .consume).1 = .ok ⟨2, [⟨"x", 0, ['a']⟩, ⟨"x", 1, ['a']⟩]⟩ := by
  intro a c
  obtain ⟨m, n, d, twice, once, -, same⟩ := span_of_span a c
  have found : (c.run (span a) .consume).1 = .ok ⟨2, [⟨"x", 0, ['a']⟩, ⟨"x", 1, ['a']⟩]⟩ := by
    rw [Cursor.run_fst]
    cbv
  refine ⟨rfl, ?_⟩
  rw [twice, same rfl]
  rwa [once] at found

/-- The empty match that ends a span is recorded by every span around it. -/
example :
    let a := (optional (literal ⟨['a'], .matchCase⟩)).capture "x"
    (span a).runOn .consume ['a'] = .ok ⟨1, [⟨"x", 0, ['a']⟩, ⟨"x", 1, []⟩]⟩ ∧
      (span (span a)).runOn .consume ['a'] =
        .ok ⟨1, [⟨"x", 0, ['a']⟩, ⟨"x", 1, []⟩, ⟨"x", 1, []⟩]⟩ := by
  cbv

end Pattern

namespace Hit

/-- The hits of matches that begin at an offset, each where the one before ends. -/
def along : Nat → List Match → List Hit
  | _, [] => []
  | o, m :: later => ⟨o, o + m.length, m.captures⟩ :: along (o + m.length) later

/-- Hits of one character or more that fill the way from one offset to another. -/
inductive Tiles : Nat → Nat → List Hit → Prop
  | nil {o} : Tiles o o []
  | cons {hit later stop} : hit.start < hit.stop → Tiles hit.stop stop later →
      Tiles hit.start stop (hit :: later)

variable {steps : List Match}

theorem tiles_along (moving : ∀ m ∈ steps, 0 < m.length) (o : Nat) :
    Tiles o (o + (Match.join steps).length) (along o steps) := by
  induction steps generalizing o with
  | nil => exact .nil
  | cons m later ih =>
    obtain ⟨pos, moving⟩ := List.forall_mem_cons.mp moving
    have rest := ih moving (o + m.length)
    rw [Nat.add_assoc, ← Match.length_append, ← Match.join_cons] at rest
    have ordered : o < o + m.length := Nat.lt_add_of_pos_right pos
    exact @Tiles.cons ⟨o, o + m.length, m.captures⟩ _ _ ordered rest

theorem captures_along (o : Nat) (steps : List Match) :
    (along o steps).flatMap captures = (Match.join steps).captures := by
  induction steps generalizing o with
  | nil => rfl
  | cons m later ih => rw [along, List.flatMap_cons, ih, Match.join_cons, Match.captures_append]

end Hit

namespace Pattern

variable {p : Pattern} {text : List Char} {start o : Nat} {steps : List Match} {m : Match}
  {hit : Hit} {hits : List Hit}

/-- A match where the search begins is the first hit. -/
theorem findForward_of_match (inside : o ≤ text.length)
    (h : (p.matcher .consume).run (.within text o) = .ok m) :
    p.findForward text o = some ⟨o, o + m.length, m.captures⟩ := by
  have here : p.hitAt text o = some ⟨o, o + m.length, m.captures⟩ :=
    Matcher.hitAtOffset_eq_some_iff.mpr ⟨inside, m, (p.attempt_sameMatches _ m).mpr h, rfl⟩
  exact findForward_eq_some_iff.mpr ⟨Nat.le_refl o, here,
    fun _ low early => absurd early (Nat.not_lt_of_le low)⟩

/-- A search goes along a chain of matches as long as they move on. -/
theorem Sweeps.of_chain (chain : (p.matcher .consume).Chain (.within text start) steps)
    (moving : ∀ m ∈ steps, 0 < m.length) (inside : start ≤ text.length)
    (sweep : p.Sweeps text (start + (Match.join steps).length) hits) :
    p.Sweeps text start (Hit.along start steps ++ hits) := by
  induction steps generalizing start with
  | nil => exact sweep
  | cons m later ih =>
    obtain ⟨pos, moving⟩ := List.forall_mem_cons.mp moving
    cases chain with
    | cons hm chain =>
      have first := findForward_of_match inside hm
      have fits := (p.matcher .consume).fits hm
      rw [Point.advance_within] at chain
      rw [Point.rest_within, List.length_drop] at fits
      rw [Match.join_cons, Match.length_append, ← Nat.add_assoc] at sweep
      have rest := ih chain moving (by omega) sweep
      have resumed : Hit.resume ⟨start, start + m.length, m.captures⟩ = start + m.length :=
        if_neg (by simpa [Hit.isEmpty] using Nat.ne_of_gt pos)
      exact .onward inside first (resumed.symm ▸ rest)

/-- No hit begins where the pattern cannot be consumed. -/
theorem lt_start_of_mem_findAll {e : MatchError Pattern}
    (failed : (p.matcher .consume).run (.within text o) = .error e)
    (found : hit ∈ p.findAll text o) : o < hit.start := by
  have sweep : p.Sweeps text o (p.findAll text o) := sweeps_iff.mpr rfl
  obtain ⟨present, low, -⟩ := sweep.greedyCover.found hit found
  refine Nat.lt_of_le_of_ne low fun same => ?_
  rw [← same] at present
  obtain ⟨-, m, hm, -⟩ := Matcher.hitAtOffset_eq_some_iff.mp present
  rw [(p.attempt_sameMatches _ m).mp hm] at failed
  cases failed

/-- All hits from where a span of the pattern begins are first the repetitions of the span, which
fill what it takes and record what it records, and then hits that begin after its end. -/
theorem findAll_begins_with_span (p : Pattern) (moves : p.nullable .consume = false)
    (text : List Char) (start : Nat) (inside : start ≤ text.length) :
    ∃ m tiles further, ((Cursor.place text start).run (span p) .consume).1 = .ok m ∧
      p.findAll text start = tiles ++ further ∧ Hit.Tiles start (start + m.length) tiles ∧
      tiles.flatMap Hit.captures = m.captures ∧
      ∀ hit ∈ further, start + m.length < hit.start := by
  obtain ⟨steps, stalls⟩ := (p.matcher .consume).exists_stallsAfter (.within text start)
  obtain ⟨e, failed⟩ := stalls.failed (matcher_moves moves)
  let stop := start + (Match.join steps).length
  have spans : ((Cursor.place text start).run (span p) .consume).1 = .ok (.join steps) := by
    rw [run_place inside, matcher_span]
    exact congrArg Except.ok (stalls.spanFrom_failed failed)
  have sweep : p.Sweeps text stop (p.findAll text stop) := sweeps_iff.mpr rfl
  rw [Point.advance_within] at failed
  refine ⟨.join steps, Hit.along start steps, p.findAll text stop, spans, ?_,
    Hit.tiles_along stalls.moving start, Hit.captures_along start steps,
    fun hit found => lt_start_of_mem_findAll failed found⟩
  exact (sweeps_iff.mp (.of_chain stalls.chain stalls.moving inside sweep)).symm

/-- Two letters in a row are two hits that the span takes together; the third is further on. -/
theorem findAll_begins_with_span_of_letters :
    let a := (literal ⟨['a'], .matchCase⟩).capture "x"
    let text := ['-', 'a', 'a', 'b', 'a']
    a.nullable .consume = false ∧ 1 ≤ text.length ∧
      ∃ tiles further, a.findAll text 1 = tiles ++ further ∧ Hit.Tiles 1 3 tiles ∧
        tiles.flatMap Hit.captures = [⟨"x", 1, ['a']⟩, ⟨"x", 2, ['a']⟩] ∧
        ∀ hit ∈ further, 3 < hit.start := by
  intro a text
  have spans : ((Cursor.place text 1).run (span a) .consume).1 =
      .ok ⟨2, [⟨"x", 1, ['a']⟩, ⟨"x", 2, ['a']⟩]⟩ := by
    rw [Cursor.run_fst]
    cbv
  obtain ⟨m, tiles, further, found, all, filled, recorded, later⟩ :=
    findAll_begins_with_span a rfl text 1 (by decide)
  cases found.symm.trans spans
  exact ⟨rfl, by decide, tiles, further, all, filled, recorded, later⟩

end Pattern

end TextPattern
