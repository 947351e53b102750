import TextPattern.Search

namespace TextPattern

namespace Point

theorem forward_drop (text : List Char) (start : Nat) :
    (forward text).drop start = (List.range' start (text.length + 1 - start)).map (within text) := by
  rw [forward_eq, ← List.map_drop, List.range_eq_range', List.drop_range', Nat.zero_add,
    Nat.mul_one]

theorem forward_drop_of_le {text : List Char} {start : Nat} (h : start ≤ text.length) :
    (forward text).drop start = within text start :: (forward text).drop (start + 1) := by
  have more : text.length + 1 - start = text.length - start + 1 := by omega
  have rest : text.length + 1 - (start + 1) = text.length - start := by omega
  rw [forward_drop, forward_drop, more, rest, List.range'_succ, List.map_cons]

theorem forward_drop_of_lt {text : List Char} {start : Nat} (h : text.length < start) :
    (forward text).drop start = [] := by
  have none : text.length + 1 - start = 0 := by omega
  rw [forward_drop, none, List.range'_zero, List.map_nil]

theorem backward_drop (text : List Char) (start : Nat) :
    (backward text).drop (text.length - start) =
      ((List.range (min start text.length + 1)).map (within text)).reverse := by
  have whole : backward text = (forward text).reverse := (List.reverse_reverse _).symm
  have kept : min (text.length + 1 - (text.length - start)) (text.length + 1) =
      min start text.length + 1 := by omega
  rw [whole, forward_eq, List.drop_reverse, List.length_map, List.length_range, ← List.map_take,
    List.take_range, kept]

end Point

namespace Matcher

variable {ε : Type}

/-- The hit that begins right at an offset of a text. -/
def hitAtOffset (a : Matcher ε) (text : List Char) (offset : Nat) : Option Hit :=
  if offset ≤ text.length then a.hitAt (.within text offset) else none

/-- The hit at the first offset from `start` to the end of the text that has one. -/
def firstHit (a : Matcher ε) (text : List Char) (start : Nat) : Option Hit :=
  (List.range' start (text.length + 1 - start)).findSome? (a.hitAtOffset text)

/-- The hit at the last offset that has one, among those up to `start` and the end of the text. -/
def lastHit (a : Matcher ε) (text : List Char) (start : Nat) : Option Hit :=
  (List.range (min start text.length + 1)).reverse.findSome? (a.hitAtOffset text)

theorem hitAt_eq_some_iff {a : Matcher ε} {p : Point} {hit : Hit} :
    a.hitAt p = some hit ↔ ∃ m, a.run p = .ok m ∧ hit = .ofMatch p m := by
  simp only [hitAt]
  cases a.run p with
  | ok m => simp [eq_comm]
  | error e => simp

theorem hitAtOffset_eq_some_iff {a : Matcher ε} {text : List Char} {offset : Nat} {hit : Hit} :
    a.hitAtOffset text offset = some hit ↔ offset ≤ text.length ∧
      ∃ m, a.run (.within text offset) = .ok m ∧ hit = .ofMatch (.within text offset) m := by
  simp only [hitAtOffset]
  split
  next inside => simp [inside, hitAt_eq_some_iff]
  next outside => simp [outside]

theorem hitAtOffset_bounds {a : Matcher ε} {text : List Char} {offset : Nat} {hit : Hit}
    (h : a.hitAtOffset text offset = some hit) :
    hit.start = offset ∧ hit.start ≤ hit.stop ∧ hit.stop ≤ text.length := by
  obtain ⟨inside, m, hm, rfl⟩ := hitAtOffset_eq_some_iff.mp h
  have fits := a.fits hm
  simp only [Point.rest_within, List.length_drop] at fits
  refine ⟨rfl, ?_, ?_⟩ <;> simp only [Hit.ofMatch, Point.offset_within] <;> omega

theorem firstHit_bounds {a : Matcher ε} {text : List Char} {start : Nat} {hit : Hit}
    (h : a.firstHit text start = some hit) :
    start ≤ hit.start ∧ hit.start ≤ hit.stop ∧ hit.stop ≤ text.length := by
  obtain ⟨offset, member, at_offset⟩ := List.exists_of_findSome?_eq_some h
  obtain ⟨rfl, bounds⟩ := hitAtOffset_bounds at_offset
  exact ⟨(List.mem_range'_1.mp member).1, bounds⟩

/-- One first hit after another. The search goes on where the last hit stopped, and one character
further on after an empty hit. -/
def hitsFrom (a : Matcher ε) (text : List Char) (start : Nat) : List Hit :=
  match h : a.firstHit text start with
  | none => []
  | some hit => hit :: a.hitsFrom text (if hit.isEmpty then hit.stop + 1 else hit.stop)
termination_by text.length + 1 - start
decreasing_by
  have := firstHit_bounds h
  split
  next => omega
  next occupied =>
    simp only [Hit.isEmpty, beq_iff_eq] at occupied
    omega

theorem hitsFrom_of_none {a : Matcher ε} {text : List Char} {start : Nat}
    (h : a.firstHit text start = none) : a.hitsFrom text start = [] := by
  rw [hitsFrom]
  split
  next => rfl
  next hit hs => rw [h] at hs; cases hs

theorem hitsFrom_of_some {a : Matcher ε} {text : List Char} {start : Nat} {hit : Hit}
    (h : a.firstHit text start = some hit) : a.hitsFrom text start =
      hit :: a.hitsFrom text (if hit.isEmpty then hit.stop + 1 else hit.stop) := by
  rw [hitsFrom]
  split
  next hn => rw [h] at hn; cases hn
  next other hs => rw [h] at hs; cases hs; rfl

theorem firstHit_of_le {a : Matcher ε} {text : List Char} {start : Nat}
    (h : start ≤ text.length) : a.firstHit text start =
      (a.hitAtOffset text start).or (a.firstHit text (start + 1)) := by
  have more : text.length + 1 - start = text.length - start + 1 := by omega
  have rest : text.length + 1 - (start + 1) = text.length - start := by omega
  rw [firstHit, firstHit, more, rest, List.range'_succ, List.findSome?_cons]
  cases a.hitAtOffset text start <;> rfl

theorem firstHit_of_lt {a : Matcher ε} {text : List Char} {start : Nat}
    (h : text.length < start) : a.firstHit text start = none := by
  have none : text.length + 1 - start = 0 := by omega
  rw [firstHit, none, List.range'_zero, List.findSome?_nil]

theorem firstHit_eq_none_iff {a : Matcher ε} {text : List Char} {start : Nat} :
    a.firstHit text start = none ↔
      ∀ o, start ≤ o → o ≤ text.length → a.hitAtOffset text o = none := by
  rw [firstHit, List.findSome?_eq_none_iff]
  constructor
  · intro h o low high
    exact h o (List.mem_range'_1.mpr (by omega))
  · intro h o member
    have := List.mem_range'_1.mp member
    exact h o (by omega) (by omega)

/-- The first hit is the hit at its own start, and no place before it has one. -/
theorem firstHit_least {a : Matcher ε} {text : List Char} {start : Nat} {hit : Hit}
    (h : a.firstHit text start = some hit) :
    a.hitAtOffset text hit.start = some hit ∧
      ∀ o, start ≤ o → o < hit.start → a.hitAtOffset text o = none := by
  by_cases inside : start ≤ text.length
  · rw [firstHit_of_le inside] at h
    cases here : a.hitAtOffset text start with
    | some other =>
      rw [here, Option.some_or] at h
      cases h
      obtain ⟨rfl, -⟩ := hitAtOffset_bounds here
      exact ⟨here, fun o low high => by omega⟩
    | none =>
      rw [here, Option.none_or] at h
      obtain ⟨found, before⟩ := firstHit_least h
      refine ⟨found, fun o low high => ?_⟩
      by_cases same : o = start
      · rw [same]
        exact here
      · exact before o (by omega) high
  · rw [firstHit_of_lt (by omega)] at h
    cases h
termination_by text.length + 1 - start

theorem findSome?_places (a : Matcher ε) {text : List Char} {offsets : List Nat}
    (inside : ∀ offset ∈ offsets, offset ≤ text.length) :
    (offsets.map (Point.within text)).findSome? a.hitAt =
      offsets.findSome? (a.hitAtOffset text) := by
  induction offsets with
  | nil => rfl
  | cons offset offsets ih =>
    have here : a.hitAtOffset text offset = a.hitAt (.within text offset) :=
      if_pos (inside offset List.mem_cons_self)
    rw [List.map_cons, List.findSome?_cons, List.findSome?_cons, here,
      ih fun o ho => inside o (List.mem_cons_of_mem offset ho)]

theorem findSome?_forward (a : Matcher ε) (text : List Char) (start : Nat) :
    ((Point.forward text).drop start).findSome? a.hitAt = a.firstHit text start := by
  rw [Point.forward_drop]
  apply a.findSome?_places
  intro offset member
  have := List.mem_range'_1.mp member
  omega

theorem findSome?_backward (a : Matcher ε) (text : List Char) (start : Nat) :
    ((Point.backward text).drop (text.length - start)).findSome? a.hitAt =
      a.lastHit text start := by
  rw [Point.backward_drop, ← List.map_reverse]
  apply a.findSome?_places
  intro offset member
  have := List.mem_range.mp (List.mem_reverse.mp member)
  omega

/-- Passing over the places that a hit covers is searching again from where the hit stopped. -/
theorem hitsOnto_forward (a : Matcher ε) (text : List Char) (start : Nat) :
    a.hitsOnto [] ((Point.forward text).drop start) = a.hitsFrom text start := by
  by_cases inside : start ≤ text.length
  · rw [Point.forward_drop_of_le inside, hitsOnto]
    have first := firstHit_of_le (a := a) inside
    cases hr : a.run (.within text start) with
    | error e =>
      have absent : a.hitAtOffset text start = none := by simp [hitAtOffset, hitAt, hr]
      rw [absent, Option.none_or] at first
      simp only
      rw [a.hitsOnto_forward text (start + 1)]
      cases later : a.firstHit text (start + 1) with
      | none => rw [hitsFrom_of_none later, hitsFrom_of_none (first.trans later)]
      | some hit => rw [hitsFrom_of_some later, hitsFrom_of_some (first.trans later)]
    | ok m =>
      have present : a.hitAtOffset text start = some (.ofMatch (.within text start) m) :=
        hitAtOffset_eq_some_iff.mpr ⟨inside, m, hr, rfl⟩
      rw [present, Option.some_or] at first
      have resume : (if (Hit.ofMatch (.within text start) m).isEmpty then
          (Hit.ofMatch (.within text start) m).stop + 1 else
          (Hit.ofMatch (.within text start) m).stop) = start + 1 + (m.length - 1) := by
        simp only [Hit.isEmpty, Hit.ofMatch, Point.offset_within, beq_iff_eq]
        split <;> omega
      simp only
      rw [hitsFrom_of_some first, hitsOnto_eq, resume, List.drop_drop,
        a.hitsOnto_forward text (start + 1 + (m.length - 1))]
      rfl
  · rw [Point.forward_drop_of_lt (by omega), hitsFrom_of_none (firstHit_of_lt (by omega))]
    rw [hitsOnto, List.reverse_nil]
termination_by text.length + 1 - start

end Matcher

end TextPattern
