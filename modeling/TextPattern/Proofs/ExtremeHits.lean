import Mathlib.Order.Bounds.Basic
import TextPattern.Cursor
import TextPattern.Proofs.Exhaustive

namespace TextPattern

namespace Matcher

variable {δ ε : Type} {a : Matcher ε} {text : List Char} {start o : Nat} {hit : Hit}

/-- The offsets of a text that have a match. -/
def places (a : Matcher ε) (text : List Char) : Set Nat :=
  {o | o ≤ text.length ∧ ∃ m, a.run (.within text o) = .ok m}

theorem mem_places_iff : o ∈ a.places text ↔ ∃ hit, a.hitAtOffset text o = some hit := by
  constructor
  · rintro ⟨inside, m, hm⟩
    exact ⟨_, hitAtOffset_eq_some_iff.mpr ⟨inside, m, hm, rfl⟩⟩
  · rintro ⟨hit, here⟩
    obtain ⟨inside, m, hm, -⟩ := hitAtOffset_eq_some_iff.mp here
    exact ⟨inside, m, hm⟩

theorem hitAtOffset_eq_none_iff : a.hitAtOffset text o = none ↔ o ∉ a.places text := by
  rw [mem_places_iff, ← Option.isSome_iff_exists, Option.not_isSome_iff_eq_none]

theorem SameMatches.places {b : Matcher δ} (h : b.SameMatches a) (text : List Char) :
    b.places text = a.places text := by
  ext o
  rw [mem_places_iff, mem_places_iff, h.hitAtOffset text]

/-- A search that finds the hit at the one place that is asked for, if there is such a place, is told
by that place. -/
theorem eq_some_iff_of_asked {found : Option Hit} {asked : Nat → Prop}
    (unique : ∀ i j, asked i → asked j → i = j)
    (sound : ∀ k, found = some k → asked k.start ∧ a.hitAtOffset text k.start = some k)
    (complete : found = none → ∀ o, ¬asked o) :
    found = some hit ↔ asked hit.start ∧ a.hitAtOffset text hit.start = some hit := by
  refine ⟨sound hit, ?_⟩
  rintro ⟨here, present⟩
  cases answer : found with
  | none => exact absurd here (complete answer hit.start)
  | some other =>
    obtain ⟨there, present'⟩ := sound other answer
    rw [unique _ _ there here, present] at present'
    exact present'.symm

theorem firstHit_eq_none_iff_places :
    a.firstHit text start = none ↔ ∀ o ∈ a.places text, ¬start ≤ o := by
  rw [firstHit_eq_none_iff]
  constructor
  · exact fun h o matched low => hitAtOffset_eq_none_iff.mp (h o low matched.1) matched
  · exact fun h o low _ => hitAtOffset_eq_none_iff.mpr fun matched => h o matched low

theorem firstHit_isLeast (h : a.firstHit text start = some hit) :
    IsLeast {o ∈ a.places text | start ≤ o} hit.start ∧ a.hitAtOffset text hit.start = some hit := by
  obtain ⟨here, before⟩ := firstHit_least h
  refine ⟨⟨⟨mem_places_iff.mpr ⟨hit, here⟩, (firstHit_bounds h).1⟩, ?_⟩, here⟩
  rintro o ⟨matched, low⟩
  by_contra early
  exact hitAtOffset_eq_none_iff.mp (before o low (Nat.lt_of_not_le early)) matched

theorem firstHit_eq_some_iff : a.firstHit text start = some hit ↔
    IsLeast {o ∈ a.places text | start ≤ o} hit.start ∧ a.hitAtOffset text hit.start = some hit :=
  eq_some_iff_of_asked (fun _ _ => IsLeast.unique) (fun _ => firstHit_isLeast)
    fun absent o least => firstHit_eq_none_iff_places.mp absent o least.1.1 least.1.2

theorem lastHit_eq_none_iff :
    a.lastHit text start = none ↔ ∀ o ∈ a.places text, ¬o ≤ start := by
  rw [lastHit, List.findSome?_eq_none_iff]
  constructor
  · intro h o matched low
    have member : o ∈ (List.range (min start text.length + 1)).reverse :=
      List.mem_reverse.mpr (List.mem_range.mpr (by have := matched.1; omega))
    exact hitAtOffset_eq_none_iff.mp (h o member) matched
  · intro h o member
    have bound := List.mem_range.mp (List.mem_reverse.mp member)
    exact hitAtOffset_eq_none_iff.mpr fun matched => h o matched (by omega)

theorem lastHit_isGreatest (h : a.lastHit text start = some hit) :
    IsGreatest {o ∈ a.places text | o ≤ start} hit.start ∧
      a.hitAtOffset text hit.start = some hit := by
  obtain ⟨later, o, earlier, split, here, none⟩ := List.findSome?_eq_some_iff.mp h
  have descending : (later ++ o :: earlier).Pairwise (· > ·) := by
    rw [← split]
    exact List.pairwise_reverse.mpr List.pairwise_lt_range
  have member {i : Nat} : i ∈ later ++ o :: earlier ↔ i ≤ start ∧ i ≤ text.length := by
    rw [← split, List.mem_reverse, List.mem_range]
    omega
  obtain ⟨rfl, -⟩ := hitAtOffset_bounds here
  have low := (member.mp (List.mem_append_right _ List.mem_cons_self)).1
  refine ⟨⟨⟨mem_places_iff.mpr ⟨hit, here⟩, low⟩, ?_⟩, here⟩
  rintro i ⟨matched, low⟩
  rcases List.mem_append.mp (member.mpr ⟨low, matched.1⟩) with hi | hi
  · exact absurd matched (hitAtOffset_eq_none_iff.mp (none i hi))
  · rcases List.mem_cons.mp hi with rfl | hi
    · exact Nat.le_refl _
    · have after := (List.pairwise_cons.mp (List.pairwise_append.mp descending).2.1).1
      exact Nat.le_of_lt (after i hi)

theorem lastHit_eq_some_iff : a.lastHit text start = some hit ↔
    IsGreatest {o ∈ a.places text | o ≤ start} hit.start ∧
      a.hitAtOffset text hit.start = some hit :=
  eq_some_iff_of_asked (fun _ _ => IsGreatest.unique) (fun _ => lastHit_isGreatest)
    fun absent o greatest => lastHit_eq_none_iff.mp absent o greatest.1.1 greatest.1.2

end Matcher

theorem Cursor.point_place {text : List Char} {o : Nat} (inside : o ≤ text.length) :
    (Cursor.place text o).point = .within text o := by
  simp only [Cursor.place, Cursor.point, Nat.min_eq_left inside]

namespace Pattern

variable {p : Pattern} {text : List Char} {start o : Nat} {hit : Hit}

/-- The offsets of a text at which a pattern can be consumed. -/
def places (p : Pattern) (text : List Char) : Set Nat :=
  {o | o ≤ text.length ∧ ∃ m, ((Cursor.place text o).run p .consume).1 = .ok m}

instance (p : Pattern) (text : List Char) : DecidablePred (· ∈ p.places text) := fun o =>
  decidable_of_iff (o ≤ text.length ∧ ((Cursor.place text o).run p .consume).1.isOk = true) <| by
    refine and_congr_right fun _ => ?_
    cases ((Cursor.place text o).run p .consume).1 <;> simp [Except.isOk, Except.toBool]

/-- Consuming a pattern at the start of a hit takes the text of the hit, with its captures. -/
structure Takes (p : Pattern) (text : List Char) (hit : Hit) : Prop where
  ordered : hit.start ≤ hit.stop
  inside : hit.stop ≤ text.length
  consumed : ((Cursor.place text hit.start).run p .consume).1 = .ok ⟨hit.length, hit.captures⟩

theorem run_place (inside : o ≤ text.length) :
    ((Cursor.place text o).run p .consume).1 = (p.matcher .consume).run (.within text o) := by
  rw [Cursor.run_fst, Cursor.point_place inside]
  rfl

theorem places_eq (p : Pattern) (text : List Char) :
    p.places text = (p.matcher .consume).places text := by
  ext o
  refine and_congr_right fun inside => ?_
  rw [run_place inside]

theorem attempt_places (p : Pattern) (text : List Char) : p.attempt.places text = p.places text := by
  rw [p.attempt_sameMatches.places, places_eq]

theorem hitAt_start_iff : p.attempt.hitAtOffset text hit.start = some hit ↔ p.Takes text hit := by
  rw [p.attempt_sameMatches.hitAtOffset text, Matcher.hitAtOffset_eq_some_iff]
  constructor
  · rintro ⟨inside, m, hm, same⟩
    have fits := (p.matcher .consume).fits hm
    rw [Point.rest_within, List.length_drop] at fits
    have stop : hit.stop = hit.start + m.length := congrArg Hit.stop same
    have captures : hit.captures = m.captures := congrArg Hit.captures same
    have length : hit.length = m.length := by rw [Hit.length, stop, Nat.add_sub_cancel_left]
    refine ⟨by omega, by omega, ?_⟩
    rw [run_place inside, length, captures]
    exact hm
  · rintro ⟨ordered, inside, consumed⟩
    have start_le : hit.start ≤ text.length := Nat.le_trans ordered inside
    rw [run_place start_le] at consumed
    refine ⟨start_le, _, consumed, ?_⟩
    have stop : hit.stop = hit.start + hit.length := by rw [Hit.length, Nat.add_sub_of_le ordered]
    rw [Hit.ofMatch, Point.offset_within, ← stop]

theorem findForward_isLeast : p.findForward text start = some hit ↔
    IsLeast {o ∈ p.places text | start ≤ o} hit.start ∧ p.Takes text hit := by
  rw [findForward, Matcher.findSome?_forward, Matcher.firstHit_eq_some_iff, attempt_places,
    hitAt_start_iff]

theorem findBackward_isGreatest : p.findBackward text start = some hit ↔
    IsGreatest {o ∈ p.places text | o ≤ start} hit.start ∧ p.Takes text hit := by
  rw [findBackward, Matcher.findSome?_backward, Matcher.lastHit_eq_some_iff, attempt_places,
    hitAt_start_iff]

theorem findForward_exists_iff :
    (∃ hit, p.findForward text start = some hit) ↔ ∃ o ∈ p.places text, start ≤ o := by
  rw [← Option.ne_none_iff_exists', findForward, Matcher.findSome?_forward, Ne,
    Matcher.firstHit_eq_none_iff_places, attempt_places]
  simp only [not_forall, not_not, exists_prop]

theorem findBackward_exists_iff :
    (∃ hit, p.findBackward text start = some hit) ↔ ∃ o ∈ p.places text, o ≤ start := by
  rw [← Option.ne_none_iff_exists', findBackward, Matcher.findSome?_backward, Ne,
    Matcher.lastHit_eq_none_iff, attempt_places]
  simp only [not_forall, not_not, exists_prop]

/-- Searching forward finds the first place from `start` on where the pattern can be consumed, and
searching backward the last one up to `start`: each finds one if there is one, the ends of the text
included, and the hit is what consuming takes there. -/
theorem searches_find_extremes (p : Pattern) (text : List Char) (start : Nat) :
    (∀ hit, p.findForward text start = some hit ↔
        IsLeast {o ∈ p.places text | start ≤ o} hit.start ∧ p.Takes text hit) ∧
      ((∃ hit, p.findForward text start = some hit) ↔ ∃ o ∈ p.places text, start ≤ o) ∧
      (∀ hit, p.findBackward text start = some hit ↔
        IsGreatest {o ∈ p.places text | o ≤ start} hit.start ∧ p.Takes text hit) ∧
      ((∃ hit, p.findBackward text start = some hit) ↔ ∃ o ∈ p.places text, o ≤ start) ∧
      ((p.places text).Nonempty → ∃ first last, p.findForward text 0 = some first ∧
        p.findBackward text text.length = some last ∧ first.start ≤ last.start) ∧
      ∀ o ∈ p.places text, (∃ hit, p.findForward text o = some hit ∧ hit.start = o) ∧
        ∃ hit, p.findBackward text o = some hit ∧ hit.start = o := by
  refine ⟨fun _ => findForward_isLeast, findForward_exists_iff, fun _ => findBackward_isGreatest,
    findBackward_exists_iff, ?_, fun o matched => ⟨?_, ?_⟩⟩
  · rintro ⟨o, matched⟩
    obtain ⟨first, found⟩ := findForward_exists_iff.mpr ⟨o, matched, Nat.zero_le o⟩
    obtain ⟨last, found'⟩ := findBackward_exists_iff.mpr ⟨o, matched, matched.1⟩
    have low := (findForward_isLeast.mp found).1.2 ⟨matched, Nat.zero_le o⟩
    have high := (findBackward_isGreatest.mp found').1.2 ⟨matched, matched.1⟩
    exact ⟨first, last, found, found', Nat.le_trans low high⟩
  · obtain ⟨hit, found⟩ := findForward_exists_iff.mpr ⟨o, matched, Nat.le_refl o⟩
    have least := (findForward_isLeast.mp found).1
    exact ⟨hit, found, Nat.le_antisymm (least.2 ⟨matched, Nat.le_refl o⟩) least.1.2⟩
  · obtain ⟨hit, found⟩ := findBackward_exists_iff.mpr ⟨o, matched, Nat.le_refl o⟩
    have greatest := (findBackward_isGreatest.mp found).1
    exact ⟨hit, found, Nat.le_antisymm greatest.1.2 (greatest.2 ⟨matched, Nat.le_refl o⟩)⟩

/-- The last place where there may be two letters is the end of the text, from any start beyond. -/
theorem searches_find_extremes_of_optional :
    let p := optional (literal ⟨['a', 'a'], .matchCase⟩)
    let text := ['b', 'a', 'a', 'b']
    IsLeast {o ∈ p.places text | 1 ≤ o} 1 ∧ p.Takes text ⟨1, 3, []⟩ ∧
      IsGreatest {o ∈ p.places text | o ≤ 9} 4 ∧ p.Takes text ⟨4, 4, []⟩ ∧
      ∃ first last, p.findForward text 0 = some first ∧
        p.findBackward text text.length = some last ∧ first.start ≤ last.start := by
  intro p text
  obtain ⟨forward, -, -, -, whole, -⟩ := searches_find_extremes p text 1
  obtain ⟨-, -, backward, -⟩ := searches_find_extremes p text 9
  have first : p.findForward text 1 = some ⟨1, 3, []⟩ := by
    rfl
  have last : p.findBackward text 9 = some ⟨4, 4, []⟩ := by
    rfl
  obtain ⟨least, taken⟩ := (forward _).mp first
  obtain ⟨greatest, taken'⟩ := (backward _).mp last
  exact ⟨least, taken, greatest, taken', whole ⟨1, least.1.1⟩⟩

end Pattern

end TextPattern
