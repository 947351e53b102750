import Mathlib.Algebra.Order.SuccPred
import Mathlib.Data.Nat.SuccPred
import Mathlib.Data.Prod.Lex
import Mathlib.Order.Interval.Set.OrdConnected
import TextPattern.Proofs.ReportLines

namespace TextPattern

section Counting

variable {xs : Array Nat} {n k : Nat}

/-- A count is known by the entries that it takes in. -/
theorem countUpTo_eq (asc : Ascending xs) (bound : k ≤ xs.size)
    (taken : ∀ i < xs.size, i < k ↔ xs.getD i 0 ≤ n) : countUpTo xs n = k := by
  have size := countUpTo_le_size xs n
  have same (i : Nat) (hi : i < xs.size) : i < countUpTo xs n ↔ i < k :=
    (lt_countUpTo_iff asc hi).trans (taken i hi).symm
  rcases Nat.lt_trichotomy (countUpTo xs n) k with fewer | eq | more
  · exact absurd ((same _ (by omega)).mpr fewer) (Nat.lt_irrefl _)
  · exact eq
  · exact absurd ((same _ (by omega)).mp more) (Nat.lt_irrefl _)

theorem mem_iff_getD {x : Nat} : x ∈ xs ↔ ∃ i < xs.size, xs.getD i 0 = x := by
  rw [Array.mem_iff_getElem]
  constructor
  · rintro ⟨i, hi, rfl⟩
    exact ⟨i, hi, by simp [Array.getD, hi]⟩
  · rintro ⟨i, hi, rfl⟩
    exact ⟨i, hi, by simp [Array.getD, hi]⟩

/-- An entry is counted from itself on, and it is the last one that is counted there. -/
theorem countUpTo_succ_of_mem (asc : Ascending xs) (h : n + 1 ∈ xs) :
    countUpTo xs (n + 1) = countUpTo xs n + 1 ∧ xs.getD (countUpTo xs n) 0 = n + 1 := by
  obtain ⟨i, hi, entry⟩ := mem_iff_getD.mp h
  have before : countUpTo xs n = i := by
    refine countUpTo_eq asc (Nat.le_of_lt hi) fun j hj => ⟨fun lt => ?_, fun le => ?_⟩
    · have := asc j i lt hi
      omega
    · by_contra ge
      have := asc.le (Nat.le_of_not_lt ge) hj
      omega
  refine ⟨countUpTo_eq asc (by omega) fun j hj => ?_, by rw [before, entry]⟩
  rw [before]
  constructor
  · intro le
    have := asc.le (Nat.le_of_lt_succ le) hi
    omega
  · intro le
    by_contra ge
    have := asc i j (by omega) hj
    omega

theorem countUpTo_succ_of_notMem (asc : Ascending xs) (h : n + 1 ∉ xs) :
    countUpTo xs (n + 1) = countUpTo xs n := by
  refine countUpTo_eq asc (countUpTo_le_size xs n) fun i hi => ?_
  rw [lt_countUpTo_iff asc hi]
  have other : xs.getD i 0 ≠ n + 1 := fun eq => h (mem_iff_getD.mpr ⟨i, hi, eq⟩)
  omega

end Counting

namespace Text

variable {text : List Char} {offset : Nat}

/-- The last character of a line is at an offset: a line feed, or a carriage return that no line
feed follows. -/
def BreaksAt (text : List Char) (offset : Nat) : Prop :=
  text[offset]? = some '\n' ∨ text[offset]? = some '\r' ∧ text[offset + 1]? ≠ some '\n'

instance : Decidable (BreaksAt text offset) :=
  inferInstanceAs (Decidable (_ ∨ _))

theorem breaksAt_zero {c : Char} {rest : List Char} :
    BreaksAt (c :: rest) 0 ↔ endsLine c rest = true := by
  simp [BreaksAt, endsLine, List.head?_eq_getElem?]

theorem breaksAt_succ {c : Char} {rest : List Char} :
    BreaksAt (c :: rest) (offset + 1) ↔ BreaksAt rest offset := by
  simp [BreaksAt]

theorem mem_lineStartsOnto {found : Array Nat} {x : Nat} :
    x ∈ lineStartsOnto found offset text ↔
      x ∈ found ∨ ∃ o, x = offset + o + 1 ∧ BreaksAt text o := by
  induction text generalizing found offset with
  | nil => simp [lineStartsOnto, BreaksAt]
  | cons c rest ih =>
    have here : x ∈ (if endsLine c rest then found.push (offset + 1) else found) ↔
        x ∈ found ∨ x = offset + 0 + 1 ∧ BreaksAt (c :: rest) 0 := by
      rw [breaksAt_zero]
      split
      next ends => simp [ends]
      next goesOn => simp [goesOn]
    have later (o : Nat) : offset + 1 + o + 1 = offset + (o + 1) + 1 := by omega
    rw [lineStartsOnto, ih, here, or_assoc]
    conv_rhs => rw [← Nat.or_exists_add_one]
    simp only [breaksAt_succ, later]

theorem succ_mem_lineStarts : offset + 1 ∈ lineStarts text ↔ BreaksAt text offset := by
  rw [lineStarts, mem_lineStartsOnto]
  simp

theorem positionAmong_zero (text : List Char) : positionAmong (lineStarts text) 0 = ⟨1, 1⟩ := by
  have ascending := lineStarts_ascending text
  obtain ⟨some_line, first⟩ := lineStarts_zero text
  have one : countUpTo (lineStarts text) 0 = 1 := by
    refine countUpTo_eq ascending some_line fun i hi => ⟨fun lt => ?_, fun le => ?_⟩
    · obtain rfl := Nat.lt_one_iff.mp lt
      exact Nat.le_of_eq first
    · by_contra later
      have := ascending 0 i (by omega) hi
      omega
  simp [positionAmong, one]

theorem positionAmong_succ (text : List Char) (offset : Nat) :
    let here := positionAmong (lineStarts text) offset
    positionAmong (lineStarts text) (offset + 1) =
      if BreaksAt text offset then ⟨here.line + 1, 1⟩ else ⟨here.line, here.column + 1⟩ := by
  have ascending := lineStarts_ascending text
  split
  next breaks =>
    obtain ⟨line, start⟩ :=
      countUpTo_succ_of_mem ascending (succ_mem_lineStarts.mpr breaks)
    simp only [positionAmong, line, Nat.add_sub_cancel, start, Nat.sub_self]
  next goesOn =>
    have line := countUpTo_succ_of_notMem ascending (mt succ_mem_lineStarts.mp goesOn)
    obtain ⟨some_line, first⟩ := lineStarts_zero text
    have pos : 0 < countUpTo (lineStarts text) offset :=
      (lt_countUpTo_iff ascending some_line).mpr (by omega)
    have size := countUpTo_le_size (lineStarts text) offset
    have begun := (lt_countUpTo_iff ascending (by omega)).mp (Nat.sub_one_lt (Nat.ne_of_gt pos))
    simp only [positionAmong, line, Position.mk.injEq, true_and]
    omega

end Text

namespace Report

variable {r : Report} {o : Nat}

theorem position_inside (h : o ≤ r.text.length) :
    r.position o = Text.positionAmong (Text.lineStarts r.text) o := by
  rw [position_eq, Text.position, Nat.min_eq_left h]

theorem position_past (h : r.text.length < o) : r.position o = r.position r.text.length := by
  rw [position_eq, position_eq, Text.position, Text.position, Nat.min_self,
    Nat.min_eq_right (Nat.le_of_lt h)]

theorem position_succ (h : o < r.text.length) : r.position (o + 1) =
    if Text.BreaksAt r.text o then ⟨(r.position o).line + 1, 1⟩
    else ⟨(r.position o).line, (r.position o).column + 1⟩ := by
  rw [position_inside h, position_inside (Nat.le_of_lt h), Text.positionAmong_succ]

theorem position_strictMonoOn (r : Report) :
    StrictMonoOn (fun o => toLex ((r.position o).line, (r.position o).column))
      (Set.Iic r.text.length) := by
  refine strictMonoOn_of_lt_add_one Set.ordConnected_Iic fun o _ _ next => ?_
  rw [Prod.Lex.toLex_lt_toLex, position_succ next]
  split
  next => exact .inl (Nat.lt_succ_self _)
  next => exact .inr ⟨rfl, Nat.lt_succ_self _⟩

theorem position_injOn (r : Report) : Set.InjOn r.position (Set.Iic r.text.length) :=
  fun _ ho _ ho' same => r.position_strictMonoOn.injOn ho ho' (by simp only [same])

/-- Positions number the offsets of a text, from line 1 and column 1 on. A character that ends a
line takes the number on to the next line and any other one to the next column. So a further offset
has a later position, and no two offsets have the same one; after the end the position is that of
the end. -/
theorem position_numbers_offsets (r : Report) :
    r.position 0 = ⟨1, 1⟩ ∧
      (∀ o < r.text.length, r.position (o + 1) =
        if Text.BreaksAt r.text o then ⟨(r.position o).line + 1, 1⟩
        else ⟨(r.position o).line, (r.position o).column + 1⟩) ∧
      (∀ o > r.text.length, r.position o = r.position r.text.length) ∧
      StrictMonoOn (fun o => toLex ((r.position o).line, (r.position o).column))
        (Set.Iic r.text.length) ∧
      Set.InjOn r.position (Set.Iic r.text.length) := by
  refine ⟨?_, fun _ => position_succ, fun _ => position_past, r.position_strictMonoOn,
    r.position_injOn⟩
  rw [position_inside (Nat.zero_le _), Text.positionAmong_zero]

/-- The two characters of a break do not share a position, and a second carriage return ends a line
of its own. -/
theorem position_numbers_offsets_across_breaks :
    let r := Report.ofText "a\r\nb\r\rc\n".toList false
    r.position 2 = ⟨(r.position 1).line, (r.position 1).column + 1⟩ ∧
      r.position 3 = ⟨(r.position 2).line + 1, 1⟩ ∧
      r.position 6 = ⟨(r.position 5).line + 1, 1⟩ ∧
      r.position 9 = r.position 8 ∧ r.position 1 ≠ r.position 2 := by
  intro r
  obtain ⟨-, step, past, -, distinct⟩ := position_numbers_offsets r
  have inside (o : Nat) (h : o ≤ 8) : o ∈ Set.Iic r.text.length := h
  refine ⟨?_, ?_, ?_, past 9 (by decide), fun same => ?_⟩
  · rw [step 1 (by decide), if_neg (by decide)]
  · rw [step 2 (by decide), if_pos (by decide)]
  · rw [step 5 (by decide), if_pos (by decide)]
  · cases distinct (inside 1 (by decide)) (inside 2 (by decide)) same

end Report

end TextPattern
