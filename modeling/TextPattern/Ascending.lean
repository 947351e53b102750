namespace TextPattern

/-- How many of the first `high` entries of an ascending array are at most `n`, when the first `low`
entries are. -/
def countBetween (xs : Array Nat) (n low high : Nat) : Nat :=
  if low < high then
    let middle := (low + high) / 2
    if xs.getD middle 0 ≤ n then countBetween xs n (middle + 1) high
    else countBetween xs n low middle
  else low
termination_by high - low

/-- How many entries of an ascending array are at most `n`. -/
def countUpTo (xs : Array Nat) (n : Nat) : Nat :=
  countBetween xs n 0 xs.size

def Ascending (xs : Array Nat) : Prop :=
  ∀ i j, i < j → j < xs.size → xs.getD i 0 < xs.getD j 0

theorem Ascending.le {xs : Array Nat} (asc : Ascending xs) {i j : Nat} (h : i ≤ j)
    (hj : j < xs.size) : xs.getD i 0 ≤ xs.getD j 0 := by
  rcases Nat.lt_or_eq_of_le h with lt | rfl
  · exact Nat.le_of_lt (asc i j lt hj)
  · exact Nat.le_refl _

theorem getD_push_lt {xs : Array Nat} {x i : Nat} (h : i < xs.size) :
    (xs.push x).getD i 0 = xs.getD i 0 := by
  have : ¬i = xs.size := by omega
  simp only [Array.getD_eq_getD_getElem?, Array.getElem?_push, this, ↓reduceIte]

theorem getD_push_size (xs : Array Nat) (x : Nat) : (xs.push x).getD xs.size 0 = x := by
  simp only [Array.getD_eq_getD_getElem?, Array.getElem?_push, ↓reduceIte, Option.getD_some]

theorem Ascending.push {xs : Array Nat} {x : Nat} (asc : Ascending xs)
    (bound : ∀ i, i < xs.size → xs.getD i 0 < x) : Ascending (xs.push x) := by
  intro i j lt hj
  rw [Array.size_push] at hj
  by_cases old : j < xs.size
  · rw [getD_push_lt old, getD_push_lt (by omega)]
    exact asc i j lt old
  · have new : j = xs.size := by omega
    subst new
    rw [getD_push_size, getD_push_lt lt]
    exact bound i lt

theorem countBetween_bounds {xs : Array Nat} {n low high : Nat} (h : low ≤ high) :
    low ≤ countBetween xs n low high ∧ countBetween xs n low high ≤ high := by
  fun_induction countBetween xs n low high with
  | case1 low high lt middle le ih =>
    have := ih (by omega)
    omega
  | case2 low high lt middle gt ih =>
    have := ih (by omega)
    omega
  | case3 low high ge => omega

theorem countUpTo_le_size (xs : Array Nat) (n : Nat) : countUpTo xs n ≤ xs.size :=
  (countBetween_bounds (Nat.zero_le _)).2

theorem countBetween_spec {xs : Array Nat} {n low high : Nat} (asc : Ascending xs)
    (hh : high ≤ xs.size) (below : ∀ i, i < low → xs.getD i 0 ≤ n)
    (above : ∀ i, high ≤ i → i < xs.size → n < xs.getD i 0) {i : Nat} (hi : i < xs.size) :
    i < countBetween xs n low high ↔ xs.getD i 0 ≤ n := by
  fun_induction countBetween xs n low high with
  | case1 low high lt middle le ih =>
    refine ih hh ?_ above
    intro j hj
    exact Nat.le_trans (asc.le (by omega) (by omega)) le
  | case2 low high lt middle gt ih =>
    refine ih (by omega) below ?_
    intro j hj hs
    have := asc.le hj hs
    omega
  | case3 low high ge =>
    constructor
    · exact below i
    · intro le
      apply Decidable.byContradiction
      intro hn
      have := above i (by omega) hi
      omega

/-- The entries that are counted are the first ones. -/
theorem lt_countUpTo_iff {xs : Array Nat} {n i : Nat} (asc : Ascending xs) (hi : i < xs.size) :
    i < countUpTo xs n ↔ xs.getD i 0 ≤ n := by
  apply countBetween_spec asc (Nat.le_refl _) _ _ hi
  · intro j hj
    omega
  · intro j hj hs
    omega

end TextPattern
