import TextPattern.Proofs.ClassNames

namespace TextPattern

namespace Notation

variable {ws xs ys : List Char} {c : Char}

theorem digit_plain {c : Char} (h : c.isDigit = true) : Unicode.isWhiteSpace c = false := by
  obtain ⟨low, high⟩ := Char.isDigit_iff_toNat.mp h
  have low : 48 ≤ c.toNat := low
  have high : c.toNat ≤ 57 := high
  simp [Unicode.isWhiteSpace]
  omega

theorem nameStart_range {c : Char} (h : isNameStart c = true) :
    (65 ≤ c.toNat ∧ c.toNat ≤ 90) ∨ (97 ≤ c.toNat ∧ c.toNat ≤ 122) ∨ c.toNat = 95 := by
  rcases Bool.or_eq_true_iff.mp h with letter | underscore
  · rcases Bool.or_eq_true_iff.mp letter with upper | lower
    · obtain ⟨low, high⟩ := of_decide_eq_true upper
      exact .inl ⟨UInt32.le_iff_toNat_le.mp low, UInt32.le_iff_toNat_le.mp high⟩
    · obtain ⟨low, high⟩ := Bool.and_eq_true_iff.mp lower
      have low := UInt32.le_iff_toNat_le.mp (of_decide_eq_true low)
      have high := UInt32.le_iff_toNat_le.mp (of_decide_eq_true high)
      exact .inr (.inl ⟨low, high⟩)
  · cases beq_iff_eq.mp underscore
    exact .inr (.inr rfl)

theorem nameStart_plain {c : Char} (h : isNameStart c = true) :
    Unicode.isWhiteSpace c = false ∧ c.isDigit = false := by
  have range := nameStart_range h
  constructor
  · simp [Unicode.isWhiteSpace]
    omega
  · cases digit : c.isDigit with
    | false => rfl
    | true =>
      have high : c.toNat ≤ 57 := (Char.isDigit_iff_toNat.mp digit).2
      omega

theorem space_notNameChar (h : Unicode.isWhiteSpace c = true) : isNameChar c = false := by
  cases hc : isNameChar c with
  | false => rfl
  | true =>
    simp only [isNameChar, Bool.or_eq_true, beq_iff_eq] at hc
    rcases hc with (start | digit) | rfl
    · rw [(nameStart_plain start).1] at h
      cases h
    · rw [digit_plain digit] at h
      cases h
    · cases h

theorem isName_cons {name : String} (h : isName name = true) :
    ∃ c rest, name.toList = c :: rest ∧ isNameStart c = true ∧
      ∀ x ∈ rest, isNameChar x = true := by
  cases he : name.toList with
  | nil => simp [isName, he] at h
  | cons c rest =>
    obtain ⟨start, others⟩ : isNameStart c = true ∧ ∀ x ∈ rest, isNameChar x = true := by
      simpa [isName, he] using h
    exact ⟨c, rest, rfl, start, others⟩

theorem notMem_name {name : String} (h : isName name = true) (other : isNameChar c = false) :
    c ∉ name.toList := by
  obtain ⟨first, rest, he, start, others⟩ := isName_cons h
  have first_char : isNameChar first = true := by
    rw [isNameChar, start]
    rfl
  have all : ∀ x ∈ first :: rest, isNameChar x = true :=
    List.forall_mem_cons.mpr ⟨first_char, others⟩
  intro inside
  rw [he] at inside
  exact Bool.false_ne_true (other.symm.trans (all c inside))

namespace Reading

variable {r : Reading} {c : Char}

theorem feed_blank (hr : r.lexeme = .blank) (c : Char) : r.feed c = r.beginToken c := by
  rw [feed, hr]

theorem feed_digit (hr : r.lexeme = .blank) (digit : c.isDigit = true) :
    r.feed c = .ok { r with lexeme := .count (c.toNat - '0'.toNat) } := by
  rw [feed_blank hr]
  change ite _ _ _ = _
  rw [if_neg (by simp [digit_plain digit]), if_pos digit]

theorem feed_nameStart (hr : r.lexeme = .blank) (start : isNameStart c = true) :
    r.feed c = .ok { r with lexeme := .name [c] } := by
  obtain ⟨space, digit⟩ := nameStart_plain start
  rw [feed_blank hr]
  change ite _ _ _ = _
  rw [if_neg (by simp [space]), if_neg (by simp [digit]), if_pos start]

end Reading

/-- Reading a text in one state ends in another. -/
def Reads (text : List Char) (r s : Reading) : Prop :=
  text.foldlM Reading.feed r = .ok s

namespace Reads

variable {r s t : Reading}

theorem nil (r : Reading) : Reads [] r r :=
  rfl

theorem cons (hc : r.feed c = .ok s) (h : Reads xs s t) : Reads (c :: xs) r t := by
  rw [Reads, List.foldlM_cons, hc]
  exact h

theorem single (hc : r.feed c = .ok s) : Reads [c] r s :=
  cons hc (nil s)

theorem append (hx : Reads xs r s) (hy : Reads ys s t) : Reads (xs ++ ys) r t := by
  rw [Reads, List.foldlM_append, hx]
  exact hy

theorem blank (hw : Blank ws) (hr : r.lexeme = .blank) : Reads ws r r := by
  induction ws with
  | nil => exact nil r
  | cons w ws ih =>
    obtain ⟨first, others⟩ := List.forall_mem_cons.mp hw
    have step : r.feed w = .ok r := by
      obtain ⟨_, _, _⟩ := r
      cases hr
      change ite _ _ _ = _
      rw [if_pos first]
    exact cons step (ih others)

theorem quoted {k : Comparison} {raw text : List Char} (h : Quoted k.quote raw text)
    (read : List Char) : Reads raw { r with lexeme := .text k read }
      { r with lexeme := .text k (text.reverse ++ read) } := by
  have slash : ('\\' == k.quote) = false := by cases k <;> rfl
  induction h generalizing read with
  | nil => exact nil _
  | @plain c raw text hq hs _ ih =>
    have kept : Reading.feed { r with lexeme := .text k read } c =
        .ok { r with lexeme := .text k (c :: read) } := by
      simp [Reading.feed, hq, hs]
    have rest := ih (c :: read)
    rw [List.reverse_cons, List.append_assoc, List.singleton_append]
    exact cons kept rest
  | @escaped c raw text _ ih =>
    have opened : Reading.feed { r with lexeme := .text k read } '\\' =
        .ok { r with lexeme := .escape k read } := by
      simp [Reading.feed, slash]
    have rest := ih (c :: read)
    rw [List.reverse_cons, List.append_assoc, List.singleton_append]
    exact cons opened (cons rfl rest)

theorem literal {k : Comparison} {raw text : List Char} (h : Quoted k.quote raw text)
    (hr : r.lexeme = .blank) :
    Reads (k.quote :: raw ++ [k.quote]) r (r.operand (.literal ⟨text, k⟩)) := by
  have opened : r.feed k.quote = .ok { r with lexeme := .text k [] } := by
    rw [Reading.feed_blank hr]
    cases k <;> rfl
  have closed : Reading.feed { r with lexeme := .text k (text.reverse ++ []) } k.quote =
      .ok (r.operand (.literal ⟨text, k⟩)) := by
    simp [Reading.feed, Reading.operand]
  exact append (cons opened (quoted h [])) (single closed)

theorem classes {text : List Char} (h : '>' ∉ text) (read : List Char) :
    Reads text { r with lexeme := .classes read }
      { r with lexeme := .classes (text.reverse ++ read) } := by
  induction text generalizing read with
  | nil => exact nil _
  | cons c rest ih =>
    obtain ⟨hc, hrest⟩ : '>' ≠ c ∧ '>' ∉ rest := by simpa using h
    have kept : Reading.feed { r with lexeme := .classes read } c =
        .ok { r with lexeme := .classes (c :: read) } := by
      simp [Reading.feed, Ne.symm hc]
    rw [List.reverse_cons, List.append_assoc, List.singleton_append]
    exact cons kept (ih hrest (c :: read))

theorem le_ofDigitChars (digits : List Char) (value : Nat) :
    value ≤ Nat.ofDigitChars 10 digits value := by
  rw [Nat.ofDigitChars_eq_ofDigitChars_zero]
  have := Nat.le_mul_of_pos_left value (Nat.pow_pos (n := digits.length) (show 0 < 10 by decide))
  omega

theorem digits {digits : List Char} (hd : ∀ c ∈ digits, c.isDigit = true) (value : Nat)
    (bound : Nat.ofDigitChars 10 digits value < UInt64.size) :
    Reads digits { r with lexeme := .count value }
      { r with lexeme := .count (Nat.ofDigitChars 10 digits value) } := by
  induction digits generalizing value with
  | nil => exact nil _
  | cons c rest ih =>
    rw [Nat.ofDigitChars_cons] at bound ⊢
    have digit := hd c (by simp)
    have small : 10 * value + (c.toNat - '0'.toNat) < UInt64.size :=
      Nat.lt_of_le_of_lt (le_ofDigitChars rest _) bound
    have step : Reading.feed { r with lexeme := .count value } c =
        .ok { r with lexeme := .count (10 * value + (c.toNat - '0'.toNat)) } := by
      simp only [Reading.feed, digit, if_true, small]
    exact cons step (ih (fun x hx => hd x (by simp [hx])) _ bound)

/-- Digits are read as the count they write, leading zeros included. -/
theorem number {digits : List Char} {n : UInt64} (ne : digits ≠ [])
    (all : ∀ c ∈ digits, c.isDigit = true) (value : Nat.ofDigitChars 10 digits 0 = n.toNat)
    (hr : r.lexeme = .blank) : Reads digits r { r with lexeme := .count n.toNat } := by
  obtain ⟨c, rest, rfl⟩ := List.exists_cons_of_ne_nil ne
  obtain ⟨digit, others⟩ := List.forall_mem_cons.mp all
  rw [Nat.ofDigitChars_cons, Nat.mul_zero, Nat.zero_add] at value
  have bound : Nat.ofDigitChars 10 rest (c.toNat - '0'.toNat) < UInt64.size := by
    rw [value]
    exact n.toNat_lt_size
  have read := Reads.digits (r := r) others _ bound
  rw [value] at read
  exact cons (Reading.feed_digit hr digit) read

/-- A count is over where something else than a digit follows, and then waits for its operand. -/
theorem repeated {n : UInt64} (hc : c.isDigit = false)
    (h : Reads (c :: xs) (r.operator (.repeated n)) s) :
    Reads (c :: xs) { r with lexeme := .count n.toNat } s := by
  rw [Reads, List.foldlM_cons] at h ⊢
  have ended : Reading.feed { r with lexeme := .count n.toNat } c =
      (r.operator (.repeated n)).feed c := by
    simp [Reading.feed, hc, Reading.operator]
  rw [ended]
  exact h

theorem nameChars {text : List Char} (h : ∀ c ∈ text, isNameChar c = true) (read : List Char) :
    Reads text { r with lexeme := .name read }
      { r with lexeme := .name (text.reverse ++ read) } := by
  induction text generalizing read with
  | nil => exact nil _
  | cons c rest ih =>
    have kept : Reading.feed { r with lexeme := .name read } c =
        .ok { r with lexeme := .name (c :: read) } := by
      simp [Reading.feed, h c (by simp)]
    rw [List.reverse_cons, List.append_assoc, List.singleton_append]
    exact cons kept (ih (fun x hx => h x (by simp [hx])) (c :: read))

/-- The white space between a name and its colon. -/
theorem colon {name : String} {l : Lexeme} (hl : l = .name name.toList.reverse ∨ l = .label name)
    (hw : Blank ws) :
    Reads (ws ++ [':']) { r with lexeme := l } (r.operator (.capture name)) := by
  have await (c : Char) (hc : isNameChar c = false) :
      Reading.feed { r with lexeme := l } c = Reading.awaitColon { r with lexeme := l } name c := by
    rcases hl with rfl | rfl
    · simp [Reading.feed, hc]
    · rfl
  induction ws generalizing l with
  | nil => exact single (await ':' rfl)
  | cons w ws ih =>
    obtain ⟨first, others⟩ := List.forall_mem_cons.mp hw
    have other : w ≠ ':' := by
      rintro rfl
      cases first
    have step : Reading.feed { r with lexeme := l } w = .ok { r with lexeme := .label name } := by
      rw [await w (space_notNameChar first)]
      simp [Reading.awaitColon, other, first]
    exact cons step (ih (.inr rfl) others (fun c _ => rfl))

theorem label {name : String} (h : isName name = true) (hw : Blank ws) (hr : r.lexeme = .blank) :
    Reads (name.toList ++ ws ++ [':']) r (r.operator (.capture name)) := by
  obtain ⟨c, rest, he, start, others⟩ := isName_cons h
  have read : Reads name.toList r { r with lexeme := .name name.toList.reverse } := by
    rw [he, List.reverse_cons]
    exact cons (Reading.feed_nameStart hr start) (nameChars others [c])
  rw [List.append_assoc]
  exact read.append (colon (.inl rfl) hw)

theorem operator {o : Operator} (ho : o.Spelled xs) (hr : r.lexeme = .blank)
    (ends : o.EndsBefore ys) (h : Reads ys (r.operator o) s) :
    Reads (xs ++ ys) r s := by
  cases ho with
  | negation => exact cons (Reading.feed_blank hr '!') h
  | optional => exact cons (Reading.feed_blank hr '~') h
  | span => exact cons (Reading.feed_blank hr '*') h
  | repeated nonempty all value =>
    obtain ⟨y, head, other⟩ := ends
    obtain ⟨ys, rfl⟩ := List.head?_eq_some_iff.mp head
    exact append (number nonempty all value hr) (repeated other h)
  | capture name hw => exact append (label name hw hr) h

end Reads

end Notation

end TextPattern
