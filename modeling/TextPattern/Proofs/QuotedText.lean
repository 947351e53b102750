import Mathlib.Computability.Language
import TextPattern.Proofs.BalancedPrefix

open scoped Computability

namespace TextPattern

/-- The words that are one character with a property. -/
def charWhere (p : Char → Prop) : Language Char :=
  {w | ∃ x, p x ∧ w = [x]}

/-- What is quoted, through the closing quote: characters that neither close nor escape, and escapes
with any one character after each. -/
def quoteTail (closer escape : Char) : Language Char :=
  (charWhere (fun x => x ≠ closer ∧ x ≠ escape) +
    charWhere (· = escape) * charWhere fun _ => True)∗ * charWhere (· = closer)

/-- Quoted texts, with both quotes. -/
def quotedText (opener closer escape : Char) : Language Char :=
  charWhere (· = opener) * quoteTail closer escape

/-- The first `n` characters of a text are a word of a language. -/
structure Begins (l : Language Char) (text : List Char) (n : Nat) : Prop where
  inside : n ≤ text.length
  mem : text.take n ∈ l

section Words

variable {p : Char → Prop} {l later : Language Char} {opener closer escape x : Char}
  {w text rest : List Char} {n : Nat}

theorem mem_charWhere_mul : w ∈ charWhere p * l ↔ ∃ x u, p x ∧ u ∈ l ∧ w = x :: u := by
  rw [Language.mem_mul]
  constructor
  · rintro ⟨_, ⟨x, hx, rfl⟩, u, hu, rfl⟩
    exact ⟨x, u, hx, hu, rfl⟩
  · rintro ⟨x, u, hx, hu, rfl⟩
    exact ⟨[x], ⟨x, hx, rfl⟩, u, hu, rfl⟩

@[simp] theorem nil_notMem_charWhere_mul : [] ∉ charWhere p * l := by
  simp [mem_charWhere_mul]

@[simp] theorem cons_mem_charWhere_mul : x :: w ∈ charWhere p * l ↔ p x ∧ w ∈ l := by
  simp [mem_charWhere_mul]

theorem quoteTail_eq (closer escape : Char) : quoteTail closer escape =
    charWhere (· = closer) * 1 +
      (charWhere (fun x => x ≠ closer ∧ x ≠ escape) * quoteTail closer escape +
        charWhere (· = escape) * (charWhere (fun _ => True) * quoteTail closer escape)) := by
  rw [mul_one, ← mul_assoc, ← add_mul]
  nth_rewrite 1 [quoteTail]
  rw [← Language.one_add_self_mul_kstar_eq_kstar, add_mul, one_mul, mul_assoc, quoteTail]

@[simp] theorem nil_notMem_quoteTail : [] ∉ quoteTail closer escape := by
  rw [quoteTail_eq]
  simp only [Language.mem_add, nil_notMem_charWhere_mul, or_self, not_false_eq_true]

theorem cons_mem_quoteTail : x :: w ∈ quoteTail closer escape ↔
    x = closer ∧ w ∈ (1 : Language Char) ∨
      (x ≠ closer ∧ x ≠ escape) ∧ w ∈ quoteTail closer escape ∨
        x = escape ∧ w ∈ charWhere (fun _ => True) * quoteTail closer escape := by
  conv_lhs => rw [quoteTail_eq]
  simp only [Language.mem_add, cons_mem_charWhere_mul]

theorem closer_cons_mem (apart : closer ≠ escape) :
    closer :: w ∈ quoteTail closer escape ↔ w ∈ (1 : Language Char) := by
  simp [cons_mem_quoteTail, apart]

theorem escape_cons_mem (apart : closer ≠ escape) : escape :: w ∈ quoteTail closer escape ↔
    w ∈ charWhere (fun _ => True) * quoteTail closer escape := by
  simp [cons_mem_quoteTail, apart.symm]

theorem plain_cons_mem (unclosing : x ≠ closer) (plain : x ≠ escape) :
    x :: w ∈ quoteTail closer escape ↔ w ∈ quoteTail closer escape := by
  simp [cons_mem_quoteTail, unclosing, plain]

theorem nil_notMem_quotedText : [] ∉ quotedText opener closer escape :=
  nil_notMem_charWhere_mul

theorem cons_mem_quotedText :
    x :: w ∈ quotedText opener closer escape ↔ x = opener ∧ w ∈ quoteTail closer escape := by
  rw [quotedText, cons_mem_charWhere_mul]

theorem opener_cons_mem (starts : x = opener) :
    x :: w ∈ quotedText opener closer escape ↔ w ∈ quoteTail closer escape := by
  rw [cons_mem_quotedText, and_iff_right starts]

instance decidableMemQuoteTail (closer escape : Char) :
    (w : List Char) → Decidable (w ∈ quoteTail closer escape)
  | [] => isFalse nil_notMem_quoteTail
  | [x] => decidable_of_iff (x = closer) (by simp [cons_mem_quoteTail, Language.mem_one])
  | x :: y :: w =>
    have := decidableMemQuoteTail closer escape (y :: w)
    have := decidableMemQuoteTail closer escape w
    decidable_of_iff
      ((x ≠ closer ∧ x ≠ escape) ∧ y :: w ∈ quoteTail closer escape ∨
        x = escape ∧ w ∈ quoteTail closer escape)
      (by simp [cons_mem_quoteTail (w := y :: w), Language.mem_one])

instance decidableMemQuotedText (opener closer escape : Char) :
    (w : List Char) → Decidable (w ∈ quotedText opener closer escape)
  | [] => isFalse nil_notMem_quotedText
  | x :: w => decidable_of_iff (x = opener ∧ w ∈ quoteTail closer escape) cons_mem_quotedText.symm

instance [∀ w, Decidable (w ∈ l)] : Decidable (Begins l text n) :=
  decidable_of_iff (n ≤ text.length ∧ text.take n ∈ l)
    ⟨fun ⟨inside, mem⟩ => ⟨inside, mem⟩, fun h => ⟨h.inside, h.mem⟩⟩

theorem Begins.pos (h : Begins l text n) (nonempty : [] ∉ l) : 0 < n := by
  apply Nat.pos_of_ne_zero
  rintro rfl
  exact nonempty h.mem

theorem not_begins_nil (nonempty : [] ∉ l) : ¬Begins l [] n := by
  rintro ⟨-, mem⟩
  rw [List.take_nil] at mem
  exact nonempty mem

theorem begins_one_iff : Begins 1 text n ↔ n = 0 := by
  constructor
  · rintro ⟨inside, mem⟩
    rw [Language.mem_one, List.take_eq_nil_iff] at mem
    rcases mem with rfl | rfl
    · rfl
    · exact Nat.le_zero.mp inside
  · rintro rfl
    exact ⟨Nat.zero_le _, rfl⟩

/-- What begins a text is what begins the rest of it, in the language of what may come after the
first character. -/
theorem begins_cons (step : ∀ w, x :: w ∈ l ↔ w ∈ later) :
    Begins l (x :: rest) (n + 1) ↔ Begins later rest n := by
  constructor
  · rintro ⟨inside, mem⟩
    exact ⟨Nat.le_of_succ_le_succ inside, (step _).mp mem⟩
  · rintro ⟨inside, mem⟩
    exact ⟨Nat.succ_le_succ inside, (step _).mpr mem⟩

theorem begins_subsingleton_cons (nonempty : [] ∉ l) (step : ∀ w, x :: w ∈ l ↔ w ∈ later)
    (unique : {n | Begins later rest n}.Subsingleton) :
    {n | Begins l (x :: rest) n}.Subsingleton := by
  intro m hm n hn
  obtain ⟨m, rfl⟩ := Nat.exists_eq_add_of_le' (hm.pos nonempty)
  obtain ⟨n, rfl⟩ := Nat.exists_eq_add_of_le' (hn.pos nonempty)
  rw [unique ((begins_cons step).mp hm) ((begins_cons step).mp hn)]

/-- No quoted text goes on as another one. -/
theorem begins_quoteTail_subsingleton (apart : closer ≠ escape) (text : List Char) :
    {n | Begins (quoteTail closer escape) text n}.Subsingleton := by
  -- The recursion passes over an escape together with the character after it, as the language does.
  match text with
  | [] => exact fun n hn => absurd hn (not_begins_nil nil_notMem_quoteTail)
  | x :: rest =>
    by_cases escaping : x = escape
    · rw [escaping]
      refine begins_subsingleton_cons nil_notMem_quoteTail (fun _ => escape_cons_mem apart) ?_
      match rest with
      | [] => exact fun n hn => absurd hn (not_begins_nil nil_notMem_charWhere_mul)
      | y :: rest =>
        refine begins_subsingleton_cons nil_notMem_charWhere_mul (fun w => ?_)
          (begins_quoteTail_subsingleton apart rest)
        rw [cons_mem_charWhere_mul, true_and]
    · by_cases closing : x = closer
      · rw [closing]
        refine begins_subsingleton_cons nil_notMem_quoteTail (fun _ => closer_cons_mem apart) ?_
        exact fun m hm n hn => (begins_one_iff.mp hm).trans (begins_one_iff.mp hn).symm
      · exact begins_subsingleton_cons nil_notMem_quoteTail
          (fun _ => plain_cons_mem closing escaping) (begins_quoteTail_subsingleton apart rest)

theorem Begins.head_eq (h : Begins (quotedText opener closer escape) text n) :
    text.head? = some opener := by
  obtain ⟨n, rfl⟩ := Nat.exists_eq_add_of_le' (h.pos nil_notMem_quotedText)
  cases text with
  | nil => exact absurd h (not_begins_nil nil_notMem_quotedText)
  | cons x rest =>
    have mem := h.mem
    rw [List.take_succ_cons, cons_mem_quotedText] at mem
    rw [List.head?_cons, mem.1]

theorem begins_quotedText_subsingleton (apart : closer ≠ escape) (text : List Char) :
    {n | Begins (quotedText opener closer escape) text n}.Subsingleton := by
  intro m hm n hn
  cases text with
  | nil => exact absurd hm (not_begins_nil nil_notMem_quotedText)
  | cons x rest =>
    exact begins_subsingleton_cons nil_notMem_quotedText
      (fun _ => opener_cons_mem (Option.some.inj hm.head_eq))
      (begins_quoteTail_subsingleton apart rest) hm hn

end Words

theorem LeastFound.of_begins_cons {ε : Type} {l later : Language Char} {x : Char}
    {rest : List Char} {acc : Match} {absent : ε} {result : Except ε Match}
    (h : LeastFound (Begins later rest) (acc.skip ++ ⟨·, []⟩) absent result) (nonempty : [] ∉ l)
    (step : ∀ w, x :: w ∈ l ↔ w ∈ later) :
    LeastFound (Begins l (x :: rest)) (acc ++ ⟨·, []⟩) absent result := by
  refine h.of_later (fun _ h => h.pos nonempty) (fun _ => begins_cons step) fun n => ?_
  rw [← Matcher.append_one, Match.append_assoc]
  congr 1
  exact congrArg (Match.mk · []) (Nat.add_comm 1 n)

theorem leastFound_begins_nil {ε α : Type} {l : Language Char} (nonempty : [] ∉ l)
    (found : Nat → α) (absent : ε) : LeastFound (Begins l []) found absent (.error absent) :=
  .absent fun _ => not_begins_nil nonempty

theorem leastFound_begins_one {ε : Type} (rest : List Char) (acc : Match) (absent : ε) :
    LeastFound (Begins 1 rest) (acc ++ ⟨·, []⟩) absent (.ok acc) := by
  have first : IsLeast {n | Begins 1 rest n} 0 :=
    ⟨begins_one_iff.mpr rfl, fun n _ => Nat.zero_le n⟩
  have found : LeastFound (Begins 1 rest) (acc ++ ⟨·, []⟩) absent (.ok (acc ++ .empty)) :=
    .least first
  rwa [Match.append_empty] at found

namespace Matcher

variable {ε : Type} {closer escape : Char}

/-- The matcher of one given character. -/
def only (c : Char) : Matcher Unit :=
  char (Comparison.matchCase.sameChar c) () ()

theorem run_only_of_eq {c x : Char} (h : x = c) (offset : Nat) (rest : List Char) :
    (only c).run ⟨offset, x :: rest⟩ = .ok ⟨1, []⟩ :=
  run_char_accepted (by simp [Comparison.sameChar, h]) _ _ _ _

theorem run_only_of_ne {c x : Char} (h : x ≠ c) (offset : Nat) (rest : List Char) :
    (only c).run ⟨offset, x :: rest⟩ = .error () :=
  run_char_refused (by simpa [Comparison.sameChar] using h.symm) _ _ _ _

/-- The scan reads what is quoted: it stops behind the closing quote of a quoted text, and it fails
only where no quoted text begins. -/
theorem throughUnescaped_leastFound (apart : closer ≠ escape) (unclosed : ε) (acc : Match)
    (offset : Nat) (text : List Char) :
    LeastFound (Begins (quoteTail closer escape) text) (acc ++ ⟨·, []⟩) unclosed
      ((only closer).throughUnescaped (only escape) unclosed acc ⟨offset, text⟩) := by
  match text with
  | [] =>
    rw [throughUnescaped]
    exact leastFound_begins_nil nil_notMem_quoteTail _ _
  | x :: rest =>
    by_cases escaping : x = escape
    · rw [throughUnescaped, run_only_of_eq escaping, escaping]
      simp only [append_one]
      -- Whatever character comes after the escape, the quoted text goes on behind it.
      refine .of_begins_cons ?_ nil_notMem_quoteTail (fun _ => escape_cons_mem apart)
      match rest with
      | [] => exact leastFound_begins_nil nil_notMem_charWhere_mul _ _
      | y :: rest =>
        have scan := throughUnescaped_leastFound apart unclosed acc.skip.skip (offset + 2) rest
        refine scan.of_begins_cons nil_notMem_charWhere_mul fun w => ?_
        rw [cons_mem_charWhere_mul, true_and]
    · by_cases closing : x = closer
      · rw [throughUnescaped, run_only_of_ne escaping, run_only_of_eq closing, closing]
        simp only [append_one]
        exact (leastFound_begins_one rest acc.skip unclosed).of_begins_cons nil_notMem_quoteTail
          fun _ => closer_cons_mem apart
      · rw [throughUnescaped, run_only_of_ne escaping, run_only_of_ne closing]
        have scan := throughUnescaped_leastFound apart unclosed acc.skip (offset + 1) rest
        exact scan.of_begins_cons nil_notMem_quoteTail fun _ => plain_cons_mem closing escaping

end Matcher

namespace Pattern

variable {opener closer escape : Char}

theorem ofChar_sameMatches (c : Char) :
    ((ofChar c).matcher .consume).SameMatches (Matcher.only c) :=
  oneChar_sameMatches rfl

theorem escapedRange_matcher (f : Pattern) (closer escape : Char) :
    (escapedRange f (ofChar closer) (ofChar escape)).matcher .consume =
      (f.matcher .consume).escapedRange (Matcher.only closer) (Matcher.only escape)
        (.endOfSource (ofChar closer)) := by
  have closing := (ofChar closer).attempt_sameMatches.trans (ofChar_sameMatches closer)
  have escaping := (ofChar escape).attempt_sameMatches.trans (ofChar_sameMatches escape)
  exact closing.escapedRange escaping _ _

theorem escapedRange_leastFound (apart : closer ≠ escape) {place : Point}
    (first : place.rest.head? = some opener) :
    LeastFound (Begins (quotedText opener closer escape) place.rest) (⟨·, []⟩)
      (.endOfSource (ofChar closer))
      ((escapedRange (ofChar opener) (ofChar closer) (ofChar escape)).run .consume place) := by
  obtain ⟨offset, text⟩ := place
  cases text with
  | nil => cases first
  | cons x rest =>
    have starts : x = opener := Option.some.inj first
    have opened : ((ofChar opener).matcher .consume).run ⟨offset, x :: rest⟩ = .ok ⟨1, []⟩ :=
      (ofChar_sameMatches opener _ _).mpr (Matcher.run_only_of_eq starts _ _)
    have scan := Matcher.throughUnescaped_leastFound apart
      (MatchError.endOfSource (ofChar closer)) (.skip .empty) (offset + 1) rest
    rw [run, escapedRange_matcher, Matcher.escapedRange]
    simp only [opened]
    have whole : LeastFound (Begins (quotedText opener closer escape) (x :: rest))
        (Match.empty ++ ⟨·, []⟩) _ _ :=
      scan.of_begins_cons nil_notMem_quotedText fun _ => opener_cons_mem starts
    simp only [Match.empty_append] at whole
    exact whole

theorem escapedRange_unopened {place : Point} (first : place.rest.head? ≠ some opener)
    (m : Match) :
    (escapedRange (ofChar opener) (ofChar closer) (ofChar escape)).run .consume place ≠ .ok m := by
  intro h
  rw [run, escapedRange_matcher] at h
  obtain ⟨k, hk, -⟩ := Matcher.run_escapedRange_ok h
  have hk := (ofChar_sameMatches opener _ _).mp hk
  obtain ⟨x, rest, hr, taken, -⟩ := Matcher.run_char_ok_iff.mp hk
  rw [hr, List.head?_cons] at first
  exact first (congrArg some (eq_of_beq taken).symm)

/-- A range between two characters that an escape protects takes a quoted text, and there is never
more than one to take. Where no quoted text begins, though the opener does, the range lacks its
closer. -/
theorem escapedRange_quoted (apart : closer ≠ escape) (opener : Char) (c : Cursor) :
    let p := escapedRange (ofChar opener) (ofChar closer) (ofChar escape)
    let text := c.point.rest
    (∀ m, (c.run p .consume).1 = .ok m ↔
        Begins (quotedText opener closer escape) text m.length ∧ m.captures = []) ∧
      {n | Begins (quotedText opener closer escape) text n}.Subsingleton ∧
      (text.head? = some opener → (¬∃ n, Begins (quotedText opener closer escape) text n) →
        c.run p .consume = (.error (.endOfSource (ofChar closer)), c)) := by
  intro p text
  rw [Cursor.run_fst]
  have unique : {n | Begins (quotedText opener closer escape) text n}.Subsingleton :=
    begins_quotedText_subsingleton apart text
  by_cases first : text.head? = some opener
  · have scan := escapedRange_leastFound apart first
    generalize result : p.run .consume c.point = r at scan ⊢
    cases scan with
    | @least n least =>
      refine ⟨fun m => ?_, unique, fun _ none => absurd ⟨n, least.1⟩ none⟩
      constructor
      · rintro ⟨⟩
        exact ⟨least.1, rfl⟩
      · rintro ⟨quoted, bare⟩
        obtain ⟨length, captures⟩ := m
        cases bare
        rw [unique least.1 quoted]
    | absent none =>
      refine ⟨fun m => ?_, unique, fun _ _ => Cursor.run_error result⟩
      exact ⟨nofun, fun h => absurd h.1 (none _)⟩
  · refine ⟨fun m => ?_, unique, fun first' => absurd first' first⟩
    exact ⟨fun h => absurd h (escapedRange_unopened first m), fun h => absurd h.1.head_eq first⟩

/-- An escaped quote does not close, and after an escaped escape one does. -/
theorem escapedRange_quoted_of_marks :
    let p := escapedRange (ofChar '"') (ofChar '"') (ofChar '\\')
    let unclosed := Cursor.start ['"', 'a', '\\', '"']
    ((Cursor.start ['"', '\\', '"', 'a', '\\', '\\', '"', 'b']).run p .consume).1 = .ok ⟨7, []⟩ ∧
      unclosed.run p .consume = (.error (.endOfSource (ofChar '"')), unclosed) := by
  have apart : '"' ≠ '\\' := by decide
  have quoted := escapedRange_quoted apart '"'
  constructor
  · exact ((quoted _).1 _).mpr ⟨by decide, rfl⟩
  · refine (quoted _).2.2 rfl ?_
    rintro ⟨n, h⟩
    have never : ∀ n < 5, ¬Begins (quotedText '"' '"' '\\') ['"', 'a', '\\', '"'] n := by decide
    exact never n (Nat.lt_succ_of_le h.inside) h

end Pattern

end TextPattern
