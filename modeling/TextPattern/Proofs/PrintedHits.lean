import TextPattern.Proofs.LineNumbering

namespace TextPattern

/-- Valid values are written in such a way that it can be told which one it is and where it ends,
whatever comes after it. -/
def SelfDelimiting {α : Type} (valid : α → Prop) (write : α → List Char) : Prop :=
  ∀ ⦃a b xs ys⦄, valid a → valid b → write a ++ xs = write b ++ ys → a = b ∧ xs = ys

namespace SelfDelimiting

variable {α : Type} {valid : α → Prop} {write : α → List Char} {as bs : List α} {us vs : List Char}
  {mark : Char}

/-- Values written one after another can be told up to what none of them begins with. -/
theorem flatMap_append (h : SelfDelimiting valid write)
    (hu : ∀ a xs, valid a → write a ++ xs ≠ us) (hv : ∀ a xs, valid a → write a ++ xs ≠ vs)
    (has : ∀ a ∈ as, valid a) (hbs : ∀ b ∈ bs, valid b)
    (same : as.flatMap write ++ us = bs.flatMap write ++ vs) : as = bs ∧ us = vs := by
  induction as generalizing bs with
  | nil =>
    cases bs with
    | nil => exact ⟨rfl, same⟩
    | cons b bs =>
      rw [List.flatMap_cons, List.append_assoc] at same
      exact absurd same.symm (hu b _ (hbs b List.mem_cons_self))
  | cons a as ih =>
    rw [List.flatMap_cons, List.append_assoc] at same
    cases bs with
    | nil => exact absurd same (hv a _ (has a List.mem_cons_self))
    | cons b bs =>
      rw [List.flatMap_cons, List.append_assoc] at same
      obtain ⟨ha, later⟩ := List.forall_mem_cons.mp has
      obtain ⟨hb, others⟩ := List.forall_mem_cons.mp hbs
      obtain ⟨rfl, rest⟩ := h ha hb same
      obtain ⟨rfl, ends⟩ := ih later others rest
      exact ⟨rfl, ends⟩

theorem flatMap_mark (h : SelfDelimiting valid write)
    (apart : ∀ a xs ys, valid a → write a ++ xs ≠ mark :: ys)
    (has : ∀ a ∈ as, valid a) (hbs : ∀ b ∈ bs, valid b)
    (same : as.flatMap write ++ mark :: us = bs.flatMap write ++ mark :: vs) :
    as = bs ∧ us = vs := by
  obtain ⟨values, rest⟩ := h.flatMap_append (fun a xs ha => apart a xs us ha)
    (fun a xs ha => apart a xs vs ha) has hbs same
  exact ⟨values, List.tail_eq_of_cons_eq rest⟩

theorem flatMap_inj (h : SelfDelimiting valid write) (some_char : ∀ a, write a ≠ [])
    (has : ∀ a ∈ as, valid a) (hbs : ∀ b ∈ bs, valid b)
    (same : as.flatMap write = bs.flatMap write) : as = bs := by
  have nonempty (a : α) (xs : List Char) (_ : valid a) : write a ++ xs ≠ [] :=
    List.append_ne_nil_of_left_ne_nil (some_char a) xs
  refine (h.flatMap_append nonempty nonempty has hbs ?_).1
  rw [List.append_nil, List.append_nil, same]

end SelfDelimiting

/-- A word ends at the first mark. -/
theorem word_mark {xs ys us vs : List Char} {mark : Char} (hx : mark ∉ xs) (hy : mark ∉ ys)
    (same : xs ++ mark :: us = ys ++ mark :: vs) : xs = ys ∧ us = vs := by
  have single : SelfDelimiting (· ≠ mark) fun c => [c] := fun _ _ _ _ _ _ same =>
    ⟨List.head_eq_of_cons_eq same, List.tail_eq_of_cons_eq same⟩
  refine single.flatMap_mark (fun c us vs other eq => other (List.head_eq_of_cons_eq eq))
    (List.forall_mem_ne'.mpr hx) (List.forall_mem_ne'.mpr hy) ?_
  rwa [List.flatMap_singleton', List.flatMap_singleton']

section Digits

variable {base m n : Nat} {us vs : List Char} {mark : Char}

theorem digitChar_inj (hm : m < 16) (hn : n < 16) (same : m.digitChar = n.digitChar) : m = n := by
  have all : ∀ m < 16, ∀ n < 16, m.digitChar = n.digitChar → m = n := by decide
  exact all m hm n hn same

theorem toDigits_inj (large : 1 < base) (small : base ≤ 16)
    (same : Nat.toDigits base m = Nat.toDigits base n) : m = n := by
  have expand (k : Nat) := @Nat.toDigits_eq_if base k large
  have digit (k : Nat) : k % base < 16 := Nat.lt_of_lt_of_le (Nat.mod_lt k (by omega)) small
  have longer (k : Nat) (c d : Char) : ¬Nat.toDigits base k ++ [c] = [d] := by
    simp [List.append_eq_singleton_iff, Nat.toDigits_ne_nil]
  induction m using Nat.strongRecOn generalizing n with
  | ind m ih =>
    rw [expand m, expand n] at same
    by_cases hm : m < base <;> by_cases hn : n < base
    · rw [if_pos hm, if_pos hn] at same
      exact digitChar_inj (by omega) (by omega) (List.singleton_inj.mp same)
    · rw [if_pos hm, if_neg hn] at same
      exact absurd same.symm (longer _ _ _)
    · rw [if_neg hm, if_pos hn] at same
      exact absurd same (longer _ _ _)
    · rw [if_neg hm, if_neg hn] at same
      obtain ⟨before, last⟩ := List.append_singleton_inj.mp same
      have high := ih _ (Nat.div_lt_self (by omega) large) before
      have low := digitChar_inj (digit m) (digit n) last
      rw [← Nat.div_add_mod m base, high, low, Nat.div_add_mod]

/-- A number ends at a mark that is no digit. -/
theorem toDigits_mark (large : 1 < base) (small : base ≤ 16)
    (apart : ∀ d : Nat, d.digitChar ≠ mark)
    (same : Nat.toDigits base m ++ mark :: us = Nat.toDigits base n ++ mark :: vs) :
    m = n ∧ us = vs := by
  have unmarked (k : Nat) : mark ∉ Nat.toDigits base k := by
    intro inside
    obtain ⟨d, hd⟩ := Text.exists_digitChar large inside
    exact apart d hd
  obtain ⟨digits, rest⟩ := word_mark (unmarked m) (unmarked n) same
  exact ⟨toDigits_inj large small digits, rest⟩

end Digits

namespace Text

variable {a b : Char} {us vs xs ys : List Char}

/-- What an escape of one letter stands for. -/
def unescaped : Char → Char
  | '0' => '\x00'
  | 't' => '\t'
  | 'n' => '\n'
  | 'r' => '\r'
  | c => c

/-- The forms that a character can have between double quotes. What comes after a backslash tells
the first from the last. -/
inductive Spelled : Char → List Char → Prop
  | letter {c} (short : c ≠ 'u') : Spelled (unescaped c) ['\\', c]
  | itself {c} (unescaping : c ≠ '\\') (unclosing : c ≠ '"') : Spelled c [c]
  | numbered {c} : Spelled c (codePoint c)

theorem spelled_escaped (c : Char) : Spelled c (escaped '"' c) := by
  unfold escaped
  split
  next null =>
    rw [beq_iff_eq.mp null]
    exact .letter (c := '0') (by decide)
  split
  next tab =>
    rw [beq_iff_eq.mp tab]
    exact .letter (c := 't') (by decide)
  split
  next feed =>
    rw [beq_iff_eq.mp feed]
    exact .letter (c := 'n') (by decide)
  split
  next back =>
    rw [beq_iff_eq.mp back]
    exact .letter (c := 'r') (by decide)
  split
  next marked =>
    rcases Bool.or_eq_true_iff.mp marked with slash | quote
    · rw [beq_iff_eq.mp slash]
      exact .letter (c := '\\') (by decide)
    · rw [beq_iff_eq.mp quote]
      exact .letter (c := '"') (by decide)
  next unmarked =>
    split
    · rw [Bool.or_eq_true_iff, beq_iff_eq, beq_iff_eq, not_or] at unmarked
      exact .itself unmarked.1 unmarked.2
    · exact .numbered

theorem Spelled.unclosing (h : Spelled a us) : us ++ xs ≠ '"' :: ys := by
  intro same
  cases h with
  | letter => cases same
  | itself _ unclosing => exact unclosing (List.head_eq_of_cons_eq same)
  | numbered => cases same

theorem Spelled.unique (ha : Spelled a us) (hb : Spelled b vs) (same : us ++ xs = vs ++ ys) :
    a = b ∧ xs = ys := by
  cases ha with
  | letter short =>
    cases hb with
    | letter =>
      cases same
      exact ⟨rfl, rfl⟩
    | itself unescaping =>
      cases same
      exact absurd rfl unescaping
    | numbered =>
      cases same
      exact absurd rfl short
  | itself unescaping =>
    cases hb with
    | letter =>
      cases same
      exact absurd rfl unescaping
    | itself =>
      cases same
      exact ⟨rfl, rfl⟩
    | numbered =>
      cases same
      exact absurd rfl unescaping
  | numbered =>
    cases hb with
    | letter short =>
      cases same
      exact absurd rfl short
    | itself unescaping =>
      cases same
      exact absurd rfl unescaping
    | numbered =>
      simp only [codePoint, List.append_assoc] at same
      obtain ⟨number, rest⟩ := toDigits_mark (by decide) (by decide)
        (fun d => Nat.digitChar_ne '\x7d' rfl) (List.append_cancel_left same)
      exact ⟨Char.toNat_inj.mp number, rest⟩

theorem escaped_selfDelimiting : SelfDelimiting (fun _ => True) (escaped '"') :=
  fun a b _ _ _ _ same => (spelled_escaped a).unique (spelled_escaped b) same

theorem quoted_append (same : quoted '"' us ++ xs = quoted '"' vs ++ ys) : us = vs ∧ xs = ys := by
  simp only [quoted, List.cons_append, List.append_assoc, List.nil_append] at same
  exact escaped_selfDelimiting.flatMap_mark (fun a _ _ _ => (spelled_escaped a).unclosing)
    (fun _ _ => trivial) (fun _ _ => trivial) (List.tail_eq_of_cons_eq same)

end Text

/-- What a line shows of a capture. -/
def Capture.label (k : Capture) : String × List Char :=
  (k.name, k.text)

/-- A capture in a line, with the space before it. -/
def labelled (label : String × List Char) : List Char :=
  ' ' :: (label.1.toList ++ '=' :: Text.quoted '"' label.2)

theorem labelled_selfDelimiting :
    SelfDelimiting (fun label => Notation.isName label.1 = true) labelled := by
  intro a b xs ys ha hb same
  have unmarked {name : String} (h : Notation.isName name = true) : '=' ∉ name.toList :=
    Notation.notMem_name h (by decide)
  simp only [labelled, List.cons_append, List.append_assoc] at same
  obtain ⟨name, rest⟩ := word_mark (unmarked ha) (unmarked hb) (List.tail_eq_of_cons_eq same)
  obtain ⟨text, rest⟩ := Text.quoted_append rest
  exact ⟨Prod.ext (String.toList_inj.mp name) text, rest⟩

namespace Hit.Printable

variable {text : List Char} {g h : Hit}

theorem length_text (hh : h.Printable text) : (h.text text).length = h.length := by
  have inside := hh.inside
  simp only [Hit.text, List.length_take, List.length_drop, Hit.length]
  omega

theorem stop_eq (hg : g.Printable text) (hh : h.Printable text) (start : g.start = h.start)
    (same : g.text text = h.text text) : g.stop = h.stop := by
  have length : g.length = h.length := by
    rw [← hg.length_text, ← hh.length_text, same]
  have ordered := hg.ordered
  have ordered' := hh.ordered
  simp only [Hit.length] at length
  omega

theorem labels (hh : h.Printable text) :
    ∀ label ∈ h.captures.map Capture.label, Notation.isName label.1 = true :=
  List.forall_mem_map.mpr hh.names

end Hit.Printable

namespace Report

variable {r : Report} {g h : Hit}

theorem hit?_eq (plain : r.colored = false) (hh : h.Printable r.text) :
    r.hit? h = some (Nat.toDigits 10 (r.position h.start).line ++ ':' ::
      (Nat.toDigits 10 (r.position h.start).column ++ ':' :: ' ' ::
        (Text.quoted '"' (h.text r.text) ++ (h.captures.map Capture.label).flatMap labelled))) := by
  have inside : h.stop ≤ r.length := by
    rw [r.length_eq]
    exact hh.inside
  rw [hit?, if_pos ⟨hh.ordered, inside⟩, List.flatMap_map]
  simp only [location, paint_plain plain, capture, labelled, Capture.label, List.append_assoc,
    List.cons_append, List.nil_append]

/-- A hit is printed on one line, from which it can be told where the hit begins and ends, and what
was captured under which names, in their order. -/
theorem printed_hits_unambiguous (plain : r.colored = false) (hg : g.Printable r.text)
    (hh : h.Printable r.text) :
    (∃ line, r.hit? g = some line ∧ Text.OneLine line) ∧
      (r.hit? g = r.hit? h → g.start = h.start ∧ g.stop = h.stop ∧
        g.captures.map Capture.label = h.captures.map Capture.label) := by
  refine ⟨line_of_printable plain hg, fun same => ?_⟩
  rw [hit?_eq plain hg, hit?_eq plain hh, Option.some.injEq] at same
  have colon (d : Nat) : d.digitChar ≠ ':' := Nat.digitChar_ne ':' rfl
  obtain ⟨line, same⟩ := toDigits_mark (by decide) (by decide) colon same
  obtain ⟨column, same⟩ := toDigits_mark (by decide) (by decide) colon same
  obtain ⟨text, same⟩ := Text.quoted_append (List.tail_eq_of_cons_eq same)
  -- The text that is shown has as many characters as the hit, though it may be found elsewhere too.
  have start : g.start = h.start := by
    refine r.position_injOn (hg.ordered.trans hg.inside) (hh.ordered.trans hh.inside) ?_
    rw [Text.Position.mk.injEq]
    exact ⟨line, column⟩
  have captures := labelled_selfDelimiting.flatMap_inj (fun label => List.cons_ne_nil ' ' _)
    hg.labels hh.labels same
  exact ⟨start, hg.stop_eq hh start text, captures⟩

/-- A capture whose text reads like the end of one capture and the beginning of another is not taken
for two. -/
theorem printed_hits_unambiguous_of_quotes :
    let text := ['1', '"', ' ', 'y', '=', '"', '2']
    let r := Report.ofText text false
    let g : Hit := ⟨0, 7, [⟨"x", 0, text⟩]⟩
    let h : Hit := ⟨0, 7, [⟨"x", 0, ['1']⟩, ⟨"y", 6, ['2']⟩]⟩
    (∃ line, r.hit? g = some line ∧ Text.OneLine line) ∧ r.hit? g ≠ r.hit? h := by
  intro text r g h
  have hg : g.Printable r.text := ⟨by decide, by decide, by decide⟩
  have hh : h.Printable r.text := ⟨by decide, by decide, by decide⟩
  obtain ⟨line, told⟩ := printed_hits_unambiguous rfl hg hh
  exact ⟨line, fun same => absurd (told same).2.2 (by decide)⟩

end Report

end TextPattern
