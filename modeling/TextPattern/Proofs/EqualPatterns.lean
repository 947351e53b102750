import TextPattern.Proofs.Agreement
import TextPattern.Proofs.TestIdentity

namespace TextPattern

namespace Comparison

/-- What a comparison sees of a character. -/
def view : Comparison → Char → List Char
  | matchCase, c => [c]
  | ignoreCase, c => Unicode.lower c

variable {k : Comparison}

theorem sameChar_iff {a b : Char} : k.sameChar a b ↔ k.view a = k.view b := by
  cases k with
  | matchCase => simp [sameChar, view]
  | ignoreCase =>
    simp only [sameChar, view, Bool.or_eq_true, beq_iff_eq]
    constructor
    · rintro (rfl | same)
      · rfl
      · exact same
    · exact .inr

theorem sameText_iff {xs ys : List Char} : k.sameText xs ys ↔ xs.map k.view = ys.map k.view := by
  induction xs generalizing ys with
  | nil => cases ys <;> simp [sameText]
  | cons x xs ih =>
    cases ys with
    | nil => simp [sameText]
    | cons y ys => simp [sameText, sameChar_iff, ih]

/-- Characters that look the same are the same as the same others. -/
theorem sameChar_congr {a b : Char} (h : k.sameChar a b) (c : Char) :
    k.sameChar a c = k.sameChar b c := by
  rw [Bool.eq_iff_iff, sameChar_iff, sameChar_iff, sameChar_iff.mp h]

theorem sameText_congr {xs ys : List Char} (h : k.sameText xs ys) (text : List Char) :
    k.sameText xs text = k.sameText ys text := by
  rw [Bool.eq_iff_iff, sameText_iff, sameText_iff, sameText_iff.mp h]

end Comparison

namespace Pattern

/-- Two patterns of one shape, with the same counts and names in it, of which the tests stand in a
relation and the literals are the same text to their common comparison. -/
inductive Alike (same : CharTest → CharTest → Prop) : Pattern → Pattern → Prop
  | literal {k : Comparison} {xs ys : List Char} : k.sameText xs ys = true →
      Alike same (literal ⟨xs, k⟩) (literal ⟨ys, k⟩)
  | test {s t : CharTest} : same s t → Alike same (test s) (test t)
  | seq {a b c d : Pattern} : Alike same a c → Alike same b d → Alike same (seq a b) (seq c d)
  | alt {a b c d : Pattern} : Alike same a c → Alike same b d → Alike same (alt a b) (alt c d)
  | optional {a b : Pattern} : Alike same a b → Alike same (optional a) (optional b)
  | span {a b : Pattern} : Alike same a b → Alike same (span a) (span b)
  | repeated {a b : Pattern} (count : UInt64) : Alike same a b →
      Alike same (repeated a count) (repeated b count)
  | negation {a b : Pattern} : Alike same a b → Alike same (negation a) (negation b)
  | range {a b c d : Pattern} : Alike same a c → Alike same b d →
      Alike same (range a b) (range c d)
  | escapedRange {a b c d e f : Pattern} : Alike same a d → Alike same b e → Alike same c f →
      Alike same (escapedRange a b c) (escapedRange d e f)
  | nestedRange {a b c d : Pattern} : Alike same a c → Alike same b d →
      Alike same (nestedRange a b) (nestedRange c d)
  | capture {a b : Pattern} (name : String) : Alike same a b →
      Alike same (capture a name) (capture b name)

/-- Equality asks of tests for their labels only. -/
theorem equal_iff_alike {p q : Pattern} :
    (p == q) = true ↔ p.Alike (fun s t => s.label = t.label) q := by
  change p.equal q = true ↔ _
  constructor
  · intro h
    fun_induction equal p q with
    | case1 a b =>
      obtain ⟨xs, k⟩ := a
      obtain ⟨ys, l⟩ := b
      obtain ⟨comparison, text⟩ : k = l ∧ k.sameText xs ys = true := by
        simpa [BEq.beq] using h
      cases comparison
      exact .literal text
    | case2 s t => exact .test (by simpa [BEq.beq] using h)
    | case3 a b c d iha ihb =>
      obtain ⟨left, right⟩ := Bool.and_eq_true_iff.mp h
      exact .seq (iha left) (ihb right)
    | case4 a b c d iha ihb =>
      obtain ⟨left, right⟩ := Bool.and_eq_true_iff.mp h
      exact .alt (iha left) (ihb right)
    | case5 a b ih => exact .optional (ih h)
    | case6 a b ih => exact .span (ih h)
    | case7 a m b n ih =>
      obtain ⟨count, inner⟩ := Bool.and_eq_true_iff.mp h
      cases eq_of_beq count
      exact .repeated m (ih inner)
    | case8 a b ih => exact .negation (ih h)
    | case9 a b c d iha ihb =>
      obtain ⟨opener, closer⟩ := Bool.and_eq_true_iff.mp h
      exact .range (iha opener) (ihb closer)
    | case10 a b c d e f iha ihb ihc =>
      obtain ⟨both, escape⟩ := Bool.and_eq_true_iff.mp h
      obtain ⟨opener, closer⟩ := Bool.and_eq_true_iff.mp both
      exact .escapedRange (iha opener) (ihb closer) (ihc escape)
    | case11 a b c d iha ihb =>
      obtain ⟨opener, closer⟩ := Bool.and_eq_true_iff.mp h
      exact .nestedRange (iha opener) (ihb closer)
    | case12 a m b n ih =>
      obtain ⟨name, inner⟩ := Bool.and_eq_true_iff.mp h
      cases eq_of_beq name
      exact .capture m (ih inner)
    | case13 => cases h
  · intro h
    induction h with
    | literal h => simpa [equal, BEq.beq] using h
    | test h => simpa [equal, BEq.beq] using h
    | _ => simp_all [equal]

namespace Alike

variable {same other : CharTest → CharTest → Prop} {p q r : Pattern}

theorem symm (h : p.Alike same q) (back : ∀ s t, same s t → other t s) : q.Alike other p := by
  induction h with
  | @literal k xs ys text =>
    exact .literal (Comparison.sameText_iff.mpr (Comparison.sameText_iff.mp text).symm)
  | test h => exact .test (back _ _ h)
  | seq _ _ ihl ihr => exact .seq ihl ihr
  | alt _ _ ihl ihr => exact .alt ihl ihr
  | optional _ ih => exact .optional ih
  | span _ ih => exact .span ih
  | repeated count _ ih => exact .repeated count ih
  | negation _ ih => exact .negation ih
  | range _ _ iho ihc => exact .range iho ihc
  | escapedRange _ _ _ iho ihc ihe => exact .escapedRange iho ihc ihe
  | nestedRange _ _ iho ihc => exact .nestedRange iho ihc
  | capture name _ ih => exact .capture name ih

theorem trans (h : p.Alike same q) (h' : q.Alike same r)
    (join : ∀ s t u, same s t → same t u → same s u) : p.Alike same r := by
  induction h generalizing r with
  | literal text =>
    cases h' with
    | literal text' => exact .literal ((Comparison.sameText_congr text _).trans text')
  | test h =>
    cases h' with
    | test h' => exact .test (join _ _ _ h h')
  | seq _ _ ihl ihr =>
    cases h' with
    | seq left right => exact .seq (ihl left) (ihr right)
  | alt _ _ ihl ihr =>
    cases h' with
    | alt left right => exact .alt (ihl left) (ihr right)
  | optional _ ih =>
    cases h' with
    | optional inner => exact .optional (ih inner)
  | span _ ih =>
    cases h' with
    | span inner => exact .span (ih inner)
  | repeated count _ ih =>
    cases h' with
    | repeated _ inner => exact .repeated count (ih inner)
  | negation _ ih =>
    cases h' with
    | negation inner => exact .negation (ih inner)
  | range _ _ iho ihc =>
    cases h' with
    | range opener closer => exact .range (iho opener) (ihc closer)
  | escapedRange _ _ _ iho ihc ihe =>
    cases h' with
    | escapedRange opener closer escape =>
      exact .escapedRange (iho opener) (ihc closer) (ihe escape)
  | nestedRange _ _ iho ihc =>
    cases h' with
    | nestedRange opener closer => exact .nestedRange (iho opener) (ihc closer)
  | capture name _ ih =>
    cases h' with
    | capture _ inner => exact .capture name (ih inner)

theorem imp_of_mem (h : p.Alike same q)
    (imp : ∀ s ∈ p.tests, ∀ t ∈ q.tests, same s t → other s t) : p.Alike other q := by
  induction h with
  | literal text => exact .literal text
  | test h => exact .test (imp _ (List.mem_singleton.mpr rfl) _ (List.mem_singleton.mpr rfl) h)
  | seq _ _ ihl ihr | alt _ _ ihl ihr | range _ _ ihl ihr | nestedRange _ _ ihl ihr =>
    constructor
    · exact ihl fun s hs t ht => imp s (List.mem_append_left _ hs) t (List.mem_append_left _ ht)
    · exact ihr fun s hs t ht => imp s (List.mem_append_right _ hs) t (List.mem_append_right _ ht)
  | optional _ ih => exact .optional (ih imp)
  | span _ ih => exact .span (ih imp)
  | repeated count _ ih => exact .repeated count (ih imp)
  | negation _ ih => exact .negation (ih imp)
  | escapedRange _ _ _ iho ihc ihe =>
    refine .escapedRange (iho fun s hs t ht => imp s ?_ t ?_) (ihc fun s hs t ht => imp s ?_ t ?_)
      (ihe fun s hs t ht => imp s ?_ t ?_)
    all_goals simp [tests, *]
  | capture name _ ih => exact .capture name (ih imp)

theorem nullable (h : p.Alike same q) (mode : Mode) : p.nullable mode = q.nullable mode := by
  induction h generalizing mode with
  | @literal k xs ys text =>
    have width := Comparison.sameText_length text
    cases mode with
    | consume => cases xs <;> cases ys <;> simp_all [Pattern.nullable]
    | neglect => rfl
  | test _ => cases mode <;> rfl
  | seq _ _ ihl ihr | alt _ _ ihl ihr | range _ _ ihl ihr | nestedRange _ _ ihl ihr =>
    cases mode with
    | consume => simp only [Pattern.nullable, ihl, ihr]
    | neglect => rfl
  | optional _ _ => cases mode <;> rfl
  | span _ _ => cases mode <;> rfl
  | repeated count _ ih =>
    cases mode with
    | consume => simp only [Pattern.nullable, ih]
    | neglect => rfl
  | negation _ ih => simp only [Pattern.nullable, ih]
  | escapedRange _ _ _ iho ihc _ =>
    cases mode with
    | consume => simp only [Pattern.nullable, iho, ihc]
    | neglect => rfl
  | capture name _ ih => simp only [Pattern.nullable, ih]

theorem header_literal {k : Comparison} {xs ys : List Char} (text : k.sameText xs ys = true)
    (mode : Mode) (ahead : List Char) :
    (Pattern.literal ⟨xs, k⟩).header mode ahead = (Pattern.literal ⟨ys, k⟩).header mode ahead := by
  have width := Comparison.sameText_length text
  cases xs with
  | nil =>
    cases ys with
    | nil => rfl
    | cons y ys => cases width
  | cons x xs =>
    cases ys with
    | nil => cases width
    | cons y ys =>
      have first : k.sameChar x y := (Bool.and_eq_true_iff.mp text).1
      have same := Comparison.sameChar_congr first
      cases mode with
      | consume => cases ahead <;> simp [Pattern.header, same]
      | neglect =>
        -- of a text of one character that character counts, of a longer one only the length
        cases xs with
        | nil =>
          cases ys with
          | nil => cases ahead <;> simp [Pattern.header, same]
          | cons z ys => cases width
        | cons z xs =>
          cases ys with
          | nil => cases width
          | cons z ys => simp only [Pattern.header, Literal.width, width]

theorem header (h : p.Alike (fun s t => s.accepts = t.accepts) q) (mode : Mode)
    (ahead : List Char) : p.header mode ahead = q.header mode ahead := by
  induction h generalizing mode with
  | literal text => exact header_literal text mode ahead
  | @test s t h => cases mode <;> simp only [Pattern.header, h]
  | seq hl _ ihl ihr =>
    cases mode with
    | consume => simp only [Pattern.header, ihl, ihr, hl.nullable]
    | neglect => rfl
  | alt _ _ ihl ihr =>
    cases mode with
    | consume => simp only [Pattern.header, ihl, ihr]
    | neglect => rfl
  | optional _ _ => cases mode <;> rfl
  | span _ _ => cases mode <;> rfl
  | repeated count _ ih =>
    cases mode with
    | consume => simp only [Pattern.header, ih]
    | neglect => rfl
  | negation _ ih => simp only [Pattern.header, ih]
  | range ho _ iho _ | nestedRange ho _ iho _ | escapedRange ho _ _ iho _ _ =>
    cases mode with
    | consume => simp only [Pattern.header, iho, ho.nullable]
    | neglect => rfl
  | capture name _ ih => simp only [Pattern.header, ih]

theorem outcome (h : p.Alike (fun s t => s.accepts = t.accepts) q) (mode : Mode) :
    p.outcome mode = q.outcome mode := by
  induction h generalizing mode with
  | @literal k xs ys text =>
    have width := Comparison.sameText_length text
    have accepts : Literal.accepts ⟨xs, k⟩ = Literal.accepts ⟨ys, k⟩ :=
      funext (Comparison.sameText_congr text)
    cases mode with
    | consume => simp only [outcome_literal_consume, Literal.width, width, accepts]
    | neglect => simp only [outcome_literal_neglect, Literal.width, width, accepts]
  | test h =>
    cases mode with
    | consume => simp only [outcome_test_consume, h]
    | neglect => simp only [outcome_test_neglect, h]
  | seq _ _ ihl ihr => simp only [outcome_seq, ihl, ihr]
  | alt _ _ ihl ihr => simp only [outcome_alt, ihl, ihr]
  | optional _ ih => simp only [outcome_optional, ih]
  | span _ ih => simp only [outcome_span, ih]
  | repeated count _ ih => simp only [outcome_repeated, ih]
  | negation _ ih => simp only [outcome_negation, ih]
  | range _ _ iho ihc => simp only [outcome_range, iho, ihc]
  | escapedRange _ _ _ iho ihc ihe => simp only [outcome_escapedRange, iho, ihc, ihe]
  | nestedRange _ _ iho ihc => simp only [outcome_nestedRange, iho, ihc]
  | capture name _ ih => simp only [outcome_capture, ih]

end Alike

/-- Equality of patterns is an equivalence, and equal patterns do the same to every text as long as
a name stands for one test, which is so wherever named tests are made of classes. Numbers need no
such care in patterns that were built together. -/
theorem equal_patterns_match_alike :
    (∀ p : Pattern, (p == p) = true) ∧
      (∀ p q : Pattern, (p == q) = true → (q == p) = true) ∧
      (∀ p q r : Pattern, (p == q) = true → (q == r) = true → (p == r) = true) ∧
      (∀ p q : Pattern, (∀ t ∈ p.tests, ∀ name, t.label = .named name → t.IsUnion) →
        (∀ t ∈ q.tests, ∀ name, t.label = .named name → t.IsUnion) → p.NamesAgree q) ∧
      (∀ next built, Build.Session next built → ∀ p ∈ built, ∀ q ∈ built, p.NamesAgree q →
        p.Consistent q) ∧
      ∀ p q : Pattern, p.Consistent q → (p == q) = true →
        (∀ (c : Cursor) (mode : Mode), c.outcome p mode = c.outcome q mode ∧
          c.header p mode = c.header q mode) ∧
        (∀ mode, p.nullable mode = q.nullable mode) ∧ p.SameHits q := by
  refine ⟨equal_self, fun p q h => ?_, fun p q r h h' => ?_, fun p q hp hq => ?_,
    fun next built session p hp q hq named => ?_, fun p q one h => ?_⟩
  · exact equal_iff_alike.mpr ((equal_iff_alike.mp h).symm fun _ _ => Eq.symm)
  · have first := equal_iff_alike.mp h
    have second := equal_iff_alike.mp h'
    exact equal_iff_alike.mpr (first.trans second fun _ _ _ => Eq.trans)
  · exact namesAgree_of_unions hp hq
  · exact session.consistent hp hq named
  · have same := (equal_iff_alike.mp h).imp_of_mem one.accepts
    have agrees : p.Agrees q := agrees_iff.mpr same.outcome
    exact ⟨fun c mode => ⟨agrees.outcome c mode, same.header mode _⟩, same.nullable,
      agrees.sameHits⟩

/-- The letter is written in two cases, and the test under one name in two ways; the nameless test
is one and the same. -/
theorem equal_patterns_match_alike_of_case :
    let a := literal ⟨['a'], .ignoreCase⟩
    let b := literal ⟨['A'], .ignoreCase⟩
    let z := test ⟨.anonymous 0, (· == 'z')⟩
    let p := (a.seq (test ⟨.named "x or y", fun c => c == 'x' || c == 'y'⟩)).seq z
    let q := (b.seq (test ⟨.named "x or y", fun c => c == 'y' || c == 'x'⟩)).seq z
    let text := ['A', 'y', 'z']
    Build.Session 1 [q, p, z] ∧ p.NamesAgree q ∧ (p == q) = true ∧ (q == p) = true ∧
      (q == q) = true ∧ (ofClass .digit).NamesAgree ((ofClass .digit).seq z) ∧
      (Cursor.start text).outcome q .consume = (.ok ⟨3, []⟩, .place text 3) ∧
      (Cursor.start text).outcome p .consume = (.ok ⟨3, []⟩, .place text 3) := by
  intro a b z p q text
  obtain ⟨-, symm, trans, classes, session, alike⟩ := equal_patterns_match_alike
  have together : Build.Session 1 [q, p, z] := by
    refine .composed (.composed (.predicate (· == 'z') .start) ?_) ?_
    · intro t ht nameless
      rcases List.mem_cons.mp ht with rfl | ht
      · cases nameless
      · exact ⟨z, List.mem_singleton.mpr rfl, ht⟩
    · intro t ht nameless
      rcases List.mem_cons.mp ht with rfl | ht
      · cases nameless
      · exact ⟨z, .tail _ (List.mem_singleton.mpr rfl), ht⟩
  have named : p.NamesAgree q := by
    intro s hs t ht name label label'
    rcases List.mem_cons.mp hs with rfl | hs
    · rcases List.mem_cons.mp ht with rfl | ht
      · exact funext fun c => Bool.or_comm _ _
      · cases List.mem_singleton.mp ht
        cases label'
    · cases List.mem_singleton.mp hs
      cases label
  have one : p.Consistent q :=
    session 1 [q, p, z] together p (.tail _ (.head _)) q (.head _) named
  have equal : (p == q) = true := by decide +kernel
  have back := symm p q equal
  have digit : CharClass.digit.test.IsUnion :=
    ⟨[.digit], by simp, (CharClass.union_singleton _).symm⟩
  have digits : (ofClass .digit).NamesAgree ((ofClass .digit).seq z) := by
    apply classes
    · intro t ht name _
      cases List.mem_singleton.mp ht
      exact digit
    · intro t ht name label
      rcases List.mem_cons.mp ht with rfl | ht
      · exact digit
      · cases List.mem_singleton.mp ht
        cases label
  have matched : (Cursor.start text).outcome q .consume = (.ok ⟨3, []⟩, .place text 3) := by
    rfl
  exact ⟨together, named, equal, back, trans q p q back equal, digits, matched,
    ((alike p q one equal).1 _ .consume).1.trans matched⟩

end Pattern

end TextPattern
