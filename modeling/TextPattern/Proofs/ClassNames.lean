import TextPattern.Proofs.Grammar

namespace TextPattern

namespace Text

theorem splitAt_eq_self {c : Char} {text : List Char} (h : c ∉ text) :
    splitAt c text = (text, []) := by
  induction text with
  | nil => rfl
  | cons x rest ih =>
    obtain ⟨hx, hrest⟩ : c ≠ x ∧ c ∉ rest := by simpa using h
    simp [splitAt, ih hrest, Ne.symm hx]

theorem splitAt_concat (c : Char) (xs ys : List Char) : splitAt c (xs ++ c :: ys) =
    ((splitAt c xs).1, (splitAt c xs).2 ++ (splitAt c ys).1 :: (splitAt c ys).2) := by
  induction xs with
  | nil => simp [splitAt]
  | cons x xs ih =>
    by_cases hx : x = c
    · simp [splitAt, ih, hx]
    · simp [splitAt, ih, hx]

end Text

namespace CharClass

theorem bar_notMem_name (k : CharClass) : '|' ∉ k.name.toList := by
  cases k <;> decide

theorem closer_notMem_name (k : CharClass) : '>' ∉ k.name.toList := by
  cases k <;> decide

theorem not_whiteSpace_of_mem_name (k : CharClass) :
    ∀ c ∈ k.name.toList, Unicode.isWhiteSpace c = false := by
  have plain : (k.name.toList.all fun c => !Unicode.isWhiteSpace c) = true := by
    cases k <;> decide
  simpa using plain

end CharClass

namespace Notation

variable {ws vs xs ys : List Char}

theorem bind_ok {ε α β : Type} {x : Except ε α} {f : α → Except ε β} {b : β}
    (h : x >>= f = .ok b) : ∃ a, x = .ok a ∧ f a = .ok b := by
  cases x with
  | error e => cases h
  | ok a => exact ⟨a, rfl, h⟩

theorem bind_error {ε α β : Type} {x : Except ε α} {f : α → Except ε β} {e : ε}
    (h : x >>= f = .error e) : x = .error e ∨ ∃ a, x = .ok a ∧ f a = .error e := by
  cases x with
  | error e' => exact .inl (by cases h; rfl)
  | ok a => exact .inr ⟨a, rfl, h⟩

theorem Blank.trimStart_append (hw : Blank ws) (hx : ∀ c ∈ xs.head?, Unicode.isWhiteSpace c = false) :
    Text.trimStart (ws ++ xs) = xs := by
  induction ws with
  | nil =>
    cases xs with
    | nil => rfl
    | cons x xs =>
      have first := hx x rfl
      simp [Text.trimStart, first]
  | cons w ws ih =>
    obtain ⟨first, others⟩ := List.forall_mem_cons.mp hw
    have rest := ih others
    simpa [Text.trimStart, first] using rest

theorem exists_blank_trimStart (xs : List Char) : ∃ ws, Blank ws ∧ xs = ws ++ Text.trimStart xs := by
  refine ⟨xs.takeWhile Unicode.isWhiteSpace, ?_, List.takeWhile_append_dropWhile.symm⟩
  exact List.all_eq_true.mp List.all_takeWhile

theorem exists_blank_trim (xs : List Char) :
    ∃ ws vs, Blank ws ∧ Blank vs ∧ xs = ws ++ Text.trim xs ++ vs := by
  obtain ⟨ws, hw, hx⟩ := exists_blank_trimStart xs
  obtain ⟨vs, hv, hy⟩ := exists_blank_trimStart (Text.trimStart xs).reverse
  refine ⟨ws, vs.reverse, hw, hv.reverse, ?_⟩
  have back := congrArg List.reverse hy
  rw [List.reverse_reverse, List.reverse_append] at back
  rw [List.append_assoc]
  exact hx.trans (congrArg (ws ++ ·) back)

theorem trim_padded (hw : Blank ws) (hv : Blank vs) {body : List Char} (ne : body ≠ [])
    (plain : ∀ c ∈ body, Unicode.isWhiteSpace c = false) :
    Text.trim (ws ++ body ++ vs) = body := by
  have head : ∀ c ∈ (body ++ vs).head?, Unicode.isWhiteSpace c = false := by
    obtain ⟨first, rest, rfl⟩ := List.exists_cons_of_ne_nil ne
    intro c hc
    cases Option.some.inj hc
    exact plain first List.mem_cons_self
  have last : ∀ c ∈ body.reverse.head?, Unicode.isWhiteSpace c = false := by
    intro c hc
    exact plain c (List.mem_reverse.mp (List.mem_of_head? hc))
  rw [Text.trim, List.append_assoc, hw.trimStart_append head, List.reverse_append,
    hv.reverse.trimStart_append last, List.reverse_reverse]

theorem classTest_eq_ok_iff {t : CharTest} :
    classTest xs = .ok t ↔ ∃ k : CharClass, t = k.test ∧ Names k xs := by
  constructor
  · intro h
    simp only [classTest] at h
    split at h
    next k hk =>
      cases h
      obtain ⟨ws, vs, hw, hv, hx⟩ := exists_blank_trim xs
      have name := congrArg String.toList (CharClass.name_of_ofName? hk)
      rw [String.toList_ofList] at name
      rw [← name] at hx
      refine ⟨k, rfl, ?_⟩
      rw [hx]
      exact .name hw hv
    next => cases h
  · rintro ⟨k, rfl, ⟨hw, hv⟩⟩
    have ne : k.name.toList ≠ [] := by cases k <;> decide
    simp only [classTest, trim_padded hw hv ne k.not_whiteSpace_of_mem_name, String.ofList_toList,
      CharClass.ofName?_name]

theorem Names.notMem {k : CharClass} (h : Names k xs) : '|' ∉ xs ∧ '>' ∉ xs := by
  obtain ⟨hw, hv⟩ := h
  have bar := k.bar_notMem_name
  have closer := k.closer_notMem_name
  simp [bar, closer, hw.notMem (c := '|') rfl, hv.notMem (c := '|') rfl,
    hw.notMem (c := '>') rfl, hv.notMem (c := '>') rfl]

theorem classesTest_of_notMem (h : '|' ∉ xs) : classesTest xs = classTest xs := by
  simp only [classesTest, Text.splitAt_eq_self h]
  cases classTest xs <;> rfl

theorem classesTest_concat (h : '|' ∉ ys) : classesTest (xs ++ '|' :: ys) = do
    let t ← classesTest xs
    let u ← classTest ys
    return t.either 0 u := by
  simp only [classesTest, Text.splitAt_concat, Text.splitAt_eq_self h, List.mapM_append,
    List.mapM_cons, List.mapM_nil]
  cases classTest (Text.splitAt '|' xs).1 with
  | error e => rfl
  | ok t =>
    cases (Text.splitAt '|' xs).2.mapM classTest with
    | error e => rfl
    | ok ts =>
      cases classTest ys with
      | error e => rfl
      | ok u =>
        change Except.ok ((ts ++ [u]).foldl (CharTest.either 0) t) = _
        rw [List.foldl_append]
        rfl

theorem Derives.classesTest_ok {p : Pattern} (h : Derives .classes xs p) :
    '>' ∉ xs ∧ ∃ t, p = .test t ∧ classesTest xs = .ok t := by
  generalize hs : Symbol.classes = s at h
  induction h with
  | @named k xs hk =>
    have read := classTest_eq_ok_iff.mpr ⟨k, rfl, hk⟩
    exact ⟨hk.notMem.2, k.test, rfl, (classesTest_of_notMem hk.notMem.1).trans read⟩
  | @union k xs ys p id hp hk ih =>
    obtain ⟨closer, t, rfl, first⟩ := ih hs
    have last := classTest_eq_ok_iff.mpr ⟨k, rfl, hk⟩
    have named := hp.written.representable
    have single := (Pattern.Written.ofClass k).representable
    refine ⟨by simp [closer, hk.notMem.2], t.either 0 k.test, ?_, ?_⟩
    · exact named.alternate_number single id
    · rw [classesTest_concat hk.notMem.1, first, last]
      rfl
  | _ => cases hs

theorem derives_of_classesTest {xs : List Char} {t : CharTest} (h : classesTest xs = .ok t) :
    Derives .classes xs (.test t) := by
  by_cases hm : '|' ∈ xs
  · obtain ⟨as, bs, he, last⟩ := List.eq_append_cons_of_mem (List.mem_reverse.mpr hm)
    have split : xs = bs.reverse ++ '|' :: as.reverse := by
      have back := congrArg List.reverse he
      simpa using back
    have shorter : bs.reverse.length < xs.length := by
      rw [split, List.length_append, List.length_cons]
      omega
    have bar : '|' ∉ as.reverse := fun hb => last (List.mem_reverse.mp hb)
    rw [split, classesTest_concat bar] at h
    obtain ⟨u, first, h⟩ := bind_ok h
    obtain ⟨v, second, h⟩ := bind_ok h
    obtain ⟨k, rfl, names⟩ := classTest_eq_ok_iff.mp second
    cases h
    rw [split]
    exact .union 0 (derives_of_classesTest first) names
  · rw [classesTest_of_notMem hm] at h
    obtain ⟨k, rfl, names⟩ := classTest_eq_ok_iff.mp h
    exact .named names
termination_by xs.length

end Notation

end TextPattern
