import TextPattern.Proofs.ReadingsDerived

namespace TextPattern

namespace CharClass

/-- The names of classes between bars. -/
def body (ks : List CharClass) : List Char :=
  ['|'].intercalate (ks.map (·.name.toList))

theorem union_name? (ks : List CharClass) : (union ks).name? = some (String.ofList (body ks)) := by
  have joined : "|".intercalate (ks.map name) = String.ofList (body ks) := by
    rw [← String.toList_inj, String.toList_ofList, String.toList_intercalate, List.map_map]
    rfl
  rw [← joined]
  rfl

theorem body_cons {ks : List CharClass} (hk : ks ≠ []) (k : CharClass) :
    body (k :: ks) = k.name.toList ++ '|' :: body ks := by
  have names : ks.map (·.name.toList) ≠ [] := by simpa using hk
  rw [body, List.map_cons, List.intercalate_cons_of_ne_nil names, List.append_assoc,
    List.singleton_append]
  rfl

theorem body_concat {ks : List CharClass} (hk : ks ≠ []) (l : CharClass) :
    body (ks ++ [l]) = body ks ++ '|' :: l.name.toList := by
  induction ks with
  | nil => exact absurd rfl hk
  | cons k ks ih =>
    cases ks with
    | nil =>
      rw [List.singleton_append, body_cons (by simp)]
      simp [body]
    | cons m ks =>
      have more : m :: ks ++ [l] ≠ [] := by simp
      rw [List.cons_append, body_cons more, ih (by simp), body_cons (List.cons_ne_nil m ks),
        List.append_assoc, List.cons_append]

/-- Names are added one by one on the right. -/
theorem derives_body {ks : List CharClass} (hk : ks ≠ []) (ls : List CharClass)
    (h : Notation.Derives .classes (body ks) (.test (union ks))) :
    Notation.Derives .classes (body (ks ++ ls)) (.test (union (ks ++ ls))) := by
  induction ls generalizing ks with
  | nil => simpa using h
  | cons l ls ih =>
    have name : Notation.Names l l.name.toList := by
      simpa using Notation.Names.name (k := l) .nil .nil
    have longer := Notation.Derives.union 0 h name
    have built : ((Build.alternate (.test (union ks)) (.ofClass l)).run 0).1 =
        .test (union (ks ++ [l])) := by
      rw [← union_either 0 hk (by simp), union_singleton]
      rfl
    rw [built, ← body_concat hk] at longer
    have all := ih (by simp) longer
    rwa [List.append_assoc, List.singleton_append] at all

theorem derives_union {ks : List CharClass} (hk : ks ≠ []) :
    Notation.Derives .classes (body ks) (.test (union ks)) := by
  obtain ⟨k, ks, rfl⟩ := List.exists_cons_of_ne_nil hk
  have first : Notation.Derives .classes (body [k]) (.test (union [k])) := by
    rw [union_singleton]
    exact .named (by simpa [body] using Notation.Names.name (k := k) .nil .nil)
  exact derives_body (by simp) ks first

end CharClass

namespace Notation

variable {xs ys ws vs : List Char}

/-- White space may come first wherever operands do. -/
theorem Derives.padded {s : Symbol} {p : Pattern} (h : Derives s xs p) (hv : Blank vs)
    (hs : s ∈ [Symbol.unary, .sequence, .alternation]) : Derives s (vs ++ xs) p := by
  induction h with
  | single _ ih => exact .single (ih (by simp))
  | choice id _ hw hq ihp _ =>
    have padded := Derives.choice id (ihp (by simp)) hw hq
    simpa using padded
  | term _ ih => exact .term (ih (by simp))
  | terms _ hq ihp _ =>
    have padded := Derives.terms (ihp (by simp)) hq
    simpa using padded
  | operator hw ho ends hp _ =>
    have padded := Derives.operator (hv.append hw) ho ends hp
    simpa using padded
  | operand hw hp _ =>
    have padded := Derives.operand (hv.append hw) hp
    simpa using padded
  | _ => simp at hs

theorem Derives.spaced {s : Symbol} {p : Pattern} (h : Derives s xs p)
    (hs : s ∈ [Symbol.unary, .sequence, .alternation]) : Derives s (' ' :: xs) p :=
  h.padded (.single rfl) hs

/-- How the text of `p` is derived, building `q`, on its own or with other texts around it. -/
structure Renders (p q : Pattern) : Prop where
  term : p.isAlt = false → p.isSeq = false → Derives .unary p.render q
  sequence : p.isAlt = false → Derives .sequence p.render q
  whole : Derives .alternation p.render q

namespace Renders

variable {p q left right left' right' : Pattern}

theorem of_term (h : Derives .unary p.render q) : Renders p q :=
  ⟨fun _ _ => h, fun _ => .term h, .single (.term h)⟩

theorem of_primary (h : Derives .primary p.render q) : Renders p q :=
  of_term (.operand .nil h)

theorem grouped (h : Renders p q) (group : Bool)
    (bare : group = false → p.isAlt = false ∧ p.isSeq = false) :
    Derives .unary (Pattern.grouped group p.render) q := by
  cases group with
  | false => exact h.term (bare rfl).1 (bare rfl).2
  | true =>
    have inside := Derives.group h.whole .nil
    have term := Derives.operand .nil inside
    simpa [Pattern.grouped] using term

/-- Where a sequence may begin, only an alternation needs parentheses. -/
theorem groupedAlt (h : Renders p q) :
    Derives .sequence (Pattern.grouped p.isAlt p.render) q := by
  cases ha : p.isAlt with
  | false => exact h.sequence ha
  | true => exact .term (h.grouped true (fun bare => by cases bare))

theorem seq (hl : Renders left left') (hr : Renders right right') :
    Renders (left.seq right) (left'.seq right') := by
  have second := hr.grouped (right.isAlt || right.isSeq) (by simp)
  have both := Derives.terms hl.groupedAlt (second.spaced (by simp))
  exact ⟨fun _ bare => (by cases bare), fun _ => both, .single both⟩

theorem alt (hl : Renders left left') (hr : Renders right right') :
    Renders (left.alt right) (left'.alternate 0 right') := by
  have space : Blank [' '] := .single rfl
  have either := Derives.choice 0 hl.whole space (hr.groupedAlt.spaced (by simp))
  refine ⟨fun bare => (by cases bare), fun bare => (by cases bare), ?_⟩
  have written : (left.alt right).render =
      left.render ++ [' '] ++ '|' :: ' ' :: Pattern.grouped right.isAlt right.render := by
    simp [Pattern.render]
  rw [written]
  exact either

theorem operator (h : Renders p q) {o : Operator} (ho : o.Spelled xs) (group : Bool)
    (bare : group = false → p.isAlt = false ∧ p.isSeq = false)
    (ends : o.EndsBefore (Pattern.grouped group p.render)) :
    Derives .unary (xs ++ Pattern.grouped group p.render) (o.apply q) :=
  .operator .nil ho ends (h.grouped group bare)

theorem negation (h : Renders p q) : Renders p.negation q.negation :=
  of_term (h.operator .negation (p.isAlt || p.isSeq) (by simp) trivial)

theorem optional (h : Renders p q) : Renders p.optional q.optional :=
  of_term (h.operator .optional (p.isAlt || p.isSeq) (by simp) trivial)

theorem span (h : Renders p q) : Renders p.span q.span :=
  of_term (h.operator .span (p.isAlt || p.isSeq) (by simp) trivial)

theorem capture (h : Renders p q) {name : String} (hn : isName name = true) :
    Renders (p.capture name) (q.capture name) := by
  have named := h.operator (.capture hn .nil) (p.isAlt || p.isSeq) (by simp) trivial
  rw [List.append_nil, List.append_assoc] at named
  exact of_term named

/-- The digits of a count end where its operand begins. -/
theorem grouped_head (hp : p.Representable) : ∃ c ∈
    (Pattern.grouped (p.isAlt || p.isSeq || p.isRepeated) p.render).head?, c.isDigit = false := by
  cases p with
  | literal l => exact ⟨l.comparison.quote, rfl, by cases l.comparison <;> rfl⟩
  | capture inner name =>
    obtain ⟨c, rest, he, start, -⟩ := isName_cons hp.2
    refine ⟨c, ?_, (nameStart_plain start).2⟩
    change (name.toList ++ _).head? = _
    rw [he]
    rfl
  | _ => exact ⟨_, rfl, rfl⟩

theorem repeated (h : Renders p q) (hp : p.Representable) (count : UInt64) :
    Renders (p.repeated count) (q.repeated count) := by
  have all : ∀ c ∈ Nat.toDigits 10 count.toNat, c.isDigit = true := fun c hc =>
    Nat.isDigit_of_mem_toDigits (by decide) (by decide) hc
  have written : (Operator.repeated count).Spelled (Nat.toDigits 10 count.toNat) :=
    .repeated Nat.toDigits_ne_nil all Nat.ofDigitChars_ten_toDigits
  have bare : (p.isAlt || p.isSeq || p.isRepeated) = false → p.isAlt = false ∧ p.isSeq = false := by
    simp only [Bool.or_eq_false_iff]
    exact And.left
  exact of_term (h.operator written _ bare (grouped_head hp))

variable {opener closer escape opener' closer' escape' : Pattern}

theorem range (ho : Renders opener opener') (hc : Renders closer closer') :
    Renders (opener.range closer) (opener'.range closer') := by
  have closing := hc.whole.spaced (by simp)
  have all := Derives.range ho.whole .nil closing .nil
  exact of_primary (by simpa [Pattern.render] using all)

theorem escapedRange (ho : Renders opener opener') (hc : Renders closer closer')
    (he : Renders escape escape') :
    Renders (opener.escapedRange closer escape) (opener'.escapedRange closer' escape') := by
  have closing := hc.whole.spaced (by simp)
  have escaping := he.whole.spaced (by simp)
  have all := Derives.escapedRange ho.whole .nil closing .nil escaping .nil
  exact of_primary (by simpa [Pattern.render] using all)

theorem nestedRange (ho : Renders opener opener') (hc : Renders closer closer') :
    Renders (opener.nestedRange closer) (opener'.nestedRange closer') := by
  have closing := hc.whole.spaced (by simp)
  have all := Derives.nestedRange ho.whole .nil closing .nil
  exact of_primary (by simpa [Pattern.render] using all)

end Renders

theorem quoted_rendered (k : Comparison) (text : List Char) : Quoted k.quote
    (text.flatMap fun c => if c == k.quote || c == '\\' then ['\\', c] else [c]) text := by
  induction text with
  | nil => exact .nil
  | cons c rest ih =>
    rw [List.flatMap_cons]
    by_cases escaped : c = k.quote ∨ c = '\\'
    · have both : (c == k.quote || c == '\\') = true := by simpa using escaped
      rw [both]
      exact .escaped ih
    · obtain ⟨hq, hs⟩ := not_or.mp escaped
      have neither : (c == k.quote || c == '\\') = false := by simp [hq, hs]
      rw [neither]
      exact .plain hq hs ih

end Notation

namespace Pattern

theorem Representable.renders {p : Pattern} (h : p.Representable) :
    Notation.Renders p p.refold := by
  induction p with
  | literal l => exact .of_primary (.literal (Notation.quoted_rendered l.comparison l.text))
  | test t =>
    obtain ⟨ks, hk, rfl⟩ := h
    have closed := Notation.Derives.classes (CharClass.derives_union hk)
    refine .of_primary ?_
    rw [render, CharTest.render, CharClass.union_name?, Option.getD_some, String.toList_ofList]
    exact closed
  | seq left right ihl ihr => exact (ihl h.1).seq (ihr h.2)
  | alt left right ihl ihr => exact (ihl h.1).alt (ihr h.2)
  | optional inner ih => exact (ih h).optional
  | span inner ih => exact (ih h).span
  | repeated inner count ih => exact (ih h).repeated h count
  | negation inner ih => exact (ih h).negation
  | range opener closer iho ihc => exact (iho h.1).range (ihc h.2)
  | escapedRange opener closer escape iho ihc ihe =>
    exact (iho h.1).escapedRange (ihc h.2.1) (ihe h.2.2)
  | nestedRange opener closer iho ihc => exact (iho h.1).nestedRange (ihc h.2)
  | capture inner name ih => exact (ih h.1).capture h.2

theorem Representable.parse_render {p : Pattern} (h : p.Representable) :
    parse p.render = .ok p.refold := by
  have whole := Notation.Derives.whole h.renders.whole .nil
  rw [List.append_nil] at whole
  exact whole.reads

theorem parse_written {text : List Char} {p : Pattern} (h : parse text = .ok p) : p.Written :=
  (Notation.Derives.of_parse h).written

theorem Written.parse_render {p : Pattern} (h : p.Written) : parse p.render = .ok p := by
  rw [h.representable.parse_render, h.built.refold_eq]

/-- The text of a pattern is read as that pattern built anew, which is the pattern itself if it was
built or read, and then it has the same text again. -/
theorem render_roundtrip :
    (∀ p : Pattern, p.Representable → ∀ id, parse p.render = .ok (p.rebuild.run id).1) ∧
      (∀ p : Pattern, p.Representable → p.Built →
        parse p.render = .ok p ∧ (p == p) = true) ∧
      ∀ (text : List Char) (p : Pattern), parse text = .ok p →
        parse p.render = .ok p ∧ (parse p.render).map render = .ok p.render := by
  refine ⟨fun p hp id => ?_, fun p hp hb => ?_, fun text p h => ?_⟩
  · obtain ⟨next, made⟩ := hp.makes_refold id
    rw [hp.parse_render, made]
  · exact ⟨Written.parse_render ⟨hp, hb⟩, p.equal_self⟩
  · have same := (parse_written h).parse_render
    exact ⟨same, by rw [same]; rfl⟩

theorem render_roundtrip_of_classes :
    let digit := ofClass .digit
    let letter := ofClass .letter
    let either := test (CharClass.union [.digit, .letter])
    parse (alt digit letter).render = .ok either ∧ parse either.render = .ok either ∧
      (parse either.render).map render = .ok either.render := by
  intro digit letter either
  have single (k : CharClass) : (ofClass k).Representable :=
    ⟨[k], by simp, by rw [CharClass.union_singleton]⟩
  have folded : CharTest.either 0 CharClass.digit.test CharClass.letter.test =
      CharClass.union [.digit, .letter] := by
    have joined := CharClass.union_either 0 (List.cons_ne_nil CharClass.digit [])
      (List.cons_ne_nil CharClass.letter [])
    rwa [CharClass.union_singleton, CharClass.union_singleton] at joined
  have rebuilt := render_roundtrip.1 (alt digit letter) ⟨single .digit, single .letter⟩ 0
  have same := render_roundtrip.2.1 either ⟨_, by simp, rfl⟩ (.named _ _)
  have again := render_roundtrip.2.2 either.render either same.1
  refine ⟨rebuilt.trans ?_, again⟩
  change Except.ok (test (CharTest.either 0 CharClass.digit.test CharClass.letter.test)) = _
  rw [folded]

end Pattern

end TextPattern
