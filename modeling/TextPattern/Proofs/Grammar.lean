import TextPattern.Proofs.Rebuild

namespace TextPattern

namespace Notation

def Blank (xs : List Char) : Prop :=
  ∀ c ∈ xs, Unicode.isWhiteSpace c = true

/-- What stands between two quotes, and the text it means: a backslash takes the next character. -/
inductive Quoted (quote : Char) : List Char → List Char → Prop
  | nil : Quoted quote [] []
  | plain {c raw text} : c ≠ quote → c ≠ '\\' → Quoted quote raw text →
      Quoted quote (c :: raw) (c :: text)
  | escaped {c raw text} : Quoted quote raw text → Quoted quote ('\\' :: c :: raw) (c :: text)

/-- A class name, with any white space around it. -/
inductive Names (k : CharClass) : List Char → Prop
  | name {ws vs} : Blank ws → Blank vs → Names k (ws ++ k.name.toList ++ vs)

inductive Operator.Spelled : Operator → List Char → Prop
  | negation : Spelled negation ['!']
  | optional : Spelled optional ['~']
  | span : Spelled span ['*']
  | repeated {digits n} : digits ≠ [] → (∀ c ∈ digits, c.isDigit = true) →
      Nat.ofDigitChars 10 digits 0 = UInt64.toNat n → Spelled (repeated n) digits
  | capture {name ws} : isName name = true → Blank ws →
      Spelled (capture name) (name.toList ++ ws ++ [':'])

/-- A count is the longest run of digits. The run of a name always ends before its colon. -/
def Operator.EndsBefore : Operator → List Char → Prop
  | repeated _, rest => ∃ c ∈ rest.head?, c.isDigit = false
  | _, _ => True

inductive Symbol
  | whole
  | alternation
  | sequence
  | unary
  | primary
  | classes

/-- The grammar of pattern texts: what a symbol derives, and what the derivation builds. Alternations
and sequences are built from the left, and the numbers of nameless tests may be any. -/
inductive Derives : Symbol → List Char → Pattern → Prop
  | whole {xs ws p} : Derives .alternation xs p → Blank ws → Derives .whole (xs ++ ws) p
  | single {xs p} : Derives .sequence xs p → Derives .alternation xs p
  | choice {xs ws ys p q} (id : Nat) : Derives .alternation xs p → Blank ws →
      Derives .sequence ys q →
      Derives .alternation (xs ++ ws ++ '|' :: ys) ((Build.alternate p q).run id).1
  | term {xs p} : Derives .unary xs p → Derives .sequence xs p
  | terms {xs ys p q} : Derives .sequence xs p → Derives .unary ys q →
      Derives .sequence (xs ++ ys) (p.seq q)
  | operator {ws xs ys o p} : Blank ws → Operator.Spelled o xs → o.EndsBefore ys →
      Derives .unary ys p → Derives .unary (ws ++ xs ++ ys) (o.apply p)
  | operand {ws xs p} : Blank ws → Derives .primary xs p → Derives .unary (ws ++ xs) p
  | text {raw text} : Quoted '"' raw text →
      Derives .primary ('"' :: raw ++ ['"']) (.ofText (String.ofList text))
  | textIgnoringCase {raw text} : Quoted '\x27' raw text →
      Derives .primary ('\x27' :: raw ++ ['\x27']) (.ofTextIgnoringCase (String.ofList text))
  | classes {xs p} : Derives .classes xs p → Derives .primary ('<' :: xs ++ ['>']) p
  | group {xs ws p} : Derives .alternation xs p → Blank ws →
      Derives .primary ('(' :: xs ++ ws ++ [')']) p
  | range {xs ws ys vs p q} : Derives .alternation xs p → Blank ws → Derives .alternation ys q →
      Blank vs → Derives .primary ('[' :: xs ++ ws ++ ',' :: ys ++ vs ++ [']']) (p.range q)
  | escapedRange {xs ws ys vs zs us p q e} : Derives .alternation xs p → Blank ws →
      Derives .alternation ys q → Blank vs → Derives .alternation zs e → Blank us →
      Derives .primary ('[' :: xs ++ ws ++ ',' :: ys ++ vs ++ ',' :: zs ++ us ++ [']'])
        (p.escapedRange q e)
  | nestedRange {xs ws ys vs p q} : Derives .alternation xs p → Blank ws →
      Derives .alternation ys q → Blank vs →
      Derives .primary ('\x7b' :: xs ++ ws ++ ',' :: ys ++ vs ++ ['\x7d']) (p.nestedRange q)
  | named {k xs} : Names k xs → Derives .classes xs (.ofClass k)
  | union {k xs ys p} (id : Nat) : Derives .classes xs p → Names k ys →
      Derives .classes (xs ++ '|' :: ys) ((Build.alternate p (.ofClass k)).run id).1

variable {ws vs xs ys : List Char} {c : Char} {p : Pattern}

theorem Blank.notMem (hw : Blank ws) (hc : Unicode.isWhiteSpace c = false) : c ∉ ws := by
  intro hm
  have white := hw c hm
  rw [hc] at white
  cases white

theorem Blank.reverse (hw : Blank ws) : Blank ws.reverse :=
  fun c hc => hw c (List.mem_reverse.mp hc)

theorem Blank.append (hw : Blank ws) (hv : Blank vs) : Blank (ws ++ vs) := by
  intro c hc
  rcases List.mem_append.mp hc with hc | hc
  · exact hw c hc
  · exact hv c hc

theorem Blank.nil : Blank [] := by
  intro c hc
  cases hc

theorem Blank.single (hc : Unicode.isWhiteSpace c = true) : Blank [c] := by
  intro x hx
  cases List.mem_singleton.mp hx
  exact hc

theorem Quoted.append {quote : Char} {text rest : List Char} (hx : Quoted quote xs text)
    (hy : Quoted quote ys rest) : Quoted quote (xs ++ ys) (text ++ rest) := by
  induction hx with
  | nil => exact hy
  | plain hq hs _ ih => exact .plain hq hs ih
  | escaped _ ih => exact .escaped ih

theorem Operator.EndsBefore.append {o : Operator} (h : o.EndsBefore xs) (ys : List Char) :
    o.EndsBefore (xs ++ ys) := by
  cases o with
  | repeated count =>
    obtain ⟨c, head, other⟩ := h
    refine ⟨c, ?_, other⟩
    rw [List.head?_append, head]
    rfl
  | _ => trivial

theorem Derives.literal {k : Comparison} {raw text : List Char} (h : Quoted k.quote raw text) :
    Derives .primary (k.quote :: raw ++ [k.quote]) (.literal ⟨text, k⟩) := by
  cases k with
  | matchCase => simpa [Pattern.ofText, Comparison.quote] using Derives.text h
  | ignoreCase =>
    simpa [Pattern.ofTextIgnoringCase, Comparison.quote] using Derives.textIgnoringCase h

theorem Operator.Spelled.written {o : Operator} (ho : o.Spelled xs) (hp : p.Written) :
    (o.apply p).Written := by
  obtain ⟨representable, built⟩ := hp
  cases ho with
  | negation => exact ⟨representable, .negation built⟩
  | optional => exact ⟨representable, .optional built⟩
  | span => exact ⟨representable, .span built⟩
  | repeated _ _ _ => exact ⟨representable, .repeated _ built⟩
  | capture name _ => exact ⟨⟨representable, name⟩, .capture _ built⟩

theorem Derives.written {s : Symbol} (h : Derives s xs p) : p.Written := by
  induction h with
  | whole _ _ ih | single _ ih | term _ ih | operand _ _ ih | classes _ ih | group _ _ ih => exact ih
  | choice id _ _ _ ihp ihq => exact ihp.alternate ihq id
  | terms _ _ ihp ihq => exact ihp.seq ihq
  | operator _ ho _ _ ih => exact ho.written ih
  | text _ => exact ⟨trivial, .ofText _⟩
  | textIgnoringCase _ => exact ⟨trivial, .ofTextIgnoringCase _⟩
  | range _ _ _ _ ihp ihq =>
    exact ⟨⟨ihp.representable, ihq.representable⟩, .range ihp.built ihq.built⟩
  | escapedRange _ _ _ _ _ _ ihp ihq ihe =>
    exact ⟨⟨ihp.representable, ihq.representable, ihe.representable⟩,
      .escapedRange ihp.built ihq.built ihe.built⟩
  | nestedRange _ _ _ _ ihp ihq =>
    exact ⟨⟨ihp.representable, ihq.representable⟩, .nestedRange ihp.built ihq.built⟩
  | @named k _ _ => exact .ofClass k
  | @union k _ _ _ id _ _ ih => exact ih.alternate (.ofClass k) id

end Notation

end TextPattern
