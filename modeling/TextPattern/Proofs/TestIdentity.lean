import TextPattern.Proofs.WrittenPatterns

namespace TextPattern

/-- The joined names of classes tell which classes they are: they can be read back. -/
theorem CharTest.IsUnion.eq_of_label {s t : CharTest} (hs : s.IsUnion) (ht : t.IsUnion)
    (h : s.label = t.label) : s = t := by
  obtain ⟨ks, hk, rfl⟩ := hs
  obtain ⟨ls, hl, rfl⟩ := ht
  have names : (CharClass.union ks).name? = (CharClass.union ls).name? := by
    simp only [name?, h]
  rw [CharClass.union_name?, CharClass.union_name?] at names
  have bodies := String.ofList_injective (Option.some.inj names)
  obtain ⟨-, u, hu, read⟩ := (CharClass.derives_union hk).classesTest_ok
  obtain ⟨-, v, hv, again⟩ := (CharClass.derives_union hl).classesTest_ok
  rw [bodies, again] at read
  cases hu
  cases hv
  exact (Except.ok.inj read).symm

namespace Pattern

/-- Every test in a pattern. -/
def tests : Pattern → List CharTest
  | literal _ => []
  | test t => [t]
  | seq left right | alt left right => left.tests ++ right.tests
  | optional inner | span inner | repeated inner _ | negation inner | capture inner _ => inner.tests
  | range opener closer | nestedRange opener closer => opener.tests ++ closer.tests
  | escapedRange opener closer escape => opener.tests ++ closer.tests ++ escape.tests

/-- Tests with one name, one in each pattern, accept the same characters. -/
def NamesAgree (p q : Pattern) : Prop :=
  ∀ s ∈ p.tests, ∀ t ∈ q.tests, ∀ name,
    s.label = .named name → t.label = .named name → s.accepts = t.accepts

/-- The patterns agree on what a name stands for. A number is given to one test only, so tests with
one number are the same test. -/
structure Consistent (p q : Pattern) : Prop where
  named : p.NamesAgree q
  numbered : ∀ s ∈ p.tests, ∀ t ∈ q.tests, ∀ id,
    s.label = .anonymous id → t.label = .anonymous id → s = t

theorem Consistent.accepts {p q : Pattern} (h : p.Consistent q) :
    ∀ s ∈ p.tests, ∀ t ∈ q.tests, s.label = t.label → s.accepts = t.accepts := by
  intro s hs t ht same
  cases label : s.label with
  | named name => exact h.named s hs t ht name label (same.symm.trans label)
  | anonymous id => rw [h.numbered s hs t ht id label (same.symm.trans label)]

/-- Tests that are made of classes are told by their names. -/
theorem namesAgree_of_unions {p q : Pattern}
    (hp : ∀ t ∈ p.tests, ∀ name, t.label = .named name → t.IsUnion)
    (hq : ∀ t ∈ q.tests, ∀ name, t.label = .named name → t.IsUnion) : p.NamesAgree q := by
  intro s hs t ht name label label'
  rw [(hp s hs name label).eq_of_label (hq t ht name label') (label.trans label'.symm)]

end Pattern

theorem Label.either_anonymous {a b : Label} {id i : Nat} (h : a.either id b = .anonymous i) :
    i = id := by
  cases a <;> cases b <;> cases h <;> rfl

namespace Build

/-- Patterns that are built one after another, the last one first, and the next number. A pattern
can be put together in any way from those at hand; numbers come with predicates and alternatives. -/
inductive Session : Nat → List Pattern → Prop
  | start : Session 0 []
  | composed {next : Nat} {built : List Pattern} {p : Pattern} : Session next built →
      (∀ t ∈ p.tests, t.name? = none → ∃ q ∈ built, t ∈ q.tests) → Session next (p :: built)
  | predicate {next : Nat} {built : List Pattern} (accepts : Char → Bool) : Session next built →
      Session ((predicate accepts).run next).2 (((predicate accepts).run next).1 :: built)
  | alternate {next : Nat} {built : List Pattern} {p q : Pattern} : Session next built →
      p ∈ built → q ∈ built →
      Session ((alternate p q).run next).2 (((alternate p q).run next).1 :: built)

/-- Each number in use is below the next one and tells what its test accepts. -/
def Numbers (accepts : Nat → Char → Bool) (next : Nat) (built : List Pattern) : Prop :=
  ∀ p ∈ built, ∀ t ∈ p.tests, ∀ id, t.label = .anonymous id → id < next ∧ t.accepts = accepts id

variable {accepts : Nat → Char → Bool} {next : Nat} {built : List Pattern}

theorem Numbers.composed (h : Numbers accepts next built) {p : Pattern}
    (known : ∀ t ∈ p.tests, t.name? = none → ∃ q ∈ built, t ∈ q.tests) :
    Numbers accepts next (p :: built) := by
  intro r hr t ht id label
  rcases List.mem_cons.mp hr with rfl | hr
  · obtain ⟨q, hq, at_hand⟩ := known t ht (by simp only [CharTest.name?, label])
    exact h q hq t at_hand id label
  · exact h r hr t ht id label

theorem Numbers.succ (h : Numbers accepts next built) : Numbers accepts (next + 1) built := by
  intro p hp t ht id label
  obtain ⟨used, same⟩ := h p hp t ht id label
  exact ⟨by omega, same⟩

/-- A test with the next number changes nothing for the numbers before. -/
theorem Numbers.fresh (h : Numbers accepts next built) {t : CharTest}
    (own : ∀ id, t.label = .anonymous id → id = next) :
    Numbers (fun id => if id = next then t.accepts else accepts id) (next + 1)
      (.test t :: built) := by
  intro p hp u hu id label
  rcases List.mem_cons.mp hp with rfl | hp
  · cases List.mem_singleton.mp hu
    have same := own id label
    exact ⟨by omega, by simp only [same, ↓reduceIte]⟩
  · obtain ⟨used, same⟩ := h p hp u hu id label
    have other : id ≠ next := by omega
    exact ⟨by omega, by simp only [other, ↓reduceIte, same]⟩

theorem Session.numbers (h : Session next built) : ∃ accepts, Numbers accepts next built := by
  induction h with
  | start => exact ⟨fun _ _ => false, fun p hp => by cases hp⟩
  | composed _ known ih =>
    obtain ⟨accepts, numbers⟩ := ih
    exact ⟨accepts, numbers.composed known⟩
  | @predicate next _ test _ ih =>
    obtain ⟨accepts, numbers⟩ := ih
    exact ⟨_, numbers.fresh (t := ⟨.anonymous next, test⟩) fun id label => by cases label; rfl⟩
  | @alternate next _ p q _ hp hq ih =>
    obtain ⟨accepts, numbers⟩ := ih
    change ∃ accepts, Numbers accepts (next + 1) (p.alternate next q :: _)
    rcases Pattern.alternate_cases p q with ⟨s, t, rfl, rfl⟩ | kept
    · exact ⟨_, numbers.fresh (t := s.either next t) fun id label => Label.either_anonymous label⟩
    · rw [kept next]
      refine ⟨accepts, numbers.succ.composed fun t ht _ => ?_⟩
      rcases List.mem_append.mp ht with ht | ht
      · exact ⟨p, hp, ht⟩
      · exact ⟨q, hq, ht⟩

/-- For patterns of one session it is enough that the names are used consistently. -/
theorem Session.consistent (h : Session next built) {p q : Pattern} (hp : p ∈ built)
    (hq : q ∈ built) (named : p.NamesAgree q) : p.Consistent q := by
  obtain ⟨accepts, numbers⟩ := h.numbers
  refine ⟨named, fun s hs t ht id label label' => ?_⟩
  have first := (numbers p hp s hs id label).2
  have second := (numbers q hq t ht id label').2
  obtain ⟨_, _⟩ := s
  obtain ⟨_, _⟩ := t
  cases label
  cases label'
  cases first
  cases second
  rfl

end Build

end TextPattern
