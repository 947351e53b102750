import TextPattern.Notation.Reading
import TextPattern.Pattern.Equality

namespace TextPattern

namespace CharClass

/-- A test for any of several classes, known by all their names. -/
def union (ks : List CharClass) : CharTest where
  label := .named ("|".intercalate (ks.map name))
  accepts c := ks.any (·.accepts c)

theorem union_singleton (k : CharClass) : union [k] = k.test := by
  simp [union, test]

theorem union_either (id : Nat) {ks ls : List CharClass} (hk : ks ≠ []) (hl : ls ≠ []) :
    (union ks).either id (union ls) = union (ks ++ ls) := by
  have joined := String.intercalate_append_of_ne_nil (s := "|") (l := ks.map name)
    (m := ls.map name) (by simpa using hk) (by simpa using hl)
  simp only [union, CharTest.either, Label.either, List.map_append, joined, List.any_append]

end CharClass

/-- A class, or several that were folded into one test. -/
def CharTest.IsUnion (t : CharTest) : Prop :=
  ∃ ks, ks ≠ [] ∧ t = CharClass.union ks

theorem CharTest.IsUnion.either {s t : CharTest} (hs : s.IsUnion) (ht : t.IsUnion) (id : Nat) :
    (s.either id t).IsUnion := by
  obtain ⟨ks, hk, rfl⟩ := hs
  obtain ⟨ls, hl, rfl⟩ := ht
  exact ⟨ks ++ ls, by simp [hk], CharClass.union_either id hk hl⟩

/-- What can stand before a colon. -/
def Notation.isName (name : String) : Bool :=
  match name.toList with
  | [] => false
  | c :: rest => isNameStart c && rest.all isNameChar

theorem Comparison.sameText_self (k : Comparison) (text : List Char) :
    k.sameText text text = true := by
  induction text with
  | nil => rfl
  | cons c rest ih =>
    have same : k.sameChar c c = true := by cases k <;> simp [sameChar]
    simp [sameText, same, ih]

/-- Whatever the next number is, the building comes to `a`. -/
def Build.Makes {α : Type} (x : Build α) (a : α) : Prop :=
  ∀ id, ∃ next, x.run id = (a, next)

namespace Build.Makes

variable {α β : Type}

theorem pure (a : α) : Makes (Pure.pure a) a :=
  fun id => ⟨id, rfl⟩

theorem bind {x : Build α} {f : α → Build β} {a : α} {b : β} (hx : x.Makes a)
    (hf : (f a).Makes b) : (x >>= f).Makes b := by
  intro id
  obtain ⟨i, hi⟩ := hx id
  obtain ⟨j, hj⟩ := hf i
  refine ⟨j, ?_⟩
  rw [StateT.run_bind, hi]
  exact hj

end Build.Makes

namespace Pattern

/-- A pattern of which every test is made of classes and every capture has a readable name. -/
def Representable : Pattern → Prop
  | literal _ => True
  | test t => t.IsUnion
  | seq left right | alt left right => left.Representable ∧ right.Representable
  | optional inner | span inner | repeated inner _ | negation inner => inner.Representable
  | range opener closer | nestedRange opener closer =>
    opener.Representable ∧ closer.Representable
  | escapedRange opener closer escape =>
    opener.Representable ∧ closer.Representable ∧ escape.Representable
  | capture inner name => inner.Representable ∧ Notation.isName name

/-- Builds a pattern anew from its leaves up, each node by the operation that makes such nodes. -/
def rebuild : Pattern → Build Pattern
  | literal l => return literal l
  | test t => return test t
  | seq left right => return (← left.rebuild).seq (← right.rebuild)
  | alt left right => do
    let left ← left.rebuild
    let right ← right.rebuild
    Build.alternate left right
  | optional inner => return (← inner.rebuild).optional
  | span inner => return (← inner.rebuild).span
  | repeated inner count => return (← inner.rebuild).repeated count
  | negation inner => return (← inner.rebuild).negation
  | range opener closer => return (← opener.rebuild).range (← closer.rebuild)
  | escapedRange opener closer escape =>
    return (← opener.rebuild).escapedRange (← closer.rebuild) (← escape.rebuild)
  | nestedRange opener closer => return (← opener.rebuild).nestedRange (← closer.rebuild)
  | capture inner name => return (← inner.rebuild).capture name

/-- The rebuilt pattern where no number is needed for a nameless test. -/
def refold : Pattern → Pattern
  | literal l => literal l
  | test t => test t
  | seq left right => left.refold.seq right.refold
  | alt left right => left.refold.alternate 0 right.refold
  | optional inner => inner.refold.optional
  | span inner => inner.refold.span
  | repeated inner count => inner.refold.repeated count
  | negation inner => inner.refold.negation
  | range opener closer => opener.refold.range closer.refold
  | escapedRange opener closer escape =>
    opener.refold.escapedRange closer.refold escape.refold
  | nestedRange opener closer => opener.refold.nestedRange closer.refold
  | capture inner name => inner.refold.capture name

theorem alternate_cases (left right : Pattern) :
    (∃ s t, left = test s ∧ right = test t) ∨ ∀ id, left.alternate id right = alt left right := by
  cases left with
  | test s =>
    cases right with
    | test t => exact .inl ⟨s, t, rfl, rfl⟩
    | _ => exact .inr fun _ => rfl
  | _ => exact .inr fun _ => by cases right <;> rfl

theorem Representable.alternate {left right : Pattern} (hl : left.Representable)
    (hr : right.Representable) (id : Nat) : (left.alternate id right).Representable := by
  rcases alternate_cases left right with ⟨s, t, rfl, rfl⟩ | he
  · exact CharTest.IsUnion.either hl hr id
  · rw [he]
    exact ⟨hl, hr⟩

/-- The number is asked for only where a nameless test comes in. -/
theorem Representable.alternate_number {left right : Pattern} (hl : left.Representable)
    (hr : right.Representable) (id : Nat) : left.alternate id right = left.alternate 0 right := by
  rcases alternate_cases left right with ⟨s, t, rfl, rfl⟩ | he
  · obtain ⟨ks, -, rfl⟩ := hl
    obtain ⟨ls, -, rfl⟩ := hr
    rfl
  · rw [he, he]

theorem Representable.refold {p : Pattern} (h : p.Representable) : p.refold.Representable := by
  induction p with
  | literal l => trivial
  | test t => exact h
  | alt left right ihl ihr => exact (ihl h.1).alternate (ihr h.2) 0
  | seq left right ihl ihr => exact ⟨ihl h.1, ihr h.2⟩
  | optional inner ih => exact ih h
  | span inner ih => exact ih h
  | repeated inner count ih => exact ih h
  | negation inner ih => exact ih h
  | range opener closer iho ihc => exact ⟨iho h.1, ihc h.2⟩
  | nestedRange opener closer iho ihc => exact ⟨iho h.1, ihc h.2⟩
  | escapedRange opener closer escape iho ihc ihe => exact ⟨iho h.1, ihc h.2.1, ihe h.2.2⟩
  | capture inner name ih => exact ⟨ih h.1, h.2⟩

theorem Representable.makes_refold {p : Pattern} (h : p.Representable) :
    p.rebuild.Makes p.refold := by
  induction p with
  | literal l => exact .pure _
  | test t => exact .pure _
  | seq left right ihl ihr | range left right ihl ihr | nestedRange left right ihl ihr =>
    exact (ihl h.1).bind ((ihr h.2).bind (.pure _))
  | alt left right ihl ihr =>
    refine (ihl h.1).bind ((ihr h.2).bind fun id => ⟨id + 1, ?_⟩)
    rw [Pattern.refold, ← h.1.refold.alternate_number h.2.refold id]
    rfl
  | optional inner ih | span inner ih | repeated inner _ ih | negation inner ih =>
    exact (ih h).bind (.pure _)
  | escapedRange opener closer escape iho ihc ihe =>
    exact (iho h.1).bind ((ihc h.2.1).bind ((ihe h.2.2).bind (.pure _)))
  | capture inner name ih => exact (ih h.1).bind (.pure _)

/-- The patterns that the operations for building patterns can make. -/
inductive Built : Pattern → Prop
  | ofText (text : String) : Built (ofText text)
  | ofTextIgnoringCase (text : String) : Built (ofTextIgnoringCase text)
  | ofChar (c : Char) : Built (ofChar c)
  | named (name : String) (accepts : Char → Bool) : Built (test ⟨.named name, accepts⟩)
  | predicate (accepts : Char → Bool) (id : Nat) : Built ((Build.predicate accepts).run id).1
  | seq {left right : Pattern} : Built left → Built right → Built (seq left right)
  | alternate {left right : Pattern} (id : Nat) :
    Built left → Built right → Built ((Build.alternate left right).run id).1
  | optional {inner : Pattern} : Built inner → Built (optional inner)
  | span {inner : Pattern} : Built inner → Built (span inner)
  | repeated {inner : Pattern} (count : UInt64) : Built inner → Built (repeated inner count)
  | negation {inner : Pattern} : Built inner → Built (negation inner)
  | range {opener closer : Pattern} : Built opener → Built closer → Built (range opener closer)
  | escapedRange {opener closer escape : Pattern} :
    Built opener → Built closer → Built escape → Built (escapedRange opener closer escape)
  | nestedRange {opener closer : Pattern} :
    Built opener → Built closer → Built (nestedRange opener closer)
  | capture {inner : Pattern} (name : String) : Built inner → Built (capture inner name)

/-- Building folds wherever it can, so building anew folds nothing more. -/
theorem Built.refold_eq {p : Pattern} (h : Built p) : p.refold = p := by
  induction h with
  | ofText | ofTextIgnoringCase | ofChar | named | predicate => rfl
  | @alternate left right id _ _ ihl ihr =>
    change (left.alternate id right).refold = left.alternate id right
    rcases alternate_cases left right with ⟨s, t, rfl, rfl⟩ | he
    · rfl
    · rw [he, refold, ihl, ihr, he]
  | seq _ _ ihl ihr | range _ _ ihl ihr | nestedRange _ _ ihl ihr => rw [refold, ihl, ihr]
  | optional _ ih | span _ ih | repeated _ _ ih | negation _ ih | capture _ _ ih => rw [refold, ih]
  | escapedRange _ _ _ iho ihc ihe => rw [refold, iho, ihc, ihe]

theorem equal_self (p : Pattern) : (p == p) = true := by
  change p.equal p = true
  induction p with
  | literal l =>
    have same := l.comparison.sameText_self l.text
    simp [equal, BEq.beq, same]
  | test t => simp [equal, BEq.beq]
  | _ => simp_all [equal]

end Pattern

/-- What a pattern text can stand for: folded wherever that can be done, and with a text of its own
for every part. -/
structure Pattern.Written (p : Pattern) : Prop where
  representable : p.Representable
  built : p.Built

namespace Pattern.Written

variable {p q : Pattern}

theorem test {t : CharTest} (h : t.IsUnion) : (test t).Written := by
  refine ⟨h, ?_⟩
  obtain ⟨ks, -, rfl⟩ := h
  exact .named _ _

theorem ofClass (k : CharClass) : (ofClass k).Written :=
  test ⟨[k], by simp, (CharClass.union_singleton k).symm⟩

theorem seq (hp : p.Written) (hq : q.Written) : (p.seq q).Written :=
  ⟨⟨hp.representable, hq.representable⟩, .seq hp.built hq.built⟩

theorem alternate (hp : p.Written) (hq : q.Written) (id : Nat) : (p.alternate id q).Written :=
  ⟨hp.representable.alternate hq.representable id, .alternate id hp.built hq.built⟩

end Pattern.Written

end TextPattern
