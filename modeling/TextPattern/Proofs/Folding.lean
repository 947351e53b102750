import TextPattern.Proofs.Agreement
import TextPattern.Proofs.Rebuild

namespace TextPattern

/-- Whatever the next number is, what is built has the property. -/
def Build.Ensures {α : Type} (x : Build α) (holds : α → Prop) : Prop :=
  ∀ id, holds (x.run id).1

namespace Build.Ensures

variable {α β : Type}

theorem pure {holds : α → Prop} {a : α} (h : holds a) : Ensures (Pure.pure a) holds :=
  fun _ => h

theorem bind {x : Build α} {f : α → Build β} {first : α → Prop} {second : β → Prop}
    (hx : x.Ensures first) (hf : ∀ a, first a → (f a).Ensures second) :
    (x >>= f).Ensures second := by
  intro id
  rw [StateT.run_bind]
  exact hf _ (hx id) _

end Build.Ensures

namespace Pattern

/-- No choice in the pattern is one between two tests. -/
def Folded : Pattern → Prop
  | literal _ | test _ => True
  | alt left right =>
    (¬∃ s t, left = test s ∧ right = test t) ∧ left.Folded ∧ right.Folded
  | seq left right => left.Folded ∧ right.Folded
  | optional inner | span inner | repeated inner _ | negation inner | capture inner _ =>
    inner.Folded
  | range opener closer | nestedRange opener closer => opener.Folded ∧ closer.Folded
  | escapedRange opener closer escape => opener.Folded ∧ closer.Folded ∧ escape.Folded

/-- A folded pattern with the outcomes of another. -/
structure FoldOf (p folded : Pattern) : Prop where
  outcome : ∀ mode, p.outcome mode = folded.outcome mode
  folded : folded.Folded

theorem FoldOf.alternate {a b left right : Pattern} (ha : FoldOf a left) (hb : FoldOf b right)
    (id : Nat) : FoldOf (alt a b) (left.alternate id right) := by
  have parts (mode : Mode) : (alt a b).outcome mode = (alt left right).outcome mode := by
    simp only [outcome_alt, ha.outcome, hb.outcome]
  rcases alternate_cases left right with ⟨s, t, rfl, rfl⟩ | kept
  · refine ⟨fun mode => ?_, trivial⟩
    rw [parts, agrees_iff.mp (alt_agrees_either s t id) mode]
    rfl
  · rw [kept id]
    refine ⟨parts, ?_, ha.folded, hb.folded⟩
    rintro ⟨s, t, rfl, rfl⟩
    cases kept id

theorem rebuild_ensures (p : Pattern) : p.rebuild.Ensures p.FoldOf := by
  induction p with
  | literal l => exact .pure ⟨fun _ => rfl, trivial⟩
  | test t => exact .pure ⟨fun _ => rfl, trivial⟩
  | seq left right ihl ihr =>
    refine ihl.bind fun l hl => ihr.bind fun r hr => .pure ⟨fun mode => ?_, hl.folded, hr.folded⟩
    simp only [outcome_seq, hl.outcome, hr.outcome]
  | alt left right ihl ihr =>
    exact ihl.bind fun l hl => ihr.bind fun r hr id => hl.alternate hr id
  | optional inner ih =>
    refine ih.bind fun i hi => .pure ⟨fun mode => ?_, hi.folded⟩
    simp only [outcome_optional, hi.outcome]
  | span inner ih =>
    refine ih.bind fun i hi => .pure ⟨fun mode => ?_, hi.folded⟩
    simp only [outcome_span, hi.outcome]
  | repeated inner count ih =>
    refine ih.bind fun i hi => .pure ⟨fun mode => ?_, hi.folded⟩
    simp only [outcome_repeated, hi.outcome]
  | negation inner ih =>
    refine ih.bind fun i hi => .pure ⟨fun mode => ?_, hi.folded⟩
    simp only [outcome_negation, hi.outcome]
  | range opener closer iho ihc =>
    refine iho.bind fun o ho => ihc.bind fun c hc => .pure ⟨fun mode => ?_, ho.folded, hc.folded⟩
    simp only [outcome_range, ho.outcome, hc.outcome]
  | escapedRange opener closer escape iho ihc ihe =>
    refine iho.bind fun o ho => ihc.bind fun c hc => ihe.bind fun e he =>
      .pure ⟨fun mode => ?_, ho.folded, hc.folded, he.folded⟩
    simp only [outcome_escapedRange, ho.outcome, hc.outcome, he.outcome]
  | nestedRange opener closer iho ihc =>
    refine iho.bind fun o ho => ihc.bind fun c hc => .pure ⟨fun mode => ?_, ho.folded, hc.folded⟩
    simp only [outcome_nestedRange, ho.outcome, hc.outcome]
  | capture inner name ih =>
    refine ih.bind fun i hi => .pure ⟨fun mode => ?_, hi.folded⟩
    simp only [outcome_capture, hi.outcome]

/-- Building a pattern anew folds every choice between two tests, also one that only comes about
when its parts are folded. No match and no search tells the result from the pattern, unless by what an
error concerns. -/
theorem folding_transparent (p : Pattern) (id : Nat) :
    let folded := (p.rebuild.run id).1
    folded.Folded ∧ (∀ (c : Cursor) (mode : Mode), c.outcome p mode = c.outcome folded mode) ∧
      p.SameHits folded := by
  intro folded
  obtain ⟨outcome, shape⟩ := p.rebuild_ensures id
  have agrees : p.Agrees folded := agrees_iff.mpr outcome
  exact ⟨shape, agrees.outcome, agrees.sameHits⟩

example (s t u : CharTest) : ((alt (alt (test s) (test t)) (test u)).rebuild.run 0).1 =
    test ((s.either 0 t).either 1 u) := rfl

end Pattern

end TextPattern
