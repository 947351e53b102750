import TextPattern.Proofs.Agreement
import TextPattern.Proofs.Mirrored

namespace TextPattern

/-- The pattern with what it records in the place of every capture. -/
def Pattern.withoutCaptures : Pattern → Pattern
  | literal l => literal l
  | test t => test t
  | seq left right => seq left.withoutCaptures right.withoutCaptures
  | alt left right => alt left.withoutCaptures right.withoutCaptures
  | optional inner => optional inner.withoutCaptures
  | span inner => span inner.withoutCaptures
  | repeated inner count => repeated inner.withoutCaptures count
  | negation inner => negation inner.withoutCaptures
  | range opener closer => range opener.withoutCaptures closer.withoutCaptures
  | escapedRange opener closer escape =>
    escapedRange opener.withoutCaptures closer.withoutCaptures escape.withoutCaptures
  | nestedRange opener closer => nestedRange opener.withoutCaptures closer.withoutCaptures
  | capture inner _ => inner.withoutCaptures

def Match.bare (m : Match) : Match :=
  ⟨m.length, []⟩

def Hit.bare (h : Hit) : Hit :=
  ⟨h.start, h.stop, []⟩

theorem Match.recapture_nil : recapture (fun _ => []) = bare := by
  funext m
  simp [recapture, bare]

theorem Hit.recapture_nil : recapture (fun _ => []) 0 = bare := by
  funext h
  simp [recapture, bare]

namespace Matcher

variable {ε : Type}

/-- The same matches with the same errors, but with no captures. -/
def Unrecorded (a b : Matcher ε) : Prop :=
  Mirrors (fun _ => []) 0 a b

theorem Unrecorded.run {a b : Matcher ε} (h : a.Unrecorded b) (p : Point) :
    b.run p = (a.run p).map Match.bare := by
  have mirrored := h p
  rwa [Point.shift_zero, Match.recapture_nil] at mirrored

theorem Unrecorded.captured {a b : Matcher ε} (h : a.Unrecorded b) (name : String) :
    (a.captured name).Unrecorded b := by
  intro p
  rw [h p]
  simp only [Matcher.captured]
  cases a.run p with
  | error e => rfl
  | ok m =>
    simp only [Except.map, Match.recapture, Match.record, List.flatMap_append, List.flatMap_cons,
      List.flatMap_nil, List.append_nil]

theorem Mirrors.modal {f : Capture → List Capture} {n : Nat} {a b : Matcher (MatchError Unit)}
    (h : Mirrors f n a b) (mode : Mode) : Mirrors f n (a.modal mode) (b.modal mode) := by
  cases mode with
  | consume => exact h
  | neglect => exact h.anythingBut _ _

section Searches

variable {a b : Matcher ε} (h : a.Unrecorded b) (text : List Char)

include h

theorem Unrecorded.hitAtOffset (offset : Nat) :
    b.hitAtOffset text offset = (a.hitAtOffset text offset).map Hit.bare := by
  have mirrored := Mirrors.hitAtOffset [] text h offset
  rwa [List.nil_append, List.length_nil, Nat.zero_add, Hit.recapture_nil] at mirrored

theorem Unrecorded.firstHit (start : Nat) :
    b.firstHit text start = (a.firstHit text start).map Hit.bare := by
  have mirrored := Mirrors.firstHit [] text h start
  rwa [List.nil_append, List.length_nil, Nat.zero_add, Hit.recapture_nil] at mirrored

theorem Unrecorded.lastHit (start : Nat) :
    b.lastHit text start = (a.lastHit text start).map Hit.bare := by
  rw [Matcher.lastHit, Matcher.lastHit, List.map_findSome?]
  exact congrArg (List.findSome? · _) (funext (h.hitAtOffset text))

theorem Unrecorded.hitsFrom (start : Nat) :
    b.hitsFrom text start = (a.hitsFrom text start).map Hit.bare := by
  have mirrored := Mirrors.hitsFrom [] text h start
  rwa [List.nil_append, List.length_nil, Nat.zero_add, Hit.recapture_nil] at mirrored

end Searches

end Matcher

namespace Pattern

theorem outcome_unrecorded (p : Pattern) (mode : Mode) :
    (p.outcome mode).Unrecorded (p.withoutCaptures.outcome mode) := by
  induction p generalizing mode with
  | literal l =>
    cases mode with
    | consume =>
      rw [withoutCaptures, outcome_literal_consume]
      exact Matcher.block_mirrors _ _ _ _
    | neglect =>
      rw [withoutCaptures, outcome_literal_neglect]
      exact Matcher.block_mirrors _ _ _ _
  | test t =>
    cases mode with
    | consume =>
      rw [withoutCaptures, outcome_test_consume]
      exact Matcher.char_mirrors _ _ _
    | neglect =>
      rw [withoutCaptures, outcome_test_neglect]
      exact Matcher.char_mirrors _ _ _
  | seq left right ihl ihr =>
    rw [withoutCaptures, outcome_seq, outcome_seq]
    exact ((ihl .consume).andThen (ihr .consume)).modal mode
  | alt left right ihl ihr =>
    rw [withoutCaptures, outcome_alt, outcome_alt]
    exact ((ihl .consume).orElse (ihr .consume)).modal mode
  | optional inner ih =>
    rw [withoutCaptures, outcome_optional, outcome_optional]
    exact (ih .consume).optional.modal mode
  | span inner ih =>
    rw [withoutCaptures, outcome_span, outcome_span]
    exact (ih .consume).span.modal mode
  | repeated inner count ih =>
    rw [withoutCaptures, outcome_repeated, outcome_repeated]
    exact ((ih .consume).times count.toNat).modal mode
  | negation inner ih =>
    rw [withoutCaptures, outcome_negation, outcome_negation]
    exact ih mode.flip
  | range opener closer iho ihc =>
    rw [withoutCaptures, outcome_range, outcome_range]
    exact ((iho .consume).range (ihc .consume) _).modal mode
  | escapedRange opener closer escape iho ihc ihe =>
    rw [withoutCaptures, outcome_escapedRange, outcome_escapedRange]
    exact ((iho .consume).escapedRange (ihc .consume) (ihe .consume) _).modal mode
  | nestedRange opener closer iho ihc =>
    rw [withoutCaptures, outcome_nestedRange, outcome_nestedRange]
    exact ((iho .consume).nestedRange (ihc .consume) (iho .consume) _).modal mode
  | capture inner name ih =>
    rw [withoutCaptures, outcome_capture]
    exact (ih mode).captured name

theorem nullable_withoutCaptures (p : Pattern) (mode : Mode) :
    p.withoutCaptures.nullable mode = p.nullable mode := by
  induction p generalizing mode with
  | literal l => rfl
  | test t => rfl
  | negation inner ih => exact ih mode.flip
  | capture inner name ih => exact ih mode
  | optional inner ih | span inner ih => cases mode <;> rfl
  | repeated inner count ih => cases mode <;> simp only [withoutCaptures, nullable, ih]
  | seq left right ihl ihr | alt left right ihl ihr | range left right ihl ihr
  | nestedRange left right ihl ihr | escapedRange left right escape ihl ihr ihe =>
    cases mode <;> simp only [withoutCaptures, nullable, ihl, ihr]

theorem header_withoutCaptures (p : Pattern) (mode : Mode) (ahead : List Char) :
    p.withoutCaptures.header mode ahead = p.header mode ahead := by
  induction p generalizing mode with
  | literal l => rfl
  | test t => rfl
  | negation inner ih => exact ih mode.flip
  | capture inner name ih => exact ih mode
  | optional inner ih | span inner ih => cases mode <;> rfl
  | repeated inner count ih => cases mode <;> simp only [withoutCaptures, header, ih]
  | seq left right ihl ihr | alt left right ihl ihr | range left right ihl ihr
  | nestedRange left right ihl ihr | escapedRange left right escape ihl ihr ihe =>
    cases mode <;> simp only [withoutCaptures, header, nullable_withoutCaptures, ihl, ihr]

/-- What is recorded has no influence. Without its captures a pattern matches the same text, moves
the cursor to the same place, fails in the same way and is found at the same places; it only tells
less. -/
theorem captures_unobservable (p : Pattern) :
    (∀ (c : Cursor) (mode : Mode),
      c.outcome p.withoutCaptures mode =
          ((c.outcome p mode).1.map Match.bare, (c.outcome p mode).2) ∧
        c.header p.withoutCaptures mode = c.header p mode ∧
        p.withoutCaptures.nullable mode = p.nullable mode) ∧
      ∀ (text : List Char) (start : Nat),
        p.withoutCaptures.hitAt text start = (p.hitAt text start).map Hit.bare ∧
          p.withoutCaptures.findForward text start = (p.findForward text start).map Hit.bare ∧
          p.withoutCaptures.findBackward text start = (p.findBackward text start).map Hit.bare ∧
          p.withoutCaptures.findAll text start = (p.findAll text start).map Hit.bare := by
  have same := p.outcome_unrecorded .consume
  refine ⟨fun c mode => ⟨?_, ?_, p.nullable_withoutCaptures mode⟩,
    fun text start => ⟨?_, ?_, ?_, ?_⟩⟩
  · rw [Cursor.outcome_eq_follow, Cursor.outcome_eq_follow]
    simp only [Cursor.follow, (p.outcome_unrecorded mode).run c.point]
    cases (p.outcome mode).run c.point <;> rfl
  · exact p.header_withoutCaptures mode c.point.rest
  · rw [hitAt_eq_outcome, hitAt_eq_outcome, same.hitAtOffset text]
  · rw [findForward_eq_outcome, findForward_eq_outcome, same.firstHit text]
  · rw [findBackward_eq_outcome, findBackward_eq_outcome, same.lastHit text]
  · rw [findAll_eq_outcome, findAll_eq_outcome, same.hitsFrom text]

end Pattern

end TextPattern
