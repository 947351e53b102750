import TextPattern.Proofs.Follow
import TextPattern.Proofs.Mirrored

namespace TextPattern

/-! Captures, matches and hits that are moved by `n` characters. -/

def Capture.shift (n : Nat) (k : Capture) : Capture :=
  ⟨k.name, n + k.offset, k.text⟩

def Match.shift (n : Nat) (m : Match) : Match :=
  ⟨m.length, m.captures.map (·.shift n)⟩

def Hit.shift (n : Nat) (h : Hit) : Hit :=
  ⟨n + h.start, n + h.stop, h.captures.map (·.shift n)⟩

/-- The cursor with more text behind it. -/
def Cursor.after (before : List Char) (c : Cursor) : Cursor where
  text := before ++ c.text
  position := before.length + c.position
  position_le := by
    have := c.position_le
    rw [List.length_append]
    omega

@[simp] theorem Match.length_shift (n : Nat) (m : Match) : (m.shift n).length = m.length := rfl

theorem Match.shift_eq_recapture (n : Nat) : Match.shift n = recapture fun k => [k.shift n] := by
  funext m
  rw [shift, recapture, List.map_eq_flatMap]

theorem Hit.shift_eq_recapture (n : Nat) : Hit.shift n = recapture (fun k => [k.shift n]) n := by
  funext h
  rw [shift, recapture, List.map_eq_flatMap]

namespace Matcher

variable {δ ε : Type}

/-- Moving a place moves the captures that are recorded from there, and changes nothing else: only
what lies ahead is looked at. -/
def Translates (a : Matcher ε) : Prop :=
  ∀ n p, a.run (p.shift n) = (a.run p).map (·.shift n)

theorem translates_iff {a : Matcher ε} :
    a.Translates ↔ ∀ n, Mirrors (fun k => [k.shift n]) n a a := by
  have same (n : Nat) (p : Point) : (a.run p).map (·.shift n) =
      (a.run p).map (·.recapture fun k => [k.shift n]) := by
    rw [← Match.shift_eq_recapture]
  exact ⟨fun h n p => (h n p).trans (same n p), fun h n p => (h n p).trans (same n p).symm⟩

theorem Translates.probe {a : Matcher δ} (ha : a.Translates) (test : List Char → Bool) :
    (a.probe test).Translates :=
  translates_iff.mpr fun n => (translates_iff.mp ha n).probe test

section Searches

variable {a : Matcher ε} (before text : List Char)

theorem Translates.firstHit (ha : a.Translates) (start : Nat) :
    a.firstHit (before ++ text) (before.length + start) =
      (a.firstHit text start).map (·.shift before.length) := by
  rw [Hit.shift_eq_recapture]
  exact (translates_iff.mp ha before.length).firstHit before text start

theorem Translates.hitsFrom (ha : a.Translates) (start : Nat) :
    a.hitsFrom (before ++ text) (before.length + start) =
      (a.hitsFrom text start).map (·.shift before.length) := by
  rw [Hit.shift_eq_recapture]
  exact (translates_iff.mp ha before.length).hitsFrom before text start

end Searches

end Matcher

namespace Cursor

theorem point_after (before : List Char) (c : Cursor) :
    (c.after before).point = c.point.shift before.length :=
  Point.within_append before c.text c.position

theorem after_advance (before : List Char) (c : Cursor) (n : Nat) :
    (c.after before).advance n = (c.advance n).after before := by
  refine eq_of_position rfl ?_
  simp only [advance, seek, place, after, List.length_append]
  omega

theorem follow_after {ε : Type} {a : Matcher ε} (ha : a.Translates) (before : List Char)
    (c : Cursor) : (c.after before).follow a =
      ((c.follow a).1.map (·.shift before.length), (c.follow a).2.after before) := by
  simp only [follow, point_after, ha before.length]
  cases a.run c.point with
  | error e => rfl
  | ok m => simp only [Except.map, Match.length_shift, after_advance]

end Cursor

namespace Pattern

theorem matcher_translates (p : Pattern) (mode : Mode) : (p.matcher mode).Translates :=
  Matcher.translates_iff.mpr fun _ => p.matcher_mirrors mode fun _ _ _ _ => rfl

/-- Text that lies behind has no influence. With more of it every match, every error and every hit
from there on is what it was, at places that are moved by so many characters. -/
theorem matching_translates (p : Pattern) (before : List Char) :
    (∀ (c : Cursor) (mode : Mode),
      (c.after before).run p mode =
          ((c.run p mode).1.map (·.shift before.length), (c.run p mode).2.after before) ∧
        (c.after before).header p mode = c.header p mode) ∧
      ∀ (text : List Char) (start : Nat),
        p.findForward (before ++ text) (before.length + start) =
            (p.findForward text start).map (·.shift before.length) ∧
          p.findAll (before ++ text) (before.length + start) =
            (p.findAll text start).map (·.shift before.length) := by
  have attempt : p.attempt.Translates := (p.matcher_translates .consume).probe _
  refine ⟨fun c mode => ⟨?_, ?_⟩, fun text start => ⟨?_, ?_⟩⟩
  · rw [Cursor.run_eq_follow, Cursor.run_eq_follow]
    exact Cursor.follow_after (p.matcher_translates mode) before c
  · rw [Cursor.header, Cursor.header, Cursor.point_after, Point.rest_shift]
  · simp only [findForward, Matcher.findSome?_forward, attempt.firstHit]
  · simp only [findAll, Matcher.hitsOnto_forward, attempt.hitsFrom]

end Pattern

end TextPattern
