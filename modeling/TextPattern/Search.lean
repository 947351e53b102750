import TextPattern.Pattern.Matching

namespace TextPattern

/-- A match in a text, from the offset `start` up to the offset `stop`. -/
structure Hit where
  start : Nat
  stop : Nat
  captures : List Capture
deriving DecidableEq

namespace Hit

def ofMatch (p : Point) (m : Match) : Hit :=
  ⟨p.offset, p.offset + m.length, m.captures⟩

def length (h : Hit) : Nat :=
  h.stop - h.start

def isEmpty (h : Hit) : Bool :=
  h.start == h.stop

def text (h : Hit) (source : List Char) : List Char :=
  (source.drop h.start).take h.length

end Hit

namespace Matcher

variable {ε : Type}

def hitAt (a : Matcher ε) (p : Point) : Option Hit :=
  match a.run p with
  | .ok m => some (.ofMatch p m)
  | .error _ => none

/-- The hits at the given places, put after those in `found`, the last of which comes first. The
places that a hit covers are passed over, its own place in any case. -/
def hitsOnto (a : Matcher ε) (found : List Hit) : List Point → List Hit
  | [] => found.reverse
  | p :: later =>
    match a.run p with
    | .error _ => a.hitsOnto found later
    | .ok m => a.hitsOnto (.ofMatch p m :: found) (later.drop (m.length - 1))
termination_by places => places.length
decreasing_by
  · simp
  · simp only [List.length_drop, List.length_cons]
    omega

theorem hitsOnto_eq (a : Matcher ε) (found : List Hit) (places : List Point) :
    a.hitsOnto found places = found.reverse ++ a.hitsOnto [] places := by
  have general : ∀ before found places,
      a.hitsOnto (found ++ before) places = before.reverse ++ a.hitsOnto found places := by
    intro before found places
    fun_induction hitsOnto a found places with
    | case1 found => rw [hitsOnto, List.reverse_append]
    | case2 found p later e h ih =>
      rw [hitsOnto, h]
      exact ih
    | case3 found p later m h ih =>
      rw [hitsOnto, h]
      exact ih
  exact general found [] places

end Matcher

namespace Pattern

/-- Consuming, but only where the header allows. -/
def attempt (p : Pattern) : Matcher Unit :=
  (p.matcher .consume).probe (p.header .consume)

/-- The hit that begins right at `offset`. -/
def hitAt (p : Pattern) (text : List Char) (offset : Nat) : Option Hit :=
  if offset ≤ text.length then p.attempt.hitAt (.within text offset) else none

/-- The leftmost hit that begins at `start` or after it. -/
def findForward (p : Pattern) (text : List Char) (start : Nat) : Option Hit :=
  ((Point.forward text).drop start).findSome? p.attempt.hitAt

/-- The rightmost hit that begins at `start` or before it. -/
def findBackward (p : Pattern) (text : List Char) (start : Nat) : Option Hit :=
  ((Point.backward text).drop (text.length - start)).findSome? p.attempt.hitAt

/-- The hits from `start` on, left to right, none of which overlaps another. -/
def findAll (p : Pattern) (text : List Char) (start : Nat) : List Hit :=
  p.attempt.hitsOnto [] ((Point.forward text).drop start)

end Pattern

end TextPattern
