import TextPattern.Cursor

namespace TextPattern.Cursor

variable {ε : Type}

/-- The cursor moved on by `n` characters, or to the end of the text if that is nearer. -/
def advance (c : Cursor) (n : Nat) : Cursor :=
  c.seek (c.position + n)

/-- Where a matcher takes a cursor: to the end of a match, and nowhere if it fails. -/
def follow (c : Cursor) (a : Matcher ε) : Except ε Match × Cursor :=
  match a.run c.point with
  | .error e => (.error e, c)
  | .ok m => (.ok m, c.advance m.length)

theorem eq_of_position {c d : Cursor} (text : c.text = d.text) (position : c.position = d.position) :
    c = d := by
  cases c
  cases d
  cases text
  cases position
  rfl

theorem length_rest (c : Cursor) : c.point.rest.length = c.text.length - c.position := by
  simp [point]

theorem position_advance {c : Cursor} {n : Nat} (h : n ≤ c.point.rest.length) :
    (c.advance n).position = c.position + n := by
  have := c.position_le
  rw [length_rest] at h
  simp only [advance, seek, place]
  omega

theorem point_advance {c : Cursor} {n : Nat} (h : n ≤ c.point.rest.length) :
    (c.advance n).point = c.point.advance n := by
  rw [point, position_advance h, point, Point.advance_within]
  rfl

theorem run_eq_follow (c : Cursor) (p : Pattern) (mode : Mode) :
    c.run p mode = c.follow (p.matcher mode) := by
  cases h : (p.matcher mode).run c.point with
  | error e => rw [run_error h, follow, h]
  | ok m =>
    obtain ⟨result, text, position⟩ := run_ok h
    rw [follow, h]
    refine Prod.ext result (eq_of_position text ?_)
    rw [position, position_advance ((p.matcher mode).fits h)]

end TextPattern.Cursor
