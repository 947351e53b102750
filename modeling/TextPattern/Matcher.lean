import TextPattern.Match
import TextPattern.Point

namespace TextPattern

/-- A way to match text at a place, failing with an error of type `ε`. A match never reaches past
the end of the text. -/
@[ext]
structure Matcher (ε : Type) where
  run : Point → Except ε Match
  fits : ∀ {p : Point} {m : Match}, run p = .ok m → m.length ≤ p.rest.length

namespace Matcher

variable {δ ε : Type}

/-- Exactly `width` characters that are accepted together. -/
def block (width : Nat) (accepts : List Char → Bool) (short refused : ε) : Matcher ε where
  run p :=
    let ahead := p.rest.take width
    if ahead.length = width then
      if accepts ahead then .ok ⟨width, []⟩ else .error refused
    else .error short
  fits := by
    intro p m h
    simp only [List.length_take] at h
    split at h
    next hw =>
      split at h
      next => cases h; simp only; omega
      next => cases h
    next => cases h

/-- One character that is accepted. -/
def char (accepts : Char → Bool) (short refused : ε) : Matcher ε where
  run p :=
    match p.rest with
    | [] => .error short
    | c :: _ => if accepts c then .ok ⟨1, []⟩ else .error refused
  fits := by
    intro p m h
    cases hr : p.rest with
    | nil => simp [hr] at h
    | cons c rest =>
      simp only [hr] at h
      split at h
      next => cases h; simp
      next => cases h

/-- The second right after the first. -/
def andThen (a b : Matcher ε) : Matcher ε where
  run p :=
    match a.run p with
    | .error e => .error e
    | .ok m =>
      match b.run (p.advance m.length) with
      | .error e => .error e
      | .ok n => .ok (m ++ n)
  fits := by
    intro p m h
    split at h
    next => cases h
    next k ha =>
      split at h
      next => cases h
      next n hb =>
        cases h
        have := a.fits ha
        have := b.fits hb
        simp only [Point.rest_advance, List.length_drop] at this
        simp only [Match.length_append]
        omega

theorem run_andThen_ok_iff {a b : Matcher ε} {p : Point} {m : Match} :
    (a.andThen b).run p = .ok m ↔
      ∃ k n, a.run p = .ok k ∧ b.run (p.advance k.length) = .ok n ∧ m = k ++ n := by
  constructor
  · intro h
    simp only [andThen] at h
    split at h
    next => cases h
    next k ha =>
      split at h
      next => cases h
      next n hb =>
        cases h
        exact ⟨k, n, ha, hb, rfl⟩
  · rintro ⟨k, n, ha, hb, rfl⟩
    simp only [andThen, ha, hb]

/-- The first, or the second where the first fails. -/
def orElse (a : Matcher δ) (b : Matcher ε) : Matcher ε where
  run p :=
    match a.run p with
    | .ok m => .ok m
    | .error _ => b.run p
  fits := by
    intro p m h
    split at h
    next ha => cases h; exact a.fits ha
    next => exact b.fits h

/-- A match, or the empty one where there is none. -/
def optional (a : Matcher δ) : Matcher ε where
  run p :=
    match a.run p with
    | .ok m => .ok m
    | .error _ => .ok .empty
  fits := by
    intro p m h
    split at h
    next ha => cases h; exact a.fits ha
    next => cases h; simp

/-- Only a match of one character or more. -/
def nonempty (a : Matcher δ) : Matcher Unit where
  run p :=
    match a.run p with
    | .ok m => if m.length = 0 then .error () else .ok m
    | .error _ => .error ()
  fits := by
    intro p m h
    split at h
    next ha =>
      split at h
      next => cases h
      next => cases h; exact a.fits ha
    next => cases h

theorem nonempty_pos {a : Matcher δ} {p : Point} {m : Match} (h : a.nonempty.run p = .ok m) :
    0 < m.length := by
  simp only [nonempty] at h
  split at h
  next =>
    split at h
    next => cases h
    next => cases h; omega
  next => cases h

theorem advance_length_lt {a : Matcher ε} {p : Point} {m : Match} (h : a.run p = .ok m)
    (pos : 0 < m.length) : (p.advance m.length).rest.length < p.rest.length := by
  have := a.fits h
  simp only [Point.rest_advance, List.length_drop]
  omega

/-- `acc`, and then one match after another until one fails or moves no further. -/
def spanFrom (a : Matcher δ) (acc : Match) (p : Point) : Match :=
  match _h : a.run p with
  | .error _ => acc
  | .ok m => if m.length = 0 then acc ++ m else a.spanFrom (acc ++ m) (p.advance m.length)
termination_by p.rest.length
decreasing_by exact advance_length_lt _h (by omega)

theorem spanFrom_length (a : Matcher δ) (acc : Match) (p : Point) :
    (a.spanFrom acc p).length ≤ acc.length + p.rest.length := by
  fun_induction spanFrom a acc p with
  | case1 => omega
  | case2 acc p m _ zero => simp [zero]
  | case3 acc p m h pos ih =>
    have := a.fits h
    simp only [Match.length_append, Point.rest_advance, List.length_drop] at ih
    omega

theorem spanFrom_eq (a : Matcher δ) (acc : Match) (p : Point) :
    a.spanFrom acc p = acc ++ a.spanFrom .empty p := by
  have general : ∀ pre acc p, a.spanFrom (pre ++ acc) p = pre ++ a.spanFrom acc p := by
    intro pre acc p
    fun_induction spanFrom a acc p with
    | case1 acc p e h => rw [spanFrom, h]
    | case2 acc p m h zero =>
      rw [spanFrom, h]
      simp only [zero, ↓reduceIte, Match.append_assoc]
    | case3 acc p m h pos ih =>
      rw [spanFrom, h]
      simp only [pos, ↓reduceIte, Match.append_assoc, ih]
  have := general acc .empty p
  rwa [Match.append_empty] at this

/-- As many matches as there are, one after another. -/
def span (a : Matcher δ) : Matcher ε where
  run p := .ok (a.spanFrom .empty p)
  fits := by
    intro p m h
    cases h
    simpa using a.spanFrom_length .empty p

/-- `acc`, and then `count` matches one after another. -/
def timesFrom (a : Matcher ε) : Nat → Match → Point → Except ε Match
  | 0, acc, _ => .ok acc
  | count + 1, acc, p =>
    match a.run p with
    | .error e => .error e
    | .ok m => a.timesFrom count (acc ++ m) (p.advance m.length)

theorem timesFrom_length {a : Matcher ε} {count : Nat} {acc m : Match} {p : Point}
    (h : a.timesFrom count acc p = .ok m) : m.length ≤ acc.length + p.rest.length := by
  induction count generalizing acc p with
  | zero => cases h; omega
  | succ count ih =>
    simp only [timesFrom] at h
    split at h
    next => cases h
    next n ha =>
      have := a.fits ha
      have := ih h
      simp only [Match.length_append, Point.rest_advance, List.length_drop] at this
      omega

theorem timesFrom_eq (a : Matcher ε) (count : Nat) (acc : Match) (p : Point) :
    a.timesFrom count acc p = (a.timesFrom count .empty p).map (acc ++ ·) := by
  have general : ∀ pre acc p,
      a.timesFrom count (pre ++ acc) p = (a.timesFrom count acc p).map (pre ++ ·) := by
    intro pre acc p
    induction count generalizing acc p with
    | zero => rfl
    | succ count ih =>
      simp only [timesFrom]
      cases a.run p with
      | error e => rfl
      | ok m => simp only [Match.append_assoc, ih]
  have := general acc .empty p
  rwa [Match.append_empty] at this

/-- Exactly `count` matches, one after another. -/
def times (count : Nat) (a : Matcher ε) : Matcher ε where
  run p := a.timesFrom count .empty p
  fits h := by simpa using timesFrom_length h

/-- The matched text is recorded under `name`, after what it records itself. -/
def captured (name : String) (a : Matcher ε) : Matcher ε where
  run p :=
    match a.run p with
    | .error e => .error e
    | .ok m => .ok (m.record ⟨name, p.offset, p.rest.take m.length⟩)
  fits := by
    intro p m h
    split at h
    next => cases h
    next m ha => cases h; exact a.fits (m := m) ha

/-- One character, where `a` fails. -/
def anythingBut (a : Matcher δ) (short found : ε) : Matcher ε where
  run p :=
    match a.run p with
    | .ok _ => .error found
    | .error _ =>
      match p.rest with
      | [] => .error short
      | _ :: _ => .ok ⟨1, []⟩
  fits := by
    intro p m h
    split at h
    next => cases h
    next =>
      split at h
      next => cases h
      next hr => cases h; simp [hr]

/-- A match is attempted only where the text ahead passes a test. -/
def probe (test : List Char → Bool) (a : Matcher δ) : Matcher Unit where
  run p :=
    if test p.rest then
      match a.run p with
      | .ok m => .ok m
      | .error _ => .error ()
    else .error ()
  fits := by
    intro p m h
    split at h
    next =>
      split at h
      next ha => cases h; exact a.fits ha
      next => cases h
    next => cases h

theorem run_probe_ok_iff {test : List Char → Bool} {a : Matcher δ} {p : Point} {m : Match} :
    (a.probe test).run p = .ok m ↔ test p.rest ∧ a.run p = .ok m := by
  simp only [probe]
  split
  next pass =>
    split
    next n ha => simp [pass, ha]
    next ha => simp [ha]
  next fail => simp [fail]

end Matcher

end TextPattern
