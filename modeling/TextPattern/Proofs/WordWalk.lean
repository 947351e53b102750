import Mathlib.Algebra.Group.Nat.Defs
import Mathlib.Data.PFun
import TextPattern.Proofs.Moves

namespace TextPattern

/-- What stops a program that counts in 64-bit words. -/
inductive Fault
  /-- A sum that does not fit a word. -/
  | overflow
  /-- A difference below zero. -/
  | underflow
  /-- A stretch that does not lie within its text. -/
  | outside
deriving DecidableEq

/-- A place in a text, with nothing that keeps it inside. -/
structure WordCursor where
  text : List Char
  position : Nat

def Cursor.word (c : Cursor) : WordCursor :=
  ⟨c.text, c.position⟩

/-- A program that moves a cursor. It may go on forever, and it may come to a fault. -/
abbrev Walk :=
  StateT WordCursor (ExceptT Fault Part)

namespace Walk

section Loops

variable {α σ : Type}

/-- How a round leaves its loop: with a result, with a fault, or for another round. -/
def settle : Except Fault ((α ⊕ σ) × WordCursor) →
    Except Fault (α × WordCursor) ⊕ (σ × WordCursor)
  | .error f => .inl (.error f)
  | .ok (.inl a, c) => .inl (.ok (a, c))
  | .ok (.inr s, c) => .inr (s, c)

/-- Round after round, each from what the one before it left. -/
def loop (round : σ → Walk (α ⊕ σ)) (s : σ) : Walk α := fun c =>
  PFun.fix (fun here => Part.map settle (round here.1 here.2)) (s, c)

/-- A last round. -/
def finish (w : Walk α) : Walk (α ⊕ σ) := do
  let a ← w
  return .inl a

variable {round : σ → Walk (α ⊕ σ)} {s t : σ} {c d : WordCursor} {a : α}

theorem loop_done (h : round s c = Part.some (.ok (.inl a, d))) :
    loop round s c = Part.some (.ok (a, d)) := by
  refine Part.eq_some_iff.mpr (PFun.fix_stop ?_)
  rw [h]
  exact Part.mem_map settle (Part.mem_some _)

theorem loop_again (h : round s c = Part.some (.ok (.inr t, d))) :
    loop round s c = loop round t d := by
  refine PFun.fix_fwd_eq ?_
  rw [h]
  exact Part.mem_map settle (Part.mem_some _)

end Loops

def add (a b : Nat) : Walk Nat :=
  if a + b < UInt64.size then return a + b else throw .overflow

def sub (a b : Nat) : Walk Nat :=
  if b ≤ a then return a - b else throw .underflow

def position : Walk Nat := do
  let c ← get
  return c.position

def seek (n : Nat) : Walk Unit :=
  modify fun c => ⟨c.text, min n c.text.length⟩

def advance (n : Nat) : Walk Unit := do
  let here ← position
  let there ← add here n
  seek there

def atEnd : Walk Bool := do
  let c ← get
  return c.position == c.text.length

def remaining : Walk Nat := do
  let c ← get
  sub c.text.length c.position

def peek : Walk (Option Char) := do
  let c ← get
  return c.text[c.position]?

def peekMany (n : Nat) : Walk (Option (List Char)) := do
  let c ← get
  let stop ← add c.position n
  return if stop ≤ c.text.length then some ((c.text.drop c.position).take n) else none

def slice (start n : Nat) : Walk (List Char) := do
  let c ← get
  let stop ← add start n
  if stop ≤ c.text.length then return (c.text.drop start).take n else throw .outside

def extend (v w : Verdict) : Walk Verdict := do
  let length ← add v.length w.length
  return ⟨length, v.error, v.captures ++ w.captures⟩

def block (width : Nat) (accepts : List Char → Bool) (short refused : MatchError Pattern) :
    Walk Verdict := do
  match ← peekMany width with
  | none => return .failure short
  | some ahead =>
    if accepts ahead then do
      advance width
      return .success width
    else return .failure refused

def single (accepts : Char → Bool) (short refused : MatchError Pattern) : Walk Verdict := do
  match ← peek with
  | none => return .failure short
  | some c =>
    if accepts c then do
      advance 1
      return .success 1
    else return .failure refused

def sequence (a b : Walk Verdict) : Walk Verdict := do
  let start ← position
  let v ← a
  if v.failed then do
    seek start
    return v
  else do
    let w ← b
    if w.failed then do
      seek start
      return w
    else extend v w

def attempt (header : Walk Bool) (a : Walk Verdict) : Walk (Option Verdict) := do
  if ← header then do
    let start ← position
    let v ← a
    if v.failed then do
      seek start
      return none
    else return some v
  else return none

def choice (a : Walk (Option Verdict)) (b : Walk Verdict) : Walk Verdict := do
  let start ← position
  match ← a with
  | some v => return v
  | none => do
    let w ← b
    if w.failed then do
      seek start
      return w
    else return w

def optional (a : Walk Verdict) : Walk Verdict := do
  let start ← position
  let v ← a
  if v.failed then do
    seek start
    return .success 0
  else return v

/-- One round of a span, from what has been matched before it. -/
def spanRound (a : Walk Verdict) (total : Verdict) : Walk (Verdict ⊕ Verdict) := do
  let start ← position
  let v ← a
  if v.failed then do
    seek start
    return .inl total
  else do
    let total ← extend total v
    return if v.length = 0 then .inl total else .inr total

def spanFrom (a : Walk Verdict) : Verdict → Walk Verdict :=
  loop a.spanRound

def timesFrom (a : Walk Verdict) (start : Nat) : Nat → Verdict → Walk Verdict
  | 0, total => return total
  | count + 1, total => do
    let v ← a
    if v.failed then do
      seek start
      return v
    else do
      let total ← extend total v
      a.timesFrom start count total

def times (a : Walk Verdict) (count : Nat) : Walk Verdict := do
  let start ← position
  a.timesFrom start count (.success 0)

def captured (name : String) (a : Walk Verdict) : Walk Verdict := do
  let start ← position
  let v ← a
  if v.failed then return v
  else do
    let text ← slice start v.length
    return v.record ⟨name, start, text⟩

def anythingBut (a : Walk Verdict) (short found : MatchError Pattern) : Walk Verdict := do
  let start ← position
  let v ← a
  seek start
  if v.failed then do
    if ← atEnd then return .failure short
    else do
      advance 1
      return .success 1
  else return .failure found

def opened (a : Walk Verdict) (scan : Nat → Verdict → Walk Verdict) : Walk Verdict := do
  let start ← position
  let v ← a
  if v.failed then do
    seek start
    return v
  else scan start v

/-- What has been matched, with the length measured at the end. -/
def measured (start : Nat) (total : Verdict) : Walk Verdict := do
  let stop ← position
  let length ← sub stop start
  return total.withLength length

def unterminated (unclosed : MatchError Pattern) (start : Nat) : Walk Verdict := do
  seek start
  return .failure unclosed

/-- The next character belongs to what is scanned, unless the text ends here. -/
def skip {σ : Type} (unclosed : MatchError Pattern) (start : Nat) (s : σ) :
    Walk (Verdict ⊕ σ) := do
  if ← atEnd then finish (unterminated unclosed start)
  else do
    advance 1
    return .inr s

def closerRound (closer : Walk (Option Verdict)) (unclosed : MatchError Pattern) (start : Nat)
    (total : Verdict) : Walk (Verdict ⊕ Verdict) := do
  match ← closer with
  | some v => finish do
    let total ← extend total v
    measured start total
  | none => skip unclosed start total

def toCloser (closer : Walk (Option Verdict)) (unclosed : MatchError Pattern) (start : Nat) :
    Verdict → Walk Verdict :=
  loop (closerRound closer unclosed start)

/-- What follows an escape is skipped, whatever it is. -/
def unescapedRound (closer escape : Walk (Option Verdict)) (unclosed : MatchError Pattern)
    (start : Nat) (total : Verdict) : Walk (Verdict ⊕ Verdict) := do
  match ← escape with
  | some v => do
    let total ← extend total v
    skip unclosed start total
  | none => closerRound closer unclosed start total

def toUnescaped (closer escape : Walk (Option Verdict)) (unclosed : MatchError Pattern)
    (start : Nat) : Verdict → Walk Verdict :=
  loop (unescapedRound closer escape unclosed start)

def nonempty (a : Walk (Option Verdict)) : Walk (Option Verdict) := do
  let v ← a
  return v.filter (0 < ·.length)

def balanceRound (closer opener : Walk (Option Verdict)) (unclosed : MatchError Pattern)
    (start : Nat) : Nat × Verdict → Walk (Verdict ⊕ Nat × Verdict)
  | (depth, total) => do
    match ← closer with
    | some v => do
      let total ← extend total v
      let depth ← sub depth 1
      if depth = 0 then finish (measured start total)
      else return .inr (depth, total)
    | none => do
      match ← opener.nonempty with
      | some v => do
        let total ← extend total v
        let depth ← add depth 1
        return .inr (depth, total)
      | none => skip unclosed start (depth, total)

def toBalance (closer opener : Walk (Option Verdict)) (unclosed : MatchError Pattern)
    (start depth : Nat) (total : Verdict) : Walk Verdict :=
  loop (balanceRound closer opener unclosed start) (depth, total)

def inMode (a : Walk Verdict) (p : Pattern) : Mode → Walk Verdict
  | .consume => a
  | .neglect => a.anythingBut (.endOfSource p) (.unwanted p)

/-- The second test is made only where the first fails. -/
def either (a b : Walk Bool) : Walk Bool := do
  if ← a then return true else b

/-- Whether the next character passes a test. -/
def sees (accepts : Char → Bool) : Walk Bool := do
  let next ← peek
  return next.any accepts

def more : Walk Bool := do
  let ended ← atEnd
  return !ended

end Walk

namespace Pattern

/-- How a pattern looks at the next character of a cursor. -/
def headerWalk : Pattern → Mode → Walk Bool
  | literal l, .consume =>
    match l.text with
    | [] => return true
    | first :: _ => Walk.sees (l.comparison.sameChar first)
  | literal l, .neglect =>
    match l.text with
    | [] => return false
    | [only] => Walk.sees fun c => !l.comparison.sameChar only c
    | _ :: _ :: _ => do
      let left ← Walk.remaining
      return l.width ≤ left
  | test t, .consume => Walk.sees t.accepts
  | test t, .neglect => Walk.sees fun c => !t.accepts c
  | seq left right, .consume =>
    (left.headerWalk .consume).either
      (if left.nullable .consume then right.headerWalk .consume else return false)
  | alt left right, .consume => (left.headerWalk .consume).either (right.headerWalk .consume)
  | optional _, .consume | span _, .consume => return true
  | repeated inner count, .consume =>
    if count == 0 then return true else inner.headerWalk .consume
  | range opener _, .consume | escapedRange opener _ _, .consume | nestedRange opener _, .consume =>
    if opener.nullable .consume then return true else opener.headerWalk .consume
  | negation inner, mode => inner.headerWalk mode.flip
  | capture inner _, mode => inner.headerWalk mode
  | seq _ _, .neglect | alt _ _, .neglect | optional _, .neglect | span _, .neglect
  | repeated _ _, .neglect | range _ _, .neglect | escapedRange _ _ _, .neglect
  | nestedRange _ _, .neglect => Walk.more

/-- How a pattern moves a cursor in words, with every sum, difference and stretch checked. -/
def walk : Pattern → Mode → Walk Verdict
  | literal l, .consume =>
    .block l.width l.accepts (.endOfSource (literal l)) (.unmatched (literal l))
  | literal l, .neglect =>
    .block l.width (fun ahead => !l.accepts ahead) (.endOfSource (literal l))
      (.unwanted (literal l))
  | test t, .consume => .single t.accepts (.endOfSource (test t)) (.unmatched (test t))
  | test t, .neglect =>
    .single (fun c => !t.accepts c) (.endOfSource (test t)) (.unwanted (test t))
  | seq left right, mode =>
    (Walk.sequence (left.walk .consume) (right.walk .consume)).inMode (seq left right) mode
  | alt left right, mode =>
    (Walk.choice (.attempt (left.headerWalk .consume) (left.walk .consume))
      (right.walk .consume)).inMode (alt left right) mode
  | optional inner, mode => (inner.walk .consume).optional.inMode (optional inner) mode
  | span inner, mode => ((inner.walk .consume).spanFrom (.success 0)).inMode (span inner) mode
  | repeated inner count, mode =>
    ((inner.walk .consume).times count.toNat).inMode (repeated inner count) mode
  | negation inner, mode => inner.walk mode.flip
  | range opener closer, mode =>
    ((opener.walk .consume).opened
      (Walk.toCloser (.attempt (closer.headerWalk .consume) (closer.walk .consume))
        (.endOfSource closer))).inMode (range opener closer) mode
  | escapedRange opener closer escape, mode =>
    ((opener.walk .consume).opened
      (Walk.toUnescaped (.attempt (closer.headerWalk .consume) (closer.walk .consume))
        (.attempt (escape.headerWalk .consume) (escape.walk .consume))
        (.endOfSource closer))).inMode (escapedRange opener closer escape) mode
  | nestedRange opener closer, mode =>
    ((opener.walk .consume).opened fun start =>
      Walk.toBalance (.attempt (closer.headerWalk .consume) (closer.walk .consume))
        (.attempt (opener.headerWalk .consume) (opener.walk .consume))
        (.endOfSource closer) start 1).inMode (nestedRange opener closer) mode
  | capture inner name, mode => (inner.walk mode).captured name

end Pattern

end TextPattern
