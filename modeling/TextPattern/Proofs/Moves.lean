import TextPattern.Proofs.Follow

namespace TextPattern

/-- What a move of a cursor reports: how far it went, why it failed if it did, and what it recorded.
Nothing in the type ties these together, nor to where the cursor ends. -/
structure Verdict where
  length : Nat
  error : Option (MatchError Pattern)
  captures : List Capture

namespace Verdict

def success (length : Nat) : Verdict :=
  ⟨length, none, []⟩

def failure (e : MatchError Pattern) : Verdict :=
  ⟨0, some e, []⟩

def failed (v : Verdict) : Bool :=
  v.error.isSome

/-- The report of a move taken together with that of the next one. -/
def extend (v w : Verdict) : Verdict :=
  ⟨v.length + w.length, v.error, v.captures ++ w.captures⟩

def withLength (v : Verdict) (length : Nat) : Verdict :=
  ⟨length, v.error, v.captures⟩

def record (v : Verdict) (c : Capture) : Verdict :=
  ⟨v.length, v.error, v.captures ++ [c]⟩

end Verdict

/-- From a cursor, a verdict and the cursor afterwards. -/
abbrev Move :=
  Cursor → Verdict → Cursor → Prop

/-- A move that is undone where it fails, so that its error is of no interest. -/
abbrev Trial :=
  Cursor → Option Verdict → Cursor → Prop

inductive Move.Block (width : Nat) (accepts : List Char → Bool) (short refused : MatchError Pattern) :
    Move
  | short {c} : c.remaining < width → Block width accepts short refused c (.failure short) c
  | taken {c} : width ≤ c.remaining → accepts (c.point.rest.take width) = true →
      Block width accepts short refused c (.success width) (c.advance width)
  | refused {c} : width ≤ c.remaining → accepts (c.point.rest.take width) = false →
      Block width accepts short refused c (.failure refused) c

inductive Move.Single (accepts : Char → Bool) (short refused : MatchError Pattern) : Move
  | short {c} : c.peek = none → Single accepts short refused c (.failure short) c
  | taken {c ch} : c.peek = some ch → accepts ch = true →
      Single accepts short refused c (.success 1) (c.advance 1)
  | refused {c ch} : c.peek = some ch → accepts ch = false →
      Single accepts short refused c (.failure refused) c

inductive Move.Sequence (a b : Move) : Move
  | first {c v d} : a c v d → v.failed = true → Sequence a b c v (d.seek c.position)
  | second {c v d w e} : a c v d → v.failed = false → b d w e → w.failed = true →
      Sequence a b c w (e.seek c.position)
  | both {c v d w e} : a c v d → v.failed = false → b d w e → w.failed = false →
      Sequence a b c (v.extend w) e

/-- The header is looked at first; without it there is no move. -/
inductive Trial.Attempt (header : Cursor → Bool) (a : Move) : Trial
  | ruledOut {c} : header c = false → Attempt header a c none c
  | matched {c v d} : header c = true → a c v d → v.failed = false → Attempt header a c (some v) d
  | undone {c v d} : header c = true → a c v d → v.failed = true →
      Attempt header a c none (d.seek c.position)

inductive Move.Choice (a : Trial) (b : Move) : Move
  | first {c v d} : a c (some v) d → Choice a b c v d
  | second {c d w e} : a c none d → b d w e → w.failed = false → Choice a b c w e
  | neither {c d w e} : a c none d → b d w e → w.failed = true →
      Choice a b c w (e.seek c.position)

inductive Move.Optional (a : Move) : Move
  | present {c v d} : a c v d → v.failed = false → Optional a c v d
  | absent {c v d} : a c v d → v.failed = true → Optional a c (.success 0) (d.seek c.position)

/-- One iteration after another, until one fails or does not move; `total` is reported so far. -/
inductive Move.SpanFrom (a : Move) : Verdict → Move
  | fails {total c v d} : a c v d → v.failed = true → SpanFrom a total c total (d.seek c.position)
  | stays {total c v d} : a c v d → v.failed = false → v.length = 0 →
      SpanFrom a total c (total.extend v) d
  | onward {total c v d w e} : a c v d → v.failed = false → 0 < v.length →
      SpanFrom a (total.extend v) d w e → SpanFrom a total c w e

/-- So many iterations; where one fails the cursor goes back to `start`. -/
inductive Move.TimesFrom (a : Move) (start : Nat) : Nat → Verdict → Move
  | done {total c} : TimesFrom a start 0 total c total c
  | fails {count total c v d} : a c v d → v.failed = true →
      TimesFrom a start (count + 1) total c v (d.seek start)
  | onward {count total c v d w e} : a c v d → v.failed = false →
      TimesFrom a start count (total.extend v) d w e → TimesFrom a start (count + 1) total c w e

inductive Move.Captured (name : String) (a : Move) : Move
  | recorded {c v d} : a c v d → v.failed = false →
      Captured name a c (v.record ⟨name, c.position, (d.text.drop c.position).take v.length⟩) d
  | failed {c v d} : a c v d → v.failed = true → Captured name a c v d

/-- One character where an attempt that is undone in any case has failed. -/
inductive Move.AnythingBut (a : Move) (short found : MatchError Pattern) : Move
  | found {c v d} : a c v d → v.failed = false →
      AnythingBut a short found c (.failure found) (d.seek c.position)
  | short {c v d} : a c v d → v.failed = true → (d.seek c.position).atEnd = true →
      AnythingBut a short found c (.failure short) (d.seek c.position)
  | taken {c v d} : a c v d → v.failed = true → (d.seek c.position).atEnd = false →
      AnythingBut a short found c (.success 1) ((d.seek c.position).advance 1)

/-- The opener of a range, and then a scan that knows where the opener began. -/
inductive Move.Opened (a : Move) (scan : Nat → Verdict → Move) : Move
  | failed {c v d} : a c v d → v.failed = true → Opened a scan c v (d.seek c.position)
  | scanned {c v d w e} : a c v d → v.failed = false → scan c.position v d w e →
      Opened a scan c w e

/-- A scan to the first closer. The length is measured at the end and not summed up on the way. -/
inductive Move.ToCloser (closer : Trial) (unclosed : MatchError Pattern) (start : Nat) :
    Verdict → Move
  | closed {total c v d} : closer c (some v) d →
      ToCloser closer unclosed start total c ((total.extend v).withLength (d.position - start)) d
  | unclosed {total c d} : closer c none d → d.atEnd = true →
      ToCloser closer unclosed start total c (.failure unclosed) (d.seek start)
  | onward {total c d w e} : closer c none d → d.atEnd = false →
      ToCloser closer unclosed start total (d.advance 1) w e →
      ToCloser closer unclosed start total c w e

inductive Move.ToUnescaped (closer escape : Trial) (unclosed : MatchError Pattern) (start : Nat) :
    Verdict → Move
  | cutOff {total c v d} : escape c (some v) d → d.atEnd = true →
      ToUnescaped closer escape unclosed start total c (.failure unclosed) (d.seek start)
  | escaped {total c v d w e} : escape c (some v) d → d.atEnd = false →
      ToUnescaped closer escape unclosed start (total.extend v) (d.advance 1) w e →
      ToUnescaped closer escape unclosed start total c w e
  | closed {total c d v e} : escape c none d → closer d (some v) e →
      ToUnescaped closer escape unclosed start total c
        ((total.extend v).withLength (e.position - start)) e
  | unclosed {total c d e} : escape c none d → closer d none e → e.atEnd = true →
      ToUnescaped closer escape unclosed start total c (.failure unclosed) (e.seek start)
  | onward {total c d e w f} : escape c none d → closer d none e → e.atEnd = false →
      ToUnescaped closer escape unclosed start total (e.advance 1) w f →
      ToUnescaped closer escape unclosed start total c w f

/-- An opener that takes nothing opens nothing. -/
inductive Trial.Nonempty (a : Trial) : Trial
  | kept {c v d} : a c (some v) d → 0 < v.length → Nonempty a c (some v) d
  | empty {c v d} : a c (some v) d → v.length = 0 → Nonempty a c none d
  | absent {c d} : a c none d → Nonempty a c none d

/-- A scan that counts how many closers are still to come. -/
inductive Move.ToBalance (closer opener : Trial) (unclosed : MatchError Pattern) (start : Nat) :
    Nat → Verdict → Move
  | balanced {total c v d} : closer c (some v) d →
      ToBalance closer opener unclosed start 1 total c
        ((total.extend v).withLength (d.position - start)) d
  | closed {depth total c v d w e} : closer c (some v) d →
      ToBalance closer opener unclosed start (depth + 1) (total.extend v) d w e →
      ToBalance closer opener unclosed start (depth + 2) total c w e
  | opened {depth total c d v e w f} : closer c none d → opener.Nonempty d (some v) e →
      ToBalance closer opener unclosed start (depth + 2) (total.extend v) e w f →
      ToBalance closer opener unclosed start (depth + 1) total c w f
  | unclosed {depth total c d e} : closer c none d → opener.Nonempty d none e → e.atEnd = true →
      ToBalance closer opener unclosed start (depth + 1) total c (.failure unclosed)
        (e.seek start)
  | onward {depth total c d e w f} : closer c none d → opener.Nonempty d none e →
      e.atEnd = false →
      ToBalance closer opener unclosed start (depth + 1) total (e.advance 1) w f →
      ToBalance closer opener unclosed start (depth + 1) total c w f

def Move.inMode (a : Move) (p : Pattern) : Mode → Move
  | .consume => a
  | .neglect => a.AnythingBut (.endOfSource p) (.unwanted p)

/-- How a pattern moves a cursor forward and back again, read, rewind and error one by one. -/
def Pattern.moves : Pattern → Mode → Move
  | literal l, .consume =>
    .Block l.width l.accepts (.endOfSource (literal l)) (.unmatched (literal l))
  | literal l, .neglect =>
    .Block l.width (fun ahead => !l.accepts ahead) (.endOfSource (literal l)) (.unwanted (literal l))
  | test t, .consume => .Single t.accepts (.endOfSource (test t)) (.unmatched (test t))
  | test t, .neglect =>
    .Single (fun c => !t.accepts c) (.endOfSource (test t)) (.unwanted (test t))
  | seq left right, mode =>
    Move.inMode (.Sequence (left.moves .consume) (right.moves .consume)) (seq left right) mode
  | alt left right, mode =>
    Move.inMode
      (.Choice (.Attempt (·.header left .consume) (left.moves .consume)) (right.moves .consume))
      (alt left right) mode
  | optional inner, mode => Move.inMode (.Optional (inner.moves .consume)) (optional inner) mode
  | span inner, mode =>
    Move.inMode (.SpanFrom (inner.moves .consume) (.success 0)) (span inner) mode
  | repeated inner count, mode =>
    Move.inMode
      (fun c => Move.TimesFrom (inner.moves .consume) c.position count.toNat (.success 0) c)
      (repeated inner count) mode
  | negation inner, mode => inner.moves mode.flip
  | range opener closer, mode =>
    Move.inMode
      (.Opened (opener.moves .consume)
        (Move.ToCloser (.Attempt (·.header closer .consume) (closer.moves .consume))
          (.endOfSource closer)))
      (range opener closer) mode
  | escapedRange opener closer escape, mode =>
    Move.inMode
      (.Opened (opener.moves .consume)
        (Move.ToUnescaped (.Attempt (·.header closer .consume) (closer.moves .consume))
          (.Attempt (·.header escape .consume) (escape.moves .consume)) (.endOfSource closer)))
      (escapedRange opener closer escape) mode
  | nestedRange opener closer, mode =>
    Move.inMode
      (.Opened (opener.moves .consume)
        (Move.ToBalance (.Attempt (·.header closer .consume) (closer.moves .consume))
          (.Attempt (·.header opener .consume) (opener.moves .consume)) (.endOfSource closer) · 1))
      (nestedRange opener closer) mode
  | capture inner name, mode => .Captured name (inner.moves mode)

end TextPattern
