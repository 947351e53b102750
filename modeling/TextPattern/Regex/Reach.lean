import TextPattern.Regex.SyntaxError
import TextPattern.Regex.Tree

namespace TextPattern.Regex

/-- The flags that decide what a part of a regex can match. -/
structure Flags where
  ignoresCase : Bool
  unicode : Bool

/-- What holds after a part of a regex. -/
structure Reach where
  flags : Flags
  /-- Whether a boundary between words of any script is among the parts so far. -/
  hasWordBoundary : Bool

namespace Flags

def standard : Flags :=
  ⟨false, true⟩

def set (f : Flags) (signs : List FlagSign) : Flags where
  ignoresCase := (FlagSign.setting? 'i' signs).getD f.ignoresCase
  unicode := (FlagSign.setting? 'u' signs).getD f.unicode

/-- Characters of all scripts have no classes and no small and capital forms here, and a match in
bytes must not take a character apart. -/
def check (f : Flags) (unicode bytes : Option Mistake) (span : Span) : Except SyntaxError Unit :=
  match if f.unicode then unicode else bytes with
  | some m => .error ⟨m, span, none⟩
  | none => .ok ()

def caseMistake (f : Flags) : Option Mistake :=
  if f.ignoresCase then some .caseUnavailable else none

def checkPerl (f : Flags) (span : Span) (negated : Bool) : Except SyntaxError Unit :=
  f.check (some .perlClassNotFound) (if negated then some .invalidUtf8 else none) span

def checkProperty (f : Flags) (span : Span) : Except SyntaxError Unit :=
  f.check (some .propertyNotFound) (some .unicodeNotAllowed) span

/-- A set of characters that may be negated. In a set of none there is no case to ignore. -/
def checkSet (f : Flags) (span : Span) (isNothing negated : Bool) : Except SyntaxError Unit :=
  f.check (if isNothing then none else f.caseMistake)
    (if negated then some .invalidUtf8 else none) span

end Flags

/-- Whether the letter is one byte of a longer character. -/
def Letter.isPartial (l : Letter) : Bool :=
  l.isByte && 0x80 ≤ l.char.toNat

def Letter.check (f : Flags) (l : Letter) : Except SyntaxError Unit :=
  f.check f.caseMistake (if l.isPartial then some .invalidUtf8 else none) l.span

/-- A letter between brackets, where only the whole set has a case. -/
def Letter.checkInClass (f : Flags) (l : Letter) : Except SyntaxError Unit :=
  f.check none
    (if l.isPartial then some .invalidUtf8
      else if 0x80 ≤ l.char.toNat then some .unicodeNotAllowed else none) l.span

mutual

/-- Whether the item is written without any character. -/
def ClassItem.isNothing : ClassItem → Bool
  | .nothing _ => true
  | .bracketed _ negated inner => !negated && inner.isNothing
  | .union _ items => ClassItem.areNothing items
  | .combined _ left right => left.isNothing && right.isNothing
  | _ => false

def ClassItem.areNothing : List ClassItem → Bool
  | [] => true
  | item :: rest => item.isNothing && ClassItem.areNothing rest

end

mutual

def ClassItem.check (f : Flags) : ClassItem → Except SyntaxError Unit
  | .nothing _ => .ok ()
  | .letter l => l.checkInClass f
  | .range _ first last => do
    first.checkInClass f
    last.checkInClass f
  | .posix span negated => f.checkSet span false negated
  | .perl span negated => f.checkPerl span negated
  | .property span => f.checkProperty span
  | .bracketed span negated inner => do
    inner.check f
    f.checkSet span inner.isNothing negated
  | .union _ items => ClassItem.checkAll f items
  | .combined _ left right => do
    left.check f
    right.check f
    f.checkSet right.span right.isNothing false
    f.checkSet left.span left.isNothing false

def ClassItem.checkAll (f : Flags) : List ClassItem → Except SyntaxError Unit
  | [] => .ok ()
  | item :: rest => do
    item.check f
    ClassItem.checkAll f rest

end

mutual

/-- What holds after a node, or what it cannot match. Flags inside of a group end with it. -/
def Node.check (r : Reach) : Node → Except SyntaxError Reach
  | .empty _ | .anchor _ => .ok r
  | .flags _ signs => .ok { r with flags := r.flags.set signs }
  | .letter l => do
    l.check r.flags
    return r
  | .dot span => do
    r.flags.check none (some .invalidUtf8) span
    return r
  | .wordBoundary _ => .ok { r with hasWordBoundary := r.hasWordBoundary || r.flags.unicode }
  | .perl span negated => do
    r.flags.checkPerl span negated
    return r
  | .property span => do
    r.flags.checkProperty span
    return r
  | .bracketed span negated inner => do
    inner.check r.flags
    r.flags.checkSet span inner.isNothing negated
    return r
  | .repeated _ body => body.check r
  | .group _ signs body => do
    let inside ← body.check { r with flags := r.flags.set signs }
    return { inside with flags := r.flags }
  | .seq _ nodes | .alt _ nodes => Node.checkAll r nodes

def Node.checkAll (r : Reach) : List Node → Except SyntaxError Reach
  | [] => .ok r
  | n :: rest => do Node.checkAll (← n.check r) rest

end

end TextPattern.Regex
