import TextPattern.Regex.Escape

namespace TextPattern.Regex

/-- A class of which the end is not read yet. -/
structure OpenClass where
  /-- Where it is opened. -/
  opening : Span
  negated : Bool
  /-- What is before the last operator. -/
  left : Option ClassItem
  /-- The items after it, the last one first. -/
  items : List ClassItem
  /-- Where they begin. -/
  start : Place

namespace OpenClass

def push (k : OpenClass) (item : ClassItem) : OpenClass :=
  { k with items := item :: k.items }

def union (k : OpenClass) : ClassItem :=
  match k.items.reverse, k.items with
  | first :: _ :: _, last :: _ => .union ⟨first.span.start, last.span.stop⟩ k.items.reverse
  | [item], _ => item
  | _, _ => .nothing ⟨k.start, k.start⟩

def inner (k : OpenClass) : ClassItem :=
  match k.left with
  | none => k.union
  | some left => .combined ⟨left.span.start, k.union.span.stop⟩ left k.union

/-- The class after an operator that ends at a place. -/
def operate (k : OpenClass) (p : Place) : OpenClass :=
  { k with left := some k.inner, items := [], start := p }

end OpenClass

def posixNames : List String :=
  ["alnum", "alpha", "ascii", "blank", "cntrl", "digit", "graph", "lower", "print", "punct",
    "space", "upper", "word", "xdigit"]

/-- Whether a text begins with a class like `[:alpha:]` or `[:^alpha:]`, with its length then. -/
def posix? : List Char → Option (Bool × Nat)
  | '[' :: ':' :: rest =>
    let negated := rest.head? == some '^'
    let rest := if negated then rest.tail else rest
    let name := rest.takeWhile (· != ':')
    let closed := [':', ']'].isPrefixOf (rest.drop name.length)
    if closed && posixNames.contains (String.ofList name) then
      some (negated, name.length + if negated then 5 else 4)
    else none
  | _ => none

def readHyphens (start : Place) : Nat → Read (List ClassItem)
  | 0 => return []
  | n + 1 => do
    if (← next?) != some '-' then return []
    let span ← nextSpan
    advanceSpaced
    needMore .classUnclosed ⟨start, start⟩
    return .letter ⟨span, '-', false⟩ :: (← readHyphens start n)

/-- The beginning of a class: its negation, and the hyphens or the closing bracket that stand for
themselves there. -/
def readClassOpening : Read OpenClass := do
  let start ← place
  advanceSpaced
  needMore .classUnclosed (← since start)
  let negated := (← next?) == some '^'
  if negated then
    advanceSpaced
    needMore .classUnclosed (← since start)
  let first ← place
  let hyphens ← readHyphens start (← get).rest.length
  if hyphens.isEmpty && (← next?) == some ']' then
    let bracket := ClassItem.letter ⟨← nextSpan, ']', false⟩
    advanceSpaced
    needMore .classUnclosed (← since start)
    return ⟨← since start, negated, none, [bracket], first⟩
  else return ⟨← since start, negated, none, hyphens.reverse, first⟩

def readClassNode : Read Node := do
  let span ← nextSpan
  match ← next? with
  | some '\\' => readEscape
  | some c =>
    advance
    return .letter ⟨span, c, false⟩
  | none => return .empty span

def Node.toClassItem : Node → Read ClassItem
  | .letter l => return .letter l
  | .perl span negated => return .perl span negated
  | .property span => return .property span
  | n => fail .escapeInClass n.span

def Node.toRangeBoundary : Node → Read Letter
  | .letter l => return l
  | n => fail .rangeBoundary n.span

/-- One item of a class, or two with a hyphen between. A hyphen at the end of the class or before
another one makes no range. -/
def readClassItem (opening : Span) : Read ClassItem := do
  let first ← readClassNode
  skipSpace
  needMore .classUnclosed opening
  let s ← get
  if s.rest.head? != some '-' || s.second? == some ']' || s.second? == some '-' then
    first.toClassItem
  else
    advanceSpaced
    needMore .classUnclosed opening
    let last ← readClassNode
    let span : Span := ⟨first.span.start, last.span.stop⟩
    let lower ← first.toRangeBoundary
    let upper ← last.toRangeBoundary
    if upper.char < lower.char then fail .rangeBackwards span
    return .range span lower upper

/-- The rest of a class, with the classes around it, the innermost first. Each step takes a
character, so the number of characters that are left bounds the steps. -/
def readClassRest : Nat → OpenClass → List OpenClass → Read Node
  | 0, k, _ => fail .classUnclosed k.opening
  | n + 1, k, outer => do
    skipSpace
    match (← get).rest with
    | [] => fail .classUnclosed k.opening
    | ']' :: _ =>
      advance
      let span ← since k.opening.start
      match outer with
      | [] => return .bracketed span k.negated k.inner
      | around :: outer =>
        readClassRest n (around.push (.bracketed span k.negated k.inner)) outer
    | '[' :: rest =>
      let start ← place
      match posix? ('[' :: rest) with
      | some (negated, length) =>
        advanceBy length
        readClassRest n (k.push (.posix (← since start) negated)) outer
      | none => readClassRest n (← readClassOpening) (k :: outer)
    | '&' :: '&' :: _ | '-' :: '-' :: _ | '~' :: '~' :: _ =>
      advanceBy 2
      readClassRest n (k.operate (← place)) outer
    | _ => readClassRest n (k.push (← readClassItem k.opening)) outer

def readClass : Read Node := do
  let bound := (← get).rest.length
  readClassRest bound (← readClassOpening) []

end TextPattern.Regex
