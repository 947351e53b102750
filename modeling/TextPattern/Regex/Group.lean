import TextPattern.CharClass
import TextPattern.Regex.Source
import TextPattern.Regex.Tree

namespace TextPattern.Regex

/-- What an opening parenthesis begins. -/
inductive Opening
  /-- Nothing: flags with a closing parenthesis after them. -/
  | flags (span : Span) (signs : List FlagSign)
  | group (signs : List FlagSign)

def isFlag (c : Char) : Bool :=
  ['i', 'm', 's', 'U', 'u', 'R', 'x'].contains c

/-- Flags up to a colon or a closing parenthesis, after some that are read, the last one first. -/
def readFlags : Nat → List (FlagSign × Span) → Read (List FlagSign)
  | 0, _ => do fail .flagsUnclosed (← here)
  | n + 1, known => do
    let span ← nextSpan
    match ← next? with
    | none => fail .flagsUnclosed span
    | some c =>
      if c == ':' || c == ')' then
        match known with
        | (.negation, span) :: _ => fail .negationDangling span
        | _ => return (known.map Prod.fst).reverse
      else
        if c != '-' && !isFlag c then fail .flagUnknown span
        let sign := if c == '-' then .negation else .flag c
        match known.find? (·.1 == sign) with
        | some (_, earlier) =>
          throw ⟨if c == '-' then .negationRepeated else .flagDuplicate, span, some earlier⟩
        | none =>
          advance
          readFlags n ((sign, span) :: known)

def isNameStart (c : Char) : Bool :=
  c == '_' || CharClass.letter.accepts c

def isNameCharacter (c : Char) : Bool :=
  ['_', '.', '[', ']'].contains c || CharClass.alnum.accepts c

def readNameCharacters (p : Char → Bool) : Nat → Read (List Char)
  | 0 => return []
  | n + 1 => do
    match ← next? with
    | none | some '>' => return []
    | some c =>
      if !p c then fail .nameCharacter (← nextSpan)
      advance
      return c :: (← readNameCharacters isNameCharacter n)

/-- The name of a group, which is not given twice. -/
def readName : Read Unit := do
  let start ← place
  let name ← readNameCharacters isNameStart (← get).rest.length
  let span ← since start
  needMore .nameUnclosed (← here)
  advance
  if name.isEmpty then fail .nameEmpty span
  match (← get).names.find? (·.1 == name) with
  | some (_, earlier) => throw ⟨.nameDuplicate, span, some earlier⟩
  | none => modify fun s => { s with names := (name, span) :: s.names }

/-- The beginning of a group, of which the parenthesis has a place. -/
def readOpening (parenthesis : Span) : Read Opening := do
  advance
  skipSpace
  let inner ← here
  for sign in ["?=", "?!", "?<=", "?<!"] do
    if ← takeText? sign then fail .lookAround (← since parenthesis.start)
  if ← takeText? "?P<" then
    readName
    return .group []
  else if ← takeText? "?<" then
    readName
    return .group []
  else if ← takeText? "?" then
    needMore .groupUnclosed parenthesis
    let signs ← readFlags ((← get).rest.length + 1) []
    let closed := (← next?) == some ')'
    advance
    if !closed then return .group signs
    if signs.isEmpty then fail .operandMissing inner
    return .flags (← since parenthesis.start) signs
  else return .group []

end TextPattern.Regex
