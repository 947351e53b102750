import TextPattern.CharClass
import TextPattern.Pattern

namespace TextPattern

namespace Pattern

def ofText (text : String) : Pattern :=
  literal ⟨text.toList, .matchCase⟩

def ofTextIgnoringCase (text : String) : Pattern :=
  literal ⟨text.toList, .ignoreCase⟩

def ofChar (c : Char) : Pattern :=
  literal ⟨[c], .matchCase⟩

def ofClass (k : CharClass) : Pattern :=
  test k.test

/-- One pattern or another. Two character tests become a single test, whose number is `id` if it has
no name. -/
def alternate (id : Nat) : Pattern → Pattern → Pattern
  | test a, test b => test (a.either id b)
  | left, right => alt left right

end Pattern

/-- The building of patterns, in which every nameless test gets a number of its own. -/
abbrev Build :=
  StateM Nat

namespace Build

def newId : Build Nat :=
  modifyGet fun id => (id, id + 1)

/-- A character test without a name, equal to none built before. -/
def predicate (accepts : Char → Bool) : Build Pattern := do
  let id ← newId
  return .test ⟨.anonymous id, accepts⟩

def alternate (left right : Pattern) : Build Pattern := do
  let id ← newId
  return left.alternate id right

end Build

end TextPattern
