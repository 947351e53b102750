namespace TextPattern

/-- What a character test is known by: a name, or a number that no other nameless test has. -/
inductive Label
  | named (name : String)
  | anonymous (id : Nat)
deriving DecidableEq

/-- A test of one character. Two tests of one name count as the same test. -/
structure CharTest where
  label : Label
  accepts : Char → Bool

def CharTest.name? (t : CharTest) : Option String :=
  match t.label with
  | .named name => some name
  | .anonymous _ => none

/-- Two names are joined by a bar; without both the result is a nameless test of its own. -/
def Label.either (id : Nat) : Label → Label → Label
  | named a, named b => named (a ++ "|" ++ b)
  | _, _ => anonymous id

def CharTest.either (id : Nat) (a b : CharTest) : CharTest where
  label := a.label.either id b.label
  accepts c := a.accepts c || b.accepts c

end TextPattern
