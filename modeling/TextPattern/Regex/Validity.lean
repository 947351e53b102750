import TextPattern.Regex.Nesting
import TextPattern.Regex.Reach
import TextPattern.Regex.Reading

namespace TextPattern.Regex

/-- Why a text cannot be used as a regex. -/
inductive Refusal
  | mistake (text : List Char) (e : SyntaxError)
  | wordBoundary

/-- What is told about a refusal, beginning with what could not be done because of it. -/
def Refusal.causes : Refusal → List String
  | mistake text e => ["error building NFA", "error parsing regex", e.report text]
  | wordBoundary =>
    ["unsupported regex feature for DFAs: cannot build DFAs for regexes with Unicode word " ++
      "boundaries; switch to ASCII word boundaries, or heuristically enable Unicode word " ++
      "boundaries or use a different regex engine"]

/-- The text is read to its end before anything else is looked for in it. -/
def analyse (text : List Char) : Except SyntaxError Reach := do
  let tree ← Node.parse text
  tree.checkNesting 0
  tree.check ⟨.standard, false⟩

def validate (text : List Char) : Except Refusal Unit :=
  match analyse text with
  | .error e => .error (.mistake text e)
  | .ok reach => if reach.hasWordBoundary then .error .wordBoundary else .ok ()

end TextPattern.Regex
