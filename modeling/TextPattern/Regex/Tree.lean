import TextPattern.Regex.Span

namespace TextPattern.Regex

/-- A character that stands for itself, however it is written. -/
structure Letter where
  span : Span
  char : Char
  /-- Whether it may also stand for a byte. -/
  isByte : Bool

/-- What is between the brackets of a class. -/
inductive ClassItem
  | nothing (span : Span)
  | letter (l : Letter)
  | range (span : Span) (first last : Letter)
  | posix (span : Span) (negated : Bool)
  | perl (span : Span) (negated : Bool)
  | property (span : Span)
  | bracketed (span : Span) (negated : Bool) (inner : ClassItem)
  | union (span : Span) (items : List ClassItem)
  | combined (span : Span) (left right : ClassItem)

def ClassItem.span : ClassItem → Span
  | letter l => l.span
  | nothing s | range s _ _ | posix s _ | perl s _ | property s | bracketed s _ _ | union s _
  | combined s _ _ => s

/-- A sign among the flags of a group. The flags after a negation are off. -/
inductive FlagSign
  | negation
  | flag (name : Char)
deriving DecidableEq

/-- Whether the signs turn a flag on or off, if they name it. -/
def FlagSign.setting? (name : Char) : List FlagSign → Option Bool
  | [] => none
  | negation :: rest => if rest.contains (flag name) then some false else none
  | flag n :: rest => if n == name then some true else setting? name rest

/-- A regex. -/
inductive Node
  | empty (span : Span)
  | flags (span : Span) (signs : List FlagSign)
  | letter (l : Letter)
  | dot (span : Span)
  | anchor (span : Span)
  | wordBoundary (span : Span)
  | perl (span : Span) (negated : Bool)
  | property (span : Span)
  | bracketed (span : Span) (negated : Bool) (inner : ClassItem)
  | repeated (span : Span) (body : Node)
  | group (span : Span) (signs : List FlagSign) (body : Node)
  | seq (span : Span) (parts : List Node)
  | alt (span : Span) (branches : List Node)

def Node.span : Node → Span
  | letter l => l.span
  | empty s | flags s _ | dot s | anchor s | wordBoundary s | perl s _ | property s
  | bracketed s _ _ | repeated s _ | group s _ _ | seq s _ | alt s _ => s

end TextPattern.Regex
