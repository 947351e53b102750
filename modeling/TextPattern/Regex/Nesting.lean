import TextPattern.Regex.SyntaxError
import TextPattern.Regex.Tree

namespace TextPattern.Regex

/-- The depth inside of a part that lies at a depth. -/
def deeper (depth : Nat) (span : Span) : Except SyntaxError Nat :=
  if depth < nestingLimit then .ok (depth + 1) else .error ⟨.nestedTooDeep, span, none⟩

mutual

def ClassItem.checkNesting (depth : Nat) : ClassItem → Except SyntaxError Unit
  | .bracketed span _ inner => do inner.checkNesting (← deeper depth span)
  | .union span items => do ClassItem.checkNestingAll (← deeper depth span) items
  | .combined span left right => do
    let depth ← deeper depth span
    left.checkNesting depth
    right.checkNesting depth
  | _ => .ok ()

def ClassItem.checkNestingAll (depth : Nat) : List ClassItem → Except SyntaxError Unit
  | [] => .ok ()
  | item :: rest => do
    item.checkNesting depth
    ClassItem.checkNestingAll depth rest

end

mutual

def Node.checkNesting (depth : Nat) : Node → Except SyntaxError Unit
  | .bracketed span _ inner => do inner.checkNesting (← deeper depth span)
  | .repeated span body => do body.checkNesting (← deeper depth span)
  | .group span _ body => do body.checkNesting (← deeper depth span)
  | .seq span parts => do Node.checkNestingAll (← deeper depth span) parts
  | .alt span branches => do Node.checkNestingAll (← deeper depth span) branches
  | _ => .ok ()

def Node.checkNestingAll (depth : Nat) : List Node → Except SyntaxError Unit
  | [] => .ok ()
  | n :: rest => do
    n.checkNesting depth
    Node.checkNestingAll depth rest

end

end TextPattern.Regex
