import TextPattern.Ascending

namespace TextPattern.Unicode

/-- A set of code points, given by the ascending points at which membership changes: the first
entry begins the set, the second ends that stretch, the third begins the next one. -/
structure PointSet where
  flips : Array Nat

def PointSet.contains (s : PointSet) (c : Char) : Bool :=
  countUpTo s.flips c.toNat % 2 == 1

end TextPattern.Unicode
