/-! Sets of code points, given by the points at which membership changes. -/

namespace RowQuery

/-- A set of code points. The first bound is the first member, the second the first point after it
that is no member, and so on. -/
structure CodeSet where
  bounds : List Nat

namespace CodeSet

def memberFrom (point : Nat) (member : Bool) : List Nat → Bool
  | [] => member
  | bound :: rest => if point < bound then member else memberFrom point (!member) rest

def contains (set : CodeSet) (c : Char) : Bool :=
  memberFrom c.toNat false set.bounds

end CodeSet

end RowQuery
