import RowQuery.Expr.Basic
import RowQuery.Value.Order

/-! Equality of expressions. -/

namespace RowQuery.Expr

mutual

def same (a b : Expr) : Bool :=
  a.ty == b.ty &&
    match a, b with
    | target _, target _ => true
    | constant v _, constant w _ => v.same w
    | member x m, member y n => same x y && m.same n
    | convert x _ c, convert y _ d => same x y && c.same d
    | unary p x, unary q y => p == q && same x y
    | binary p x y, binary q z w => p == q && same x z && same y w
    | conditional x y z, conditional u v w => same x u && same y v && same z w
    | call f xs _, call g ys _ => f.same g && sameList xs ys
    | construct s xs, construct t ys => s.id == t.id && sameBindings xs ys
    | _, _ => false

def sameList : List Expr → List Expr → Bool
  | [], [] => true
  | a :: as, b :: bs => same a b && sameList as bs
  | _, _ => false

def sameBindings : List (Nat × Expr) → List (Nat × Expr) → Bool
  | [], [] => true
  | (i, a) :: as, (j, b) :: bs => i == j && same a b && sameBindings as bs
  | _, _ => false

end

end RowQuery.Expr
