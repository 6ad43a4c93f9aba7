import RowQuery.Ty.Member
import RowQuery.Conversion.Apply
import RowQuery.Operator

/-! Formulas after they are bound to a type: every node has a type. -/

namespace RowQuery

/-- Where a function comes from, which decides when two of them count as one. -/
inductive FunctionOrigin where
  | overload (id : Nat)
  | call
  deriving DecidableEq

structure Function where
  name : String
  origin : FunctionOrigin
  invoke : Host → List Value → Result Value

namespace Function

/-- Whether two functions are one. A function that was made for one call is no other's equal. -/
def same (f g : Function) : Bool :=
  f.name == g.name &&
    match f.origin, g.origin with
    | .overload a, .overload b => a == b
    | _, _ => false

end Function

inductive Expr where
  | target (ty : Ty)
  | constant (value : Value) (ty : Ty)
  | member (owner : Expr) (access : MemberRef)
  | convert (operand : Expr) (ty : Ty) (conversion : Conversion)
  | unary (op : UnaryOp) (operand : Expr)
  | binary (op : BinaryOp) (left right : Expr)
  | conditional (test ifTrue ifFalse : Expr)
  | call (function : Function) (args : List Expr) (ty : Ty)
  | construct (shape : Shape) (bindings : List (Nat × Expr))

namespace Expr

def ty : Expr → Ty
  | target ty => ty
  | constant _ ty => ty
  | member _ access => access.ty
  | convert _ ty _ => ty
  | unary _ operand => ty operand
  | binary op left _ => if op.isArithmetic then ty left else .bool
  | conditional _ ifTrue _ => ty ifTrue
  | call _ _ ty => ty
  | construct shape _ => .shape shape

def constant? : Expr → Option Value
  | constant value _ => some value
  | _ => none

def isNullConstant (expr : Expr) : Bool :=
  expr.constant?.any (·.isNull)

end Expr

end RowQuery
