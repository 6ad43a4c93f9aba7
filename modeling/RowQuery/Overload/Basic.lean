import RowQuery.Expr.Checked
import RowQuery.Formula.Basic

/-! Overloads: what a method name in a formula can stand for. -/

namespace RowQuery

/-- A formula bound to a type, or the reason why it cannot be; something else can be tried then. -/
inductive Built where
  | expr (expr : Expr)
  | declined (reason : Error)

namespace Built

def get : Built → Result Expr
  | expr found => .ok found
  | declined reason => .error reason

def expr? : Built → Option Expr
  | expr found => some found
  | declined _ => none

end Built

structure Signature where
  method : String
  parameters : List Ty

/-- What a compiler shows of itself to the overloads that it asks: which overloads there are, and what
a path stands for. -/
structure CompilerView where
  /-- The overloads of each method, oldest first, by its lowercase name. -/
  methods : List (String × List Signature)
  resolvePath : (target : Expr) → (path : String) → Result Expr

structure CallSite where
  compiler : CompilerView
  target : Expr
  method : String
  arguments : List Formula
  /-- The arguments as they are without an expected type. -/
  natural : List Expr
  /-- The arguments as expressions of the parameter types. -/
  args : List Expr
  /-- Binds an argument again, now with an expected type. -/
  rebuild : List (Ty → Result Built)

namespace CallSite

def rebuildAt (site : CallSite) (index : Nat) (ty : Ty) : Result Built :=
  match site.rebuild[index]? with
  | some rebuild => rebuild ty
  | none => .error (.invalidArgument (site.method ++ " has no argument " ++ toString index))

def argumentAs (site : CallSite) (index : Nat) (ty : Ty) : Result Expr := do
  (← site.rebuildAt index ty).get

def argumentAs? (site : CallSite) (index : Nat) (ty : Ty) : Result (Option Expr) := do
  return (← site.rebuildAt index ty).expr?

end CallSite

structure Overload where
  id : Nat
  method : String
  parameters : List Ty
  /-- The expression for a call, or none if the overload does not want it. -/
  build : CallSite → Result (Option Expr)

namespace Overload

def header (overload : Overload) : Signature :=
  ⟨overload.method, overload.parameters⟩

def signature (overload : Overload) : String :=
  overload.method ++ "(" ++ ", ".intercalate (overload.parameters.map (·.text)) ++ ")"

def describe (overload : Overload) : String :=
  "Builder(" ++ overload.signature ++ ")"

end Overload

structure Definition where
  method : String
  parameters : List Ty
  build : (id : Nat) → CallSite → Result (Option Expr)

namespace Definition

def ofArgs (method : String) (parameters : List Ty) (build : List Expr → Result (Option Expr)) :
    Definition :=
  ⟨method, parameters, fun _ site => build site.args⟩

def ofSite (method : String) (parameters : List Ty) (build : CallSite → Result (Option Expr)) :
    Definition :=
  ⟨method, parameters, fun _ => build⟩

def ofFunction (method : String) (parameters : List Ty) (result : Ty)
    (invoke : Host → List Value → Result Value) : Definition :=
  ⟨method, parameters, fun id site =>
    .ok (some (.call ⟨method, .overload id, invoke⟩ site.args result))⟩

def ofOperator (op : BinaryOp) (operand : Ty) : Definition :=
  ofArgs op.symbol [operand, operand] fun
    | [left, right] => (Expr.applyBinary op left right).map some
    | _ => .ok none

def ofUnary (op : UnaryOp) (operand : Ty) : Definition :=
  ofArgs op.symbol [operand] fun
    | [arg] => (Expr.applyUnary op arg).map some
    | _ => .ok none

end Definition

end RowQuery
