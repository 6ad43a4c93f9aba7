import RowQuery.Compiler
import RowQuery.Expr.Evaluate
import RowQuery.Query.Basic
import RowQuery.Shape.Forge

/-! Selections bound to a type. -/

namespace RowQuery

structure Projection where
  shape : Shape
  expr : Expr

namespace Projection

def apply (host : Host) (projection : Projection) (row : Value) : Result Value :=
  projection.expr.evaluate host row

def bindSelection (compiler : Compiler) (target : Expr) : Selection → Result (List (String × Expr))
  | [] => .ok []
  | (name, formula) :: rest => do
    let expr ← compiler.build target formula
    let others ← bindSelection compiler target rest
    return (name, expr) :: others

/-- The property for an expression. The bare null can be anything. -/
def propertyFor (name : String) (expr : Expr) : Property :=
  ⟨name, if expr.ty.isNull then .any else expr.ty⟩

def bindings (shape : Shape) : List (String × Expr) → Result (List (Nat × Expr))
  | [] => .ok []
  | (name, expr) :: rest =>
    match shape.indexOf? name with
    | none => .error (.invalidProjection (shape.name ++ " has no property '" ++ name ++ "'"))
    | some slot => do
      let others ← bindings shape rest
      return (slot, expr) :: others

def ofShape (shape : Shape) (exprs : List (String × Expr)) : Result Projection := do
  let slots ← bindings shape exprs
  return ⟨shape, ← Expr.fill shape slots⟩

def compile (compiler : Compiler) (held : List Ty) (target : Expr) (selection : Selection)
    (forge : Forge) : Result Projection × Forge :=
  match bindSelection compiler target selection with
  | .error fault => (.error fault, forge)
  | .ok exprs =>
    let properties := exprs.map fun (name, expr) => propertyFor name expr
    match forge.generate held properties with
    | (.error fault, changed) => (.error fault, changed)
    | (.ok shape, changed) => (ofShape shape exprs, changed)

end Projection

end RowQuery
