import RowQuery.Expr.Basic
import RowQuery.Value.Text

/-! Expressions made with a check that their parts have fitting types. -/

namespace RowQuery.Expr

def literal (value : Value) : Expr :=
  constant value value.typeOf

def literalAs (value : Value) (ty : Ty) : Result Expr :=
  if value.conforms ty then .ok (constant value ty)
  else .error (.typeError ("constant " ++ value.text ++ " does not conform to " ++ ty.text))

def access (owner : Expr) (name : String) : Result Expr :=
  (owner.ty.memberNamed name name).map (member owner)

def convertTo? (expr : Expr) (ty : Ty) (implicitOnly : Bool) : Option Expr :=
  if expr.ty == ty then some expr
  else (Conversion.plan? implicitOnly expr.ty ty).map (convert expr ty)

def undefinedFor (symbol : String) (ty : Ty) : Error :=
  .typeError ("operator " ++ symbol ++ " is not defined for " ++ ty.text)

def unaryDefined (op : UnaryOp) (ty : Ty) : Bool :=
  match op with
  | .not => ty == .bool
  | .negate => ty.underlying.numericKind?.any fun kind => !kind.isUnsigned

def applyUnary (op : UnaryOp) (operand : Expr) : Result Expr :=
  if unaryDefined op operand.ty then .ok (unary op operand)
  else .error (undefinedFor op.symbol operand.ty)

def isOrdered : Ty → Bool
  | .numeric _ | .char | .dateTime | .enum _ => true
  | _ => false

def binaryDefined (op : BinaryOp) (ty : Ty) : Bool :=
  if op.isArithmetic then ty.underlying.numericKind?.isSome
  else if op.isOrdering then isOrdered ty.underlying
  else if op.isLogical then ty == .bool
  else true

def applyBinary (op : BinaryOp) (left right : Expr) : Result Expr :=
  if left.ty != right.ty then
    .error (.typeError ("operands of " ++ op.symbol ++ " must share a type, got " ++ left.ty.text ++
      " and " ++ right.ty.text))
  else if binaryDefined op left.ty then .ok (binary op left right)
  else .error (undefinedFor op.symbol left.ty)

def choose (test ifTrue ifFalse : Expr) : Result Expr :=
  if test.ty != .bool then
    .error (.typeError ("condition must be bool, got " ++ test.ty.text))
  else if ifTrue.ty != ifFalse.ty then
    .error (.typeError
      ("conditional branches differ: " ++ ifTrue.ty.text ++ " and " ++ ifFalse.ty.text))
  else .ok (conditional test ifTrue ifFalse)

def bindingFault? (shape : Shape) : List (Nat × Expr) → Option Error
  | [] => none
  | (slot, expr) :: rest =>
    match shape.properties[slot]? with
    | none =>
      some (.invalidProjection
        ("slot " ++ toString slot ++ " does not exist on " ++ shape.name))
    | some property =>
      if expr.ty.assignable property.ty then bindingFault? shape rest
      else
        some (.typeError ("cannot bind " ++ expr.ty.text ++ " to '" ++ property.name ++
          "' of type " ++ property.ty.text))

def fill (shape : Shape) (bindings : List (Nat × Expr)) : Result Expr :=
  match bindingFault? shape bindings with
  | some fault => .error fault
  | none => .ok (construct shape bindings)

end RowQuery.Expr
