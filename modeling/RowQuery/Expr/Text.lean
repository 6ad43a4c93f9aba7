import RowQuery.Expr.Basic
import RowQuery.Value.Text

/-! The display text of expressions. -/

namespace RowQuery.Expr

def slotName (shape : Shape) (slot : Nat) : String :=
  match shape.properties[slot]? with
  | some property => property.name
  | none => "?"

mutual

def text : Expr → String
  | target _ => "target"
  | constant value _ => value.text
  | member owner access => text owner ++ "." ++ access.name
  | convert operand ty _ => "(" ++ ty.text ++ ")" ++ text operand
  | unary op operand => op.symbol ++ text operand
  | binary op left right => "(" ++ text left ++ " " ++ op.symbol ++ " " ++ text right ++ ")"
  | conditional test ifTrue ifFalse =>
    "(" ++ text test ++ " ? " ++ text ifTrue ++ " : " ++ text ifFalse ++ ")"
  | call function args _ => function.name ++ "(" ++ ", ".intercalate (texts args) ++ ")"
  | construct shape bindings =>
    "new " ++ shape.name ++ " \x7b" ++ ",".intercalate (bindingTexts shape bindings) ++ " \x7d"

def texts : List Expr → List String
  | [] => []
  | expr :: rest => text expr :: texts rest

def bindingTexts (shape : Shape) : List (Nat × Expr) → List String
  | [] => []
  | (slot, expr) :: rest =>
    (" " ++ slotName shape slot ++ " = " ++ text expr) :: bindingTexts shape rest

end

end RowQuery.Expr
