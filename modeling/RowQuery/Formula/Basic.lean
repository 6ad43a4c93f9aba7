import RowQuery.Value.Text

/-! Formulas before they are bound to a type: fields and functions go by name. -/

namespace RowQuery

inductive Formula where
  | constant (value : Value)
  /-- The members to go through from the row on, with dots between them. -/
  | field (path : String)
  | call (method : String) (args : List Formula)

namespace Formula

def number (text : String) : Result Formula :=
  (Value.ofLiteral text).map constant

def isConstant : Formula → Bool
  | constant _ => true
  | _ => false

mutual

def text : Formula → String
  | constant value => value.text
  | field path => path
  | call method args => method ++ "(" ++ ", ".intercalate (texts args) ++ ")"

def texts : List Formula → List String
  | [] => []
  | formula :: rest => text formula :: texts rest

end

end Formula

end RowQuery
