import RowQuery.Expr.Basic
import RowQuery.Tagged.Value

/-! Expressions as JSON: the tag of each node, its type, and its parts. -/

namespace RowQuery

def DeclaredConversion.tagged (conversion : DeclaredConversion) : Json :=
  match conversion.direction with
  | .incoming source => .array [.string "from", .string source.text, .bool conversion.implicit]
  | .outgoing target => .array [.string "into", .string target.text, .bool conversion.implicit]

def Conversion.tagged : Conversion → Json
  | reference => .string "reference"
  | numeric kind => .array [.string "numeric", .string kind.name]
  | char => .string "char"
  | enum decl => .array [.string "enum", .string decl.name]
  | lifted inner => .array [.string "lifted", tagged inner]
  | unwrap inner => .array [.string "unwrap", tagged inner]
  | declared conversion => .array [.string "user", conversion.tagged]

def MemberRef.way : MemberRef → String
  | record .. => "record"
  | shape .. => "projection"
  | intrinsic .hasValue _ | intrinsic .value _ => "nullable"
  | intrinsic _ _ => "intrinsic"

namespace Expr

def node (tag : String) (ty : Ty) (parts : List Json) : Json :=
  .array (.string tag :: .string ty.text :: parts)

mutual

def tagged : Expr → Json
  | target ty => node "target" ty []
  | constant value ty => node "const" ty [value.tagged]
  | member owner access =>
    node "member" access.ty [tagged owner, .string access.name, .string access.way]
  | convert operand ty conversion => node "convert" ty [tagged operand, conversion.tagged]
  | unary op operand => node "unary" operand.ty [.string op.symbol, tagged operand]
  | binary op left right =>
    node "binary" (binary op left right).ty [.string op.symbol, tagged left, tagged right]
  | conditional test ifTrue ifFalse =>
    node "if" ifTrue.ty [tagged test, tagged ifTrue, tagged ifFalse]
  | call function args ty => node "call" ty [.string function.name, .array (taggedAll args)]
  | construct shape bindings => node "new" (.shape shape) [.array (taggedBindings bindings)]

def taggedAll : List Expr → List Json
  | [] => []
  | expr :: rest => tagged expr :: taggedAll rest

def taggedBindings : List (Nat × Expr) → List Json
  | [] => []
  | (slot, expr) :: rest => .array [.ofInt slot, tagged expr] :: taggedBindings rest

end

end Expr

end RowQuery
