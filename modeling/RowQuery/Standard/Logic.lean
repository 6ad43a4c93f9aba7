import RowQuery.Overload.Basic

/-! Logical operators and the choice between two formulas. -/

namespace RowQuery.Standard

def boolean : List Definition :=
  [.ofUnary .not .bool, .ofOperator .equal .bool, .ofOperator .notEqual .bool,
    .ofOperator .and .bool, .ofOperator .or .bool, .ofOperator .xor .bool]

def widened? : Ty → Ty → Option Ty
  | .null, other => some other.orNull
  | other, .null => some other.orNull
  | _, _ => none

/-- A choice between branches that agree on a type: they have one type, or one of them can be bound
as the type of the other, or one is null and the other becomes nullable. -/
def choice (site : CallSite) : Result (Option Expr) :=
  match site.args, site.natural with
  | [test, _, _], [_, a, b] =>
    if a.ty == b.ty then (Expr.choose test a b).map some
    else do
      match ← site.argumentAs? 2 a.ty with
      | some second => (Expr.choose test a second).map some
      | none =>
        match ← site.argumentAs? 1 b.ty with
        | some first => (Expr.choose test first b).map some
        | none =>
          match widened? a.ty b.ty with
          | none => return none
          | some common =>
            let first ← site.argumentAs? 1 common
            let second ← site.argumentAs? 2 common
            match first, second with
            | some first, some second => (Expr.choose test first second).map some
            | _, _ => return none
  | _, _ => .ok none

def conditional : List Definition :=
  [.ofSite "if" [.bool, .any, .any] choice]

end RowQuery.Standard
