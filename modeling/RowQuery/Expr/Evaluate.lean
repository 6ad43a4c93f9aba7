import RowQuery.Expr.Text
import RowQuery.Value.Arithmetic
import RowQuery.Value.Record

/-! Evaluation of expressions on a row. -/

namespace RowQuery

def accessFault (value : Value) (place : String) : Error :=
  .typeError ("value of type " ++ value.typeOf.text ++ " cannot be accessed as '" ++ place ++ "'")

def Intrinsic.read (place : String) : Intrinsic → Value → Result Value
  | length, .string s => Value.ofInt s.length .i32
  | count, .sequence _ items => Value.ofInt items.length .i32
  | value, owner => .ok owner
  | year, .dateTime t => Value.ofInt t.date.year .i32
  | month, .dateTime t => Value.ofInt t.date.month .i32
  | day, .dateTime t => Value.ofInt t.date.day .i32
  | hour, .dateTime t => Value.ofInt t.hour .i32
  | minute, .dateTime t => Value.ofInt t.minute .i32
  | second, .dateTime t => Value.ofInt t.secondOfMinute .i32
  | millisecond, .dateTime t => Value.ofInt t.millisecond .i32
  | dayOfYear, .dateTime t => Value.ofInt t.date.ordinal .i32
  | _, owner => .error (accessFault owner place)

def slotOf (owner : String) (slots : List Value) (index : Nat) : Result Value :=
  match slots[index]? with
  | some value => .ok value
  | none => .error (.missingSlot owner index)

/-- Reads a member of a value. Only whether it has a value can be asked of null. -/
def MemberRef.read (place : String) (member : MemberRef) (owner : Value) : Result Value :=
  match member with
  | .intrinsic .hasValue _ => .ok (.bool (!owner.isNull))
  | member =>
    if owner.isNull then .error (.nullReference place)
    else
      match member, owner with
      | .record _ index _, .record decl fields => slotOf decl.name fields index
      | .shape _ index _, .shape decl slots => slotOf decl.name slots index
      | .intrinsic member _, owner => member.read place owner
      | _, owner => .error (accessFault owner place)

namespace Expr

mutual

def evaluate (host : Host) (row : Value) : Expr → Result Value
  | target _ => .ok row
  | constant value _ => .ok value
  | member owner access => do
    let value ← evaluate host row owner
    access.read (text (member owner access)) value
  | convert operand _ conversion => do
    conversion.apply host (← evaluate host row operand)
  | unary op operand => do
    Value.applyUnary op (← evaluate host row operand)
  | binary .and left right => do
    if ← (← evaluate host row left).truth BinaryOp.and.symbol then
      return .bool (← (← evaluate host row right).truth BinaryOp.and.symbol)
    else return .bool false
  | binary .or left right => do
    if ← (← evaluate host row left).truth BinaryOp.or.symbol then return .bool true
    else return .bool (← (← evaluate host row right).truth BinaryOp.or.symbol)
  | binary op left right => do
    let a ← evaluate host row left
    let b ← evaluate host row right
    Value.applyBinary op a b
  | conditional test ifTrue ifFalse => do
    if ← (← evaluate host row test).truth "condition" then evaluate host row ifTrue
    else evaluate host row ifFalse
  | call function args _ => do
    function.invoke host (← evaluateAll host row args)
  | construct shape bindings => do
    return (← bindSlots host row bindings (ShapeValue.new shape)).toValue

def evaluateAll (host : Host) (row : Value) : List Expr → Result (List Value)
  | [] => .ok []
  | expr :: rest => do
    let value ← evaluate host row expr
    let values ← evaluateAll host row rest
    return value :: values

def bindSlots (host : Host) (row : Value) : List (Nat × Expr) → ShapeValue → Result ShapeValue
  | [], built => .ok built
  | (slot, expr) :: rest, built => do
    let value ← evaluate host row expr
    bindSlots host row rest (← built.setSlot slot value)

end

end Expr

end RowQuery
