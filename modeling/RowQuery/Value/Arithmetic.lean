import RowQuery.Operator
import RowQuery.Decimal.Arithmetic
import RowQuery.Value.Order
import RowQuery.Value.Text

/-!
Operators on values. Integer results that do not fit the kind of the left operand are errors. With
null, arithmetic gives null, an ordering is false, and only null equals null.
-/

namespace RowQuery.Value

def truth (value : Value) (place : String) : Result Bool :=
  match value.bool? with
  | some b => .ok b
  | none => .error (.typeError (place ++ " expects bool, got " ++ value.typeOf.text))

def operandKind (value : Value) (symbol : String) : Result NumericKind :=
  match value.numericKind? with
  | some kind => .ok kind
  | none =>
    .error (.typeError ("operator " ++ symbol ++ " is not defined for " ++ value.typeOf.text))

def operandNumber (value : Value) : Result Number :=
  match value.number? with
  | some number => .ok number
  | none => .error (.typeError (value.typeOf.text ++ " is not numeric"))

/-- The integers that intermediate results may have: those of 128 bits with a sign. -/
def intermediate? (n : Int) : Option Int :=
  if -Int.pow 2 127 ≤ n ∧ n < Int.pow 2 127 then some n else none

def integerResult? (op : BinaryOp) (a b : Int) : Option Int :=
  match op with
  | .add => intermediate? (a + b)
  | .subtract => intermediate? (a - b)
  | .multiply => intermediate? (a * b)
  | .divide => intermediate? (a.tdiv b)
  | .modulo => intermediate? (a.tmod b)
  | _ => none

def decimalResult? (op : BinaryOp) (a b : Decimal) : Option Decimal :=
  match op with
  | .add => a.add? b
  | .subtract => a.sub? b
  | .multiply => a.mul? b
  | .divide => a.div? b
  | .modulo => a.rem? b
  | _ => none

def floatResult? (op : BinaryOp) (a b : Float) : Option Float :=
  match op with
  | .add => some (a + b)
  | .subtract => some (a - b)
  | .multiply => some (a * b)
  | .divide => some (a / b)
  | .modulo => some (Binary.remainder a b)
  | _ => none

def divides (op : BinaryOp) : Bool :=
  op == .divide || op == .modulo

def numberResult (op : BinaryOp) (excess : Error) : Number → Number → Result Number
  | .integer a, .integer b =>
    if divides op && b == 0 then .error .divideByZero
    else
      match integerResult? op a b with
      | some n => .ok (.integer n)
      | none => .error excess
  | .decimal a, .decimal b =>
    if divides op && b.isZero then .error .divideByZero
    else
      match decimalResult? op a b with
      | some d => .ok (.decimal d)
      | none => .error excess
  | a, b =>
    match floatResult? op a.toFloat b.toFloat with
    | some x => .ok (.float x)
    | none => .error excess

def arithmetic (op : BinaryOp) (left right : Value) : Result Value :=
  if left.isNull || right.isNull then .ok null
  else do
    let kind ← left.operandKind op.symbol
    let excess : Error := .overflow (left.text ++ " " ++ op.symbol ++ " " ++ right.text) kind
    let number ← numberResult op excess (← left.operandNumber) (← right.operandNumber)
    ofNumber number kind

def negateNumber : Number → Number
  | .integer n => .integer (-n)
  | .float x => .float (-x)
  | .decimal d => .decimal d.neg

def applyUnary (op : UnaryOp) (operand : Value) : Result Value :=
  match op with
  | .not => do return bool !(← operand.truth "!")
  | .negate =>
    if operand.isNull then .ok null
    else do
      let kind ← operand.operandKind "-"
      ofNumber (negateNumber (← operand.operandNumber)) kind

def applyBinary (op : BinaryOp) (left right : Value) : Result Value :=
  match op with
  | .equal => .ok (bool (left.equal right))
  | .notEqual => .ok (bool (!left.equal right))
  | .lessThan => .ok (bool (left.compare? right == some .lt))
  | .lessThanOrEqual => .ok (bool ((left.compare? right).any (· != .gt)))
  | .greaterThan => .ok (bool (left.compare? right == some .gt))
  | .greaterThanOrEqual => .ok (bool ((left.compare? right).any (· != .lt)))
  | .and => do
    if ← left.truth op.symbol then return bool (← right.truth op.symbol) else return bool false
  | .or => do
    if ← left.truth op.symbol then return bool true else return bool (← right.truth op.symbol)
  | .xor => do
    let a ← left.truth op.symbol
    let b ← right.truth op.symbol
    return bool (a != b)
  | .add | .subtract | .multiply | .divide | .modulo => arithmetic op left right

end RowQuery.Value
