import RowQuery.Standard.Arguments
import RowQuery.Decimal.Rounding
import RowQuery.Value.Order

/-! Operators and functions on numbers. -/

namespace RowQuery.Standard

def numericOperators : List BinaryOp :=
  [.add, .subtract, .multiply, .divide, .modulo, .equal, .notEqual, .greaterThan,
    .greaterThanOrEqual, .lessThan, .lessThanOrEqual]

def magnitude : Number → Number
  | .integer n => .integer n.natAbs
  | .float x => .float x.abs
  | .decimal d => .decimal d.abs

def signOf : Number → Result Int
  | .integer n => .ok n.sign
  | .float x =>
    if x.isNaN then .error (.invalidArgument "sign of NaN")
    else if x == 0 then .ok 0
    else if x < 0 then .ok (-1)
    else .ok 1
  | .decimal d => .ok (if d.isZero then 0 else if d.negative then -1 else 1)

def isNaN (value : Value) : Bool :=
  value.float?.any (·.isNaN)

/-- Of two values the one on the wanted side of the other; `a` if they are equal. What is not a
number wins. -/
def pick (wanted : Ordering) (a b : Value) : Result Value :=
  if a.isNull || b.isNull then
    .error (.nullReference ("comparison of " ++ a.text ++ " and " ++ b.text))
  else
    match a.compare? b with
    | some order => .ok (if order == wanted.swap then b else a)
    | none => .ok (if isNaN a then a else b)

def clamp (value least greatest : Value) : Result Value :=
  if least.compare? greatest == some .gt then
    .error (.invalidArgument
      ("clamp bounds are inverted: " ++ least.text ++ " > " ++ greatest.text))
  else do
    let upper ← pick .lt value greatest
    pick .gt upper least

def absolute (kind : NumericKind) : Definition :=
  .ofFunction "abs" [.numeric kind] (.numeric kind) fun _ args => do
    Value.ofNumber (magnitude (← numberArg "abs" args 0)) kind

def sign (kind : NumericKind) : Definition :=
  .ofFunction "sign" [.numeric kind] .i32 fun _ args => do
    Value.ofInt (← signOf (← numberArg "sign" args 0)) .i32

def rounding (method : String) (mode : Binary.Rounding) (decimal : Decimal → Decimal)
    (kind : NumericKind) : Definition :=
  .ofFunction method [.numeric kind] (.numeric kind) fun _ args => do
    match ← numberArg method args 0 with
    | .decimal d => return .decimal (decimal d)
    | number => return .float64 (Binary.round mode number.toFloat)

def roundings (kind : NumericKind) : List Definition :=
  [rounding "round" .halfEven Decimal.round kind, rounding "floor" .down Decimal.floor kind,
    rounding "ceiling" .up Decimal.ceil kind]

def floatFunction (method : String) (compute : Float → Float → Float) : Definition :=
  .ofFunction method [.f64, .f64] .f64 fun _ args => do
    let x ← floatArg method args 0
    let y ← floatArg method args 1
    return .float64 (compute x y)

def powers : List Definition :=
  [floatFunction "pow" Float.pow, floatFunction "log" fun x base => x.log / base.log]

def extremum (method : String) (wanted : Ordering) (kind : NumericKind) : Definition :=
  .ofFunction method [.numeric kind, .numeric kind] (.numeric kind) fun
    | _, [a, b] => pick wanted a b
    | _, args => .error (wrongCount method args)

def clamping (kind : NumericKind) : Definition :=
  .ofFunction "clamp" [.numeric kind, .numeric kind, .numeric kind] (.numeric kind) fun
    | _, [value, least, greatest] => clamp value least greatest
    | _, args => .error (wrongCount "clamp" args)

def operators (kind : NumericKind) (operand : Ty) : List Definition :=
  numericOperators.map (.ofOperator · operand) ++
    if kind.isUnsigned then [] else [.ofUnary .negate operand]

def math (kind : NumericKind) : List Definition :=
  operators kind (.numeric kind) ++ operators kind (.nullable (.numeric kind)) ++
    (if kind.isUnsigned then [] else [absolute kind, sign kind]) ++
    (if kind == .f64 || kind == .decimal then roundings kind else []) ++
    (if kind == .f64 then powers else []) ++
    [extremum "min" .lt kind, extremum "max" .gt kind, clamping kind]

end RowQuery.Standard
