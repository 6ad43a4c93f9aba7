import RowQuery.Value.Basic
import RowQuery.Decimal.Binary
import RowQuery.Decimal.Text
import RowQuery.Number.Shortest
import RowQuery.Text.Blank

/-! Values as numbers, numbers as values, and numeric literals. -/

namespace RowQuery

inductive Number where
  | integer (n : Int)
  | float (x : Float)
  | decimal (d : Decimal)

namespace Number

def toFloat : Number → Float
  | integer n => Float.ofInt n
  | float x => x
  | decimal d => d.toFloat

def isWhole : Number → Bool
  | integer _ => true
  | float x => Binary.isWhole x
  | decimal d => d.isWhole

end Number

def floatText (x : Float) : String :=
  Binary.displayLayout.text x

namespace Value

def number? : Value → Option Number
  | integer n => some (.integer n.value)
  | float32 x => some (.float (Binary.widen x))
  | float64 x => some (.float x)
  | decimal d => some (.decimal d)
  | char c => some (.integer c.toNat)
  | enum _ discriminant => some (.integer discriminant)
  | _ => none

def signed? (value : Value) : Option Int :=
  match value.number? with
  | some (.integer n) => if IntegerKind.i64.Holds n then some n else none
  | _ => none

def float? (value : Value) : Option Float :=
  if value.numericKind?.isSome then value.number?.map (·.toFloat) else none

def ofInt (n : Int) (kind : IntegerKind) : Result Value :=
  match Integer.ofInt? kind n with
  | some found => .ok (integer found)
  | none => .error (.overflow (toString n) (.integer kind))

/-- The greatest magnitude at which a binary number is still read as an integer: the binary number
nearest to 10 ^ 38. -/
def integerReach : Nat := 99999999999999997748809823456034029568

/-- The value of a kind that a number has. A fraction is dropped for an integer kind; a number that
does not fit is an error. -/
def ofNumber (number : Number) : NumericKind → Result Value
  | .f64 => .ok (float64 number.toFloat)
  | .f32 =>
    let wide := number.toFloat
    let narrow := Binary.narrow wide
    if wide.isFinite && !narrow.isFinite then .error (.overflow (floatText wide) .f32)
    else .ok (float32 narrow)
  | .decimal =>
    let found := match number with
      | .integer n => Decimal.ofInt? n
      | .float x => Decimal.ofFloat? x
      | .decimal d => some d
    match found with
    | some d => .ok (decimal d)
    | none => .error (.overflow (floatText number.toFloat) .decimal)
  | .integer kind =>
    match number with
    | .integer n => ofInt n kind
    | .float x =>
      match Binary.truncate? x with
      | some n =>
        if n.natAbs ≤ integerReach then ofInt n kind
        else .error (.overflow (floatText x) (.integer kind))
      | none => .error (.overflow (floatText x) (.integer kind))
    | .decimal d => ofInt d.truncate kind

def literalKinds : List IntegerKind :=
  [.i32, .u32, .i64, .u64]

def ofIntegerLiteral? (n : Int) : Option Value :=
  match literalKinds.findSome? (Integer.ofInt? · n) with
  | some found => some (integer found)
  | none => (Decimal.ofInt? n).map decimal

/-- The value of a literal with a fraction or an exponent, or of an integer that is too large: a
decimal if it can be one, else a finite binary number. -/
def ofFractionLiteral? (text : List Char) : Option Value :=
  match Decimal.read? text with
  | some d => some (decimal d)
  | none =>
    match Binary.read? text with
    | some x => if x.isFinite then some (float64 x) else none
    | none => none

def hasFractionMark (text : List Char) : Bool :=
  text.any fun c => c == '.' || c == 'e' || c == 'E'

def ofLiteral (text : String) : Result Value :=
  let trimmed := Text.trim text
  let chars := trimmed.toList
  let integral := if hasFractionMark chars then none
    else (Text.readInt? chars).bind ofIntegerLiteral?
  match integral.or (ofFractionLiteral? chars) with
  | some value => .ok value
  | none => .error (.malformedExpression ("invalid numeric literal '" ++ trimmed ++ "'"))

end Value

end RowQuery
