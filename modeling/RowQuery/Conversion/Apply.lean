import RowQuery.Conversion.Plan
import RowQuery.Value.Number
import RowQuery.Calendar.Text

/-! Conversions of values. -/

namespace RowQuery

/-- What the host of the queries supplies: the code of the conversions that record types declare,
and the time. -/
structure Host where
  convert : (id : Nat) → Value → Result Value
  now : DateTime

def Value.conforms (value : Value) (ty : Ty) : Bool :=
  value.typeOf.assignable ty

namespace Conversion

def operand (value : Value) : Result Number :=
  if value.isNull then .error (.nullReference "conversion operand")
  else
    match value.number? with
    | some number => .ok number
    | none => .error (.typeError ("cannot convert " ++ value.typeOf.text ++ " numerically"))

def toChar (number : Number) : Result Value := do
  let code ← Value.ofNumber number (.integer .u16)
  match code with
  | .integer n =>
    if n.value.toNat.isValidChar then .ok (.char (Char.ofNat n.value.toNat))
    else .error (.overflow (floatText number.toFloat) (.integer .u16))
  | _ => .error (.overflow (floatText number.toFloat) (.integer .u16))

def toEnum (decl : EnumType) (number : Number) : Result Value := do
  let found ← Value.ofNumber number (.integer decl.underlying)
  match found.signed? with
  | some discriminant => .ok (.enum decl discriminant)
  | none => .error (.overflow (floatText number.toFloat) (.integer decl.underlying))

def apply (host : Host) : Conversion → Value → Result Value
  | reference, value => .ok value
  | lifted inner, value => if value.isNull then .ok .null else apply host inner value
  | unwrap inner, value =>
    if value.isNull then .error (.nullReference "nullable value") else apply host inner value
  | declared conversion, value =>
    if value.isNull then .error (.nullReference "user conversion operand")
    else host.convert conversion.id value
  | numeric kind, value => do Value.ofNumber (← operand value) kind
  | char, value => do toChar (← operand value)
  | enum decl, value => do toEnum decl (← operand value)

end Conversion

namespace Value

def numeral? (value : Value) : Option Number :=
  if value.numericKind?.isSome then value.number? else none

def fitNumeric? (value : Value) (kind : NumericKind) : Option Value := do
  let number ← value.numeral?
  if kind.isInteger && !number.isWhole then none else (ofNumber number kind).toOption

def fitEnum? (value : Value) (decl : EnumType) : Option Value :=
  match value with
  | string s => (decl.valueOf? s).map (enum decl)
  | value =>
    match value.numeral? with
    | some (.integer n) => if IntegerKind.i64.Holds n then some (enum decl n) else none
    | _ => none

def onlyChar? (text : String) : Option Char :=
  match text.toList with
  | [c] => some c
  | _ => none

/-- The constant as a value of type `ty`, if the type has it. Unlike a planned conversion this looks
at the value: 300 fits 16 bits but not 8, and the text of a date fits as a date. -/
def fit? (value : Value) (ty : Ty) : Option Value :=
  if value.conforms ty then some value
  else if value.isNull then none
  else
    match ty with
    | .nullable inner => value.fit? inner
    | .numeric kind => value.fitNumeric? kind
    | .dateTime => (value.string?.bind DateTime.read?).map dateTime
    | .char => (value.string?.bind onlyChar?).map char
    | .enum decl => value.fitEnum? decl
    | _ => none

end Value

end RowQuery
