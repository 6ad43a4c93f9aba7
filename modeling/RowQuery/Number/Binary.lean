import RowQuery.Text.Digits

/-!
Binary floating-point numbers by their exact values: a finite number is its sign, a mantissa and a
power of two.
-/

namespace RowQuery.Binary

open Float.Model

inductive Rounding where
  | down
  | up
  | towardZero
  | halfAway
  | halfEven

/-- Whether a magnitude with integer part `whole` and the rest `rest / unit` is rounded up. -/
def Rounding.bumps (mode : Rounding) (negative : Bool) (whole rest unit : Nat) : Bool :=
  match mode with
  | .down => negative && rest != 0
  | .up => !negative && rest != 0
  | .towardZero => false
  | .halfAway => unit ≤ 2 * rest
  | .halfEven => unit < 2 * rest || (unit == 2 * rest && whole % 2 == 1)

def roundMagnitude (mode : Rounding) (negative : Bool) (mantissa : Nat) (exponent : Int) : Nat :=
  if 0 ≤ exponent then
    mantissa * Nat.pow 2 exponent.toNat
  else
    let unit := Nat.pow 2 (-exponent).toNat
    let whole := mantissa / unit
    if mode.bumps negative whole (mantissa % unit) unit then whole + 1 else whole

def isNegative : UnpackedFloat.Sign → Bool
  | .negative => true
  | .positive => false

def signed (negative : Bool) (x : Float) : Float :=
  if negative then -x else x

def round (mode : Rounding) (x : Float) : Float :=
  match x.toModel.unpack with
  | .finite sign mantissa exponent _ =>
    let negative := isNegative sign
    signed negative (Float.ofNat (roundMagnitude mode negative mantissa exponent))
  | _ => x

def truncate? (x : Float) : Option Int :=
  match x.toModel.unpack with
  | .finite sign mantissa exponent _ =>
    let whole := roundMagnitude .towardZero (isNegative sign) mantissa exponent
    some (if isNegative sign then -(whole : Int) else whole)
  | .zero _ => some 0
  | _ => none

def isWhole (x : Float) : Bool :=
  match x.toModel.unpack with
  | .finite _ mantissa exponent _ => 0 ≤ exponent || mantissa % Nat.pow 2 (-exponent).toNat == 0
  | .zero _ => true
  | _ => false

def nearest (sign : UnpackedFloat.Sign) (mantissa : Nat) (exponent : Int) : Float :=
  .ofModel (.pack (if mantissa = 0 then .zero sign
    else UnpackedFloat.round Format.binary64 sign mantissa exponent))

def nan : Float :=
  .ofModel (.pack .notANumber)

def remainder (x y : Float) : Float :=
  match x.toModel.unpack, y.toModel.unpack with
  | .finite sign m e _, .finite _ n f _ =>
    let least := min e f
    nearest sign ((m * Nat.pow 2 (e - least).toNat) % (n * Nat.pow 2 (f - least).toNat)) least
  | .finite .., .infinity _ => x
  | .zero _, .finite .. => x
  | .zero _, .infinity _ => x
  | _, _ => nan

def narrow (x : Float) : Float32 :=
  .ofModel (.pack (match x.toModel.unpack with
    | .finite sign mantissa exponent _ =>
      UnpackedFloat.round Format.binary32 sign mantissa exponent
    | other => other))

def widen (x : Float32) : Float :=
  match x.toModel.unpack with
  | .finite sign mantissa exponent _ => nearest sign mantissa exponent
  | other => .ofModel (.pack other)

/-- The number nearest to `digits * 10 ^ exponent`. Magnitudes far outside the range of finite
numbers are recognised by their number of digits. -/
def ofDecimal (digits : Nat) (exponent : Int) : Float :=
  let places := (Text.natDigits digits).length + exponent
  if digits = 0 || places < -400 then 0
  else if 400 < places then .ofModel (.pack (.infinity .positive))
  else Float.ofScientific digits (exponent < 0) exponent.natAbs

def readDigits? (text : List Char) : Option (Nat × Int) :=
  let whole := text.takeWhile Char.isDigit
  let fraction := match text.dropWhile Char.isDigit with
    | [] => some []
    | '.' :: rest => if rest.all Char.isDigit then some rest else none
    | _ => none
  match fraction with
  | some fraction =>
    if whole.isEmpty && fraction.isEmpty then none
    else some (Text.digitsValue (whole ++ fraction), -(fraction.length : Int))
  | none => none

def isExponentMark (c : Char) : Bool :=
  c == 'e' || c == 'E'

def read? (text : List Char) : Option Float := do
  let (negative, unsigned) := Text.readSign text
  let (digits, power) ← readDigits? (unsigned.takeWhile (!isExponentMark ·))
  let exponent ← match unsigned.dropWhile (!isExponentMark ·) with
    | [] => some 0
    | _ :: exponent => Text.readInt? exponent
  return signed negative (ofDecimal digits (power + exponent))

end RowQuery.Binary
