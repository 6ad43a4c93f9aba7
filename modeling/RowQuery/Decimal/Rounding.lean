import RowQuery.Decimal.Basic

/-! Dropping fraction digits of a decimal. -/

namespace RowQuery.Decimal

def divideHalfEven (n unit : Nat) : Nat :=
  let whole := n / unit
  let rest := n % unit
  if unit < 2 * rest || (unit == 2 * rest && whole % 2 == 1) then whole + 1 else whole

def divideHalfUp (n unit : Nat) : Nat :=
  if unit ≤ 2 * (n % unit) then n / unit + 1 else n / unit

def toWhole (d : Decimal) (negative : Bool) (magnitude : Nat) : Decimal :=
  if d.scale = 0 then d else (make? negative magnitude 0).getD d

def wholePart (d : Decimal) : Nat :=
  d.mantissa / Nat.pow 10 d.scale

def fractionPart (d : Decimal) : Nat :=
  d.mantissa % Nat.pow 10 d.scale

/-- Rounded to the nearest whole number, a half to the even one. A zero keeps its sign; what is
not zero and is rounded to it becomes a positive one. -/
def round (d : Decimal) : Decimal :=
  let magnitude := divideHalfEven d.mantissa (Nat.pow 10 d.scale)
  d.toWhole (d.negative && (d.isZero || magnitude != 0)) magnitude

def floor (d : Decimal) : Decimal :=
  d.toWhole d.negative
    (if d.negative && d.fractionPart != 0 then d.wholePart + 1 else d.wholePart)

def ceil (d : Decimal) : Decimal :=
  d.toWhole d.negative
    (if !d.negative && d.fractionPart != 0 then d.wholePart + 1 else d.wholePart)

/-- `mantissa / 10 ^ scale` with the fewest digits dropped so that it is a decimal, rounded to the
nearest, a half to the even neighbour. When the rounding leaves the range one more digit goes. -/
def fit? (negative : Bool) (mantissa scale : Nat) : Option Decimal := do
  let dropped ← (List.range (scale + 1)).find? fun count =>
    scale - count ≤ maxScale && mantissa / Nat.pow 10 count < mantissaLimit
  let rounded := divideHalfEven mantissa (Nat.pow 10 dropped)
  if rounded < mantissaLimit then
    make? negative rounded (scale - dropped)
  else if dropped < scale then
    make? negative (divideHalfEven mantissa (Nat.pow 10 (dropped + 1))) (scale - dropped - 1)
  else
    none

def stripZeros (mantissa : Nat) : Nat → Nat × Nat
  | 0 => (mantissa, 0)
  | scale + 1 =>
    if mantissa % 10 = 0 then stripZeros (mantissa / 10) scale else (mantissa, scale + 1)

def normalize (d : Decimal) : Decimal :=
  if d.isZero then zero
  else
    let (mantissa, scale) := stripZeros d.mantissa d.scale
    (make? d.negative mantissa scale).getD d

end RowQuery.Decimal
