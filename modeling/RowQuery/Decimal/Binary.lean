import RowQuery.Decimal.Basic
import RowQuery.Number.Binary

/-! Decimals to and from binary floating-point numbers. -/

namespace RowQuery.Decimal

def floatPower (result base : Float) (n : Nat) : Float :=
  if n = 0 then result
  else
    let result := if n % 2 = 1 then result * base else result
    if n / 2 = 0 then result else floatPower result (base * base) (n / 2)
termination_by n

/-- A number near `d`: the nearest one for a whole number by form, otherwise the sum of the integer
part and the fraction, rounded again at the last decimal place. -/
def toFloat (d : Decimal) : Float :=
  if d.scale = 0 then
    if d.mantissa = 0 then 0 else Binary.signed d.negative (Float.ofNat d.mantissa)
  else
    let whole := Float.ofNat (d.mantissa / Nat.pow 10 d.scale)
    let fraction := Float.ofNat (d.mantissa % Nat.pow 10 d.scale) / Float.ofNat (Nat.pow 10 d.scale)
    if fraction == 0 then Binary.signed d.negative whole
    else
      let power := floatPower 1 10 d.scale
      Binary.signed d.negative (Binary.round .halfAway ((whole + fraction) * power) / power)

/-- A binary number on its way to a decimal: `mantissa * 5 ^ fives * 10 ^ tens`, up to what was
rounded off. -/
structure Mixed where
  mantissa : Nat
  tens : Int

def takeHalves : (count : Nat) → Mixed → Mixed
  | 0, x => x
  | count + 1, x =>
    if x.mantissa % 2 = 0 then takeHalves count ⟨x.mantissa / 2, x.tens + 1⟩
    else if 5 * x.mantissa < mantissaLimit then takeHalves count ⟨5 * x.mantissa, x.tens⟩
    else takeHalves count ⟨x.mantissa / 2, x.tens + 1⟩

def takeDoubles : (count : Nat) → Mixed → Option Mixed
  | 0, x => some x
  | count + 1, x =>
    if x.mantissa < Nat.pow 2 95 then takeDoubles count ⟨2 * x.mantissa, x.tens - 1⟩
    else if 2 * x.tens > count + 1 then none
    else takeDoubles count ⟨x.mantissa / 5, x.tens⟩

def takeTens : (count : Nat) → Nat → Option Nat
  | 0, mantissa => some mantissa
  | count + 1, mantissa =>
    if 10 * mantissa < mantissaLimit then takeTens count (10 * mantissa) else none

def dropExcess : (count : Nat) → Mixed → Mixed
  | 0, x => x
  | count + 1, x =>
    if x.tens < -28 then
      let mantissa := x.mantissa / 10
      if mantissa = 0 then ⟨0, 0⟩
      else dropExcess count
        ⟨if 5 ≤ x.mantissa % 10 then mantissa + 1 else mantissa, x.tens + 1⟩
    else x

def dropImprecise : (count : Nat) → Mixed → Mixed
  | 0, x => x
  | count + 1, x =>
    if x.tens < 0 ∧ Nat.pow 2 52 ≤ x.mantissa then
      dropImprecise count ⟨if 5 ≤ x.mantissa % 10 then x.mantissa / 10 + 1 else x.mantissa / 10,
        x.tens + 1⟩
    else x

def dropZeros : (count : Nat) → Mixed → Mixed
  | 0, x => x
  | count + 1, x =>
    if x.tens < 0 ∧ x.mantissa % 10 = 0 then dropZeros count ⟨x.mantissa / 10, x.tens + 1⟩ else x

/-- The decimal for a finite binary number, with as many digits as the number is precise to. -/
def ofFloat? (x : Float) : Option Decimal :=
  match x.toModel.unpack with
  | .zero sign => make? (Binary.isNegative sign) 0 0
  | .finite sign mantissa exponent _ => do
    let start : Mixed := ⟨mantissa, exponent⟩
    let mixed ← if exponent < 0 then some (takeHalves exponent.natAbs start)
      else takeDoubles exponent.natAbs start
    let mixed : Mixed ← if mixed.tens ≤ 0 then some mixed
      else (takeTens mixed.tens.natAbs mixed.mantissa).map (⟨·, 0⟩)
    let mixed := dropExcess mixed.tens.natAbs mixed
    let mixed := dropImprecise mixed.tens.natAbs mixed
    let mixed := dropZeros mixed.tens.natAbs mixed
    make? (Binary.isNegative sign) mixed.mantissa (-mixed.tens).toNat
  | _ => none

end RowQuery.Decimal
