import RowQuery.Decimal.Rounding

/-!
Arithmetic on decimals. Sums and products are exact as long as they fit and are rounded to the
nearest decimal otherwise; an operation fails when the integer part does not fit.
-/

namespace RowQuery.Decimal

/-- The sum. A zero operand leaves the other one as it is written; a sum that is zero is positive. -/
def add? (a b : Decimal) : Option Decimal :=
  if a.isZero then some b
  else if b.isZero then some a
  else
    let (x, y) := aligned a b
    let sum := x + y
    fit? (sum < 0) sum.natAbs (max a.scale b.scale)

def sub? (a b : Decimal) : Option Decimal :=
  if a.isZero then some (if b.isZero then b else b.neg) else a.add? b.neg

/-- Mantissas below this bound are multiplied by a shorter path with its own treatment of products
that have too many fraction digits. -/
def smallMantissa : Nat := Nat.pow 2 32

def mul? (a b : Decimal) : Option Decimal :=
  if a.isZero || b.isZero then some zero
  else
    let negative := a.negative != b.negative
    let product := a.mantissa * b.mantissa
    let scale := a.scale + b.scale
    if a.mantissa < smallMantissa && b.mantissa < smallMantissa then
      if scale ≤ maxScale then make? negative product scale
      else if 47 < scale then some zero
      else
        let rounded := divideHalfEven product (Nat.pow 10 (scale - maxScale))
        make? (negative && rounded != 0) rounded maxScale
    else
      fit? negative product scale

def roomFor (quotient : Nat) : (room : Nat) → Nat
  | 0 => 1
  | room + 1 =>
    if room = 0 || quotient * Nat.pow 10 (room + 1) < mantissaLimit then room + 1
    else roomFor quotient room

theorem roomFor_pos (quotient room : Nat) : 0 < roomFor quotient room := by
  induction room with
  | zero => simp [roomFor]
  | succ room ih =>
    unfold roomFor
    split
    · omega
    · exact ih

/-- A quotient under way: its digits so far, the remainder, its scale, which is negative while
integer digits are missing, and whether a remainder was ever left. -/
structure Quotient where
  digits : Nat
  rest : Nat
  scale : Int
  inexact : Bool

def Quotient.rounded? (q : Quotient) (divisor : Nat) : Option Quotient :=
  let up := divisor < 2 * q.rest || (divisor == 2 * q.rest && q.digits % 2 == 1)
  let digits := if up then q.digits + 1 else q.digits
  if digits < mantissaLimit then some { q with digits }
  else if q.scale = 0 then none
  else some { q with digits := divideHalfUp digits 10, scale := q.scale - 1 }

def Quotient.shortened? (q : Quotient) : Option Quotient :=
  if q.scale ≤ 0 then none
  else
    let digits := q.digits / 10
    let last := q.digits % 10
    let up := 5 < last || (last == 5 && (q.rest != 0 || digits % 2 == 1))
    some { q with digits := if up then digits + 1 else digits, scale := q.scale - 1 }

def Quotient.extended (q : Quotient) (divisor count : Nat) : Quotient :=
  let rest := q.rest * Nat.pow 10 count
  { q with
    digits := q.digits * Nat.pow 10 count + rest / divisor
    rest := rest % divisor
    scale := q.scale + count }

def Quotient.marked (q : Quotient) : Quotient :=
  { q with inexact := true }

/-- Long division, up to nine digits at a time, until nothing is left or no more digits fit. -/
def Quotient.run? (divisor : Nat) (q : Quotient) : Option Quotient :=
  if q.rest = 0 then
    if 0 ≤ q.scale then some q
    else
      let count := min 9 (-q.scale).toNat
      if mantissaLimit ≤ q.digits * Nat.pow 10 count then none
      else run? divisor (q.extended divisor count)
  else if q.scale < (maxScale : Int) ∧ q.digits * 10 < mantissaLimit then
    let count := roomFor q.digits (min 9 ((maxScale : Int) - q.scale).toNat)
    if count < 9 ∧ q.scale + (count : Int) < 0 then none
    else if mantissaLimit ≤ q.digits * Nat.pow 10 count then none
    else
      let next := q.marked.extended divisor count
      if next.digits < mantissaLimit then run? divisor next else next.shortened?
  else if q.scale < 0 then none
  else q.marked.rounded? divisor
termination_by ((maxScale : Int) - q.scale).toNat
decreasing_by
  · simp only [extended]
    omega
  · have := roomFor_pos q.digits (min 9 ((maxScale : Int) - q.scale).toNat)
    simp only [extended, marked]
    omega

def stripCount (count : Nat) (digits scale : Nat) : Option (Nat × Nat) :=
  if count ≤ scale ∧ digits % Nat.pow 10 count = 0 then
    some (digits / Nat.pow 10 count, scale - count)
  else none

/-- Strips zeros by eights, which is only tried while the low 32 bits are zero. -/
def stripEights (digits scale : Nat) : Nat × Nat :=
  if 8 ≤ scale ∧ digits % Nat.pow 2 32 = 0 ∧ digits % Nat.pow 10 8 = 0 then
    stripEights (digits / Nat.pow 10 8) (scale - 8)
  else
    (digits, scale)
termination_by scale

def stripOnce (count : Nat) (number : Nat × Nat) : Nat × Nat :=
  if number.1 % Nat.pow 2 count = 0 then
    (stripCount count number.1 number.2).getD number
  else
    number

def stripQuotient (digits scale : Nat) : Nat × Nat :=
  stripOnce 1 (stripOnce 2 (stripOnce 4 (stripEights digits scale)))

def div? (a b : Decimal) : Option Decimal :=
  if a.isZero then some zero
  else do
    let start : Quotient :=
      ⟨a.mantissa / b.mantissa, a.mantissa % b.mantissa, (a.scale : Int) - b.scale, false⟩
    let q ← start.run? b.mantissa
    let (digits, scale) :=
      if q.inexact then stripQuotient q.digits q.scale.toNat else (q.digits, q.scale.toNat)
    make? (a.negative != b.negative && digits != 0) digits scale

def rem? (a b : Decimal) : Option Decimal :=
  if a.isZero then some zero
  else
    let (x, y) := aligned a b
    if x.natAbs = y.natAbs then some zero
    else if x.natAbs < y.natAbs then some a
    else
      let rest := x.natAbs % y.natAbs
      make? (a.negative && rest != 0) rest (max a.scale b.scale)

end RowQuery.Decimal
