import RowQuery.Text.Digits

/-!
Decimal numbers with a 96-bit mantissa and up to 28 fraction digits. The number of fraction digits
is part of the number as it is written, and no part of its value.
-/

namespace RowQuery

abbrev Decimal.mantissaLimit : Nat := Nat.pow 2 96

abbrev Decimal.maxScale : Nat := 28

/-- The number `±mantissa / 10 ^ scale`. -/
structure Decimal where
  negative : Bool
  mantissa : Nat
  scale : Nat
  mantissa_lt : mantissa < Decimal.mantissaLimit
  scale_le : scale ≤ Decimal.maxScale
  deriving DecidableEq

namespace Decimal

def make? (negative : Bool) (mantissa scale : Nat) : Option Decimal :=
  if h : mantissa < mantissaLimit ∧ scale ≤ maxScale then
    some ⟨negative, mantissa, scale, h.1, h.2⟩
  else
    none

def zero : Decimal := ⟨false, 0, 0, by decide, by decide⟩

def isZero (d : Decimal) : Bool :=
  d.mantissa == 0

def neg (d : Decimal) : Decimal :=
  { d with negative := !d.negative }

def abs (d : Decimal) : Decimal :=
  { d with negative := false }

def ofInt? (n : Int) : Option Decimal :=
  make? (n < 0) n.natAbs 0

def signedMantissa (d : Decimal) : Int :=
  if d.negative then -(d.mantissa : Int) else d.mantissa

def isWhole (d : Decimal) : Bool :=
  d.mantissa % Nat.pow 10 d.scale == 0

def truncate (d : Decimal) : Int :=
  let whole := d.mantissa / Nat.pow 10 d.scale
  if d.negative then -(whole : Int) else whole

def aligned (a b : Decimal) : Int × Int :=
  let scale := max a.scale b.scale
  (a.signedMantissa * Int.pow 10 (scale - a.scale), b.signedMantissa * Int.pow 10 (scale - b.scale))

def compare (a b : Decimal) : Ordering :=
  let (x, y) := aligned a b
  Ord.compare x y

def same (a b : Decimal) : Bool :=
  a.compare b == .eq

def text (d : Decimal) : String :=
  let digits := Text.padded (d.scale + 1) d.mantissa
  let whole := digits.length - d.scale
  String.ofList ((if d.negative then ['-'] else []) ++ digits.take whole ++
    (if d.scale = 0 then [] else '.' :: digits.drop whole))

end Decimal

end RowQuery
