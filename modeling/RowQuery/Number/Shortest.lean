import RowQuery.Number.Binary

/-!
The fewest decimal digits that denote a binary floating-point number: among the decimals that round
to it, those of the coarsest power of ten, and of these the one nearest to it. Two can be equally
near; which of them is written is a choice of the layout.
-/

namespace RowQuery.Binary

open Float.Model

structure Precision where
  bits : Nat
  leastExponent : Int

def double : Precision := ⟨53, -1074⟩

def single : Precision := ⟨24, -149⟩

inductive Tie where
  | away
  | toEven

def Tie.takesLower : Tie → (lower : Nat) → Bool
  | away, _ => false
  | toEven, lower => lower % 2 == 0

/-- The point of the grid of multiples of `10 ^ power` that stands for `mantissa * 2 ^ exponent`,
if one of its two neighbours there lies in the interval that is rounded to it. All quantities are
counted in quarters of `2 ^ exponent`, times a common factor that makes them integers. -/
def gridPoint? (precision : Precision) (tie : Tie) (mantissa : Nat) (exponent power : Int) :
    Option Nat :=
  let factor := Nat.pow 2 (exponent - 2).toNat * Nat.pow 10 (-power).toNat
  let unit := Nat.pow 10 power.toNat * Nat.pow 2 (2 - exponent).toNat
  let below := if mantissa = Nat.pow 2 (precision.bits - 1) ∧ precision.leastExponent < exponent
    then 1 else 2
  let value := 4 * mantissa * factor
  let low := (4 * mantissa - below) * factor
  let high := (4 * mantissa + 2) * factor
  let inside (point : Nat) : Bool :=
    if mantissa % 2 = 0 then low ≤ point * unit && point * unit ≤ high
    else low < point * unit && point * unit < high
  let lower := value / unit
  let rest := value % unit
  match inside lower, inside (lower + 1) with
  | true, true =>
    if 2 * rest < unit || (2 * rest == unit && tie.takesLower lower) then some lower
    else some (lower + 1)
  | true, false => some lower
  | false, true => some (lower + 1)
  | false, false => none

def firstGrid (precision : Precision) (tie : Tie) (mantissa : Nat) (exponent : Int) :
    (count : Nat) → (power : Int) → Nat × Int
  | 0, power => (0, power)
  | count + 1, power =>
    match gridPoint? precision tie mantissa exponent power with
    | some point => (point, power)
    | none => firstGrid precision tie mantissa exponent count (power - 1)

/-- Digits and power of ten of the shortest decimal for `mantissa * 2 ^ exponent`. The search starts
at a power of ten above the number, estimated from its binary logarithm. -/
def shortest (precision : Precision) (tie : Tie) (mantissa : Nat) (exponent : Int) : Nat × Int :=
  let start := (mantissa.log2 + exponent) * 30103 / 100000 + 2
  firstGrid precision tie mantissa exponent 30 start

structure Layout where
  /-- The decimal exponents of numbers that are written without one. -/
  plain : Int → Bool
  /-- What follows the digits of a whole number that is written without an exponent. -/
  wholeMark : List Char
  tie : Tie

def displayLayout : Layout := ⟨fun _ => true, [], .away⟩

def exchangeLayout : Layout := ⟨fun e => -5 ≤ e && e ≤ 15, ['.', '0'], .toEven⟩

def Layout.digits (layout : Layout) (digits : Nat) (power : Int) : List Char :=
  let row := Text.natDigits digits
  let places := row.length + power
  if layout.plain (places - 1) then
    if 0 ≤ power then row ++ Text.zeros power.toNat ++ layout.wholeMark
    else if 0 < places then row.take places.toNat ++ ['.'] ++ row.drop places.toNat
    else ['0', '.'] ++ Text.zeros (-places).toNat ++ row
  else
    let fraction := row.drop 1
    row.take 1 ++ (if fraction.isEmpty then [] else '.' :: fraction) ++
      ['e', if 0 ≤ places - 1 then '+' else '-'] ++ Text.natDigits (places - 1).natAbs

def Layout.unpacked (layout : Layout) (precision : Precision) : UnpackedFloat → List Char
  | .notANumber => ['N', 'a', 'N']
  | .infinity sign => minus sign ++ ['i', 'n', 'f']
  | .zero sign => minus sign ++ ['0'] ++ layout.wholeMark
  | .finite sign mantissa exponent _ =>
    let (digits, power) := shortest precision layout.tie mantissa exponent
    minus sign ++ layout.digits digits power
where
  minus (sign : UnpackedFloat.Sign) : List Char :=
    if isNegative sign then ['-'] else []

def Layout.text (layout : Layout) (x : Float) : String :=
  String.ofList (layout.unpacked double x.toModel.unpack)

def Layout.textSingle (layout : Layout) (x : Float32) : String :=
  String.ofList (layout.unpacked single x.toModel.unpack)

end RowQuery.Binary
