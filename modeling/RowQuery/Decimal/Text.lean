import RowQuery.Decimal.Arithmetic

/-!
Reading decimals. Digits are taken while they fit; the first fraction digit that does not fit rounds
the number, and those after it are passed over.
-/

namespace RowQuery.Decimal

structure Scan where
  mantissa : Nat
  scale : Nat
  point : Bool
  digit : Bool
  /-- The mantissa before the last digit. -/
  earlier : Nat

def Scan.start : Scan := ⟨0, 0, false, false, 0⟩

def Scan.push (scan : Scan) (digit : Nat) : Scan where
  mantissa := 10 * scan.mantissa + digit
  scale := if scan.point then scan.scale + 1 else scan.scale
  point := scan.point
  digit := true
  earlier := scan.mantissa

def Scan.roundOff? (scan : Scan) (digit : Nat) (rest : List Char) : Option (Nat × Nat) :=
  if !rest.all (fun c => c.isDigit || c == '_') then none
  else
    let mantissa := if 5 ≤ digit then scan.mantissa + 1 else scan.mantissa
    if mantissa < mantissaLimit then some (mantissa, scan.scale)
    else if scan.scale = 0 then none
    else some ((mantissa + 4) / 10, scan.scale - 1)

/-- Mantissas below this bound are kept in one machine word while digits are read. There a separator
in the place of the rounding digit stands for the digit zero. -/
def wordMantissa : Nat := 1844674407370954906

def scan? (scan : Scan) : List Char → Option (Nat × Nat)
  | [] => if scan.digit then some (scan.mantissa, scan.scale) else none
  | c :: rest =>
    if c.isDigit then
      if scan.scale < maxScale ∧ 10 * scan.mantissa + Text.digitValue c < mantissaLimit then
        scan? (scan.push (Text.digitValue c)) rest
      else if scan.point then scan.roundOff? (Text.digitValue c) rest
      else none
    else if c = '.' ∧ !scan.point then scan? { scan with point := true } rest
    else if c = '_' ∧ scan.digit then
      if scan.scale = maxScale ∧ scan.earlier < wordMantissa then scan.roundOff? 0 rest
      else scan? scan rest
    else none

def readPlain? (text : List Char) : Option Decimal := do
  let (negative, digits) := Text.readSign text
  let (mantissa, scale) ← scan? Scan.start digits
  make? (negative && mantissa != 0) mantissa scale

def readExponent? (text : List Char) : Option (Bool × Nat) := do
  let (negative, text) := match text with
    | '-' :: rest => (true, rest)
    | text => (false, text)
  let size ← Text.readNat? (match text with
    | '+' :: rest => rest
    | text => text)
  if size < Nat.pow 2 32 then some (negative, size) else none

def shiftDown? (d : Decimal) (size : Nat) : Option Decimal :=
  if maxScale < size then none
  else if d.scale + size ≤ maxScale then make? d.negative d.mantissa (d.scale + size)
  else
    make? d.negative (divideHalfUp d.mantissa (Nat.pow 10 (d.scale - (maxScale - size)))) maxScale

def powerOfTen? (size : Nat) : Option Decimal :=
  make? false (Nat.pow 10 size) 0

def shiftUp? (d : Decimal) (size : Nat) : Option Decimal :=
  if size ≤ d.scale then make? d.negative d.mantissa (d.scale - size)
  else if maxScale < size then none
  else do
    let first ← d.mul? (← powerOfTen? (min size 19))
    let product ← if size ≤ 19 then some first else first.mul? (← powerOfTen? (size - 19))
    return product.normalize

def isExponentMark (c : Char) : Bool :=
  c == 'e' || c == 'E'

def read? (text : List Char) : Option Decimal :=
  (readPlain? text).or do
    let d ← readPlain? (text.takeWhile (!isExponentMark ·))
    match text.dropWhile (!isExponentMark ·) with
    | [] => none
    | _ :: exponent =>
      let (negative, size) ← readExponent? exponent
      if negative then d.shiftDown? size else d.shiftUp? size

end RowQuery.Decimal
