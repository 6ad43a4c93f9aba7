/-! Decimal digits. -/

namespace RowQuery.Text

def digitValue (c : Char) : Nat :=
  c.toNat - '0'.toNat

def digitsValue (digits : List Char) : Nat :=
  digits.foldl (fun value c => 10 * value + digitValue c) 0

def natDigits (n : Nat) : List Char :=
  Nat.toDigits 10 n

def zeros (count : Nat) : List Char :=
  List.replicate count '0'

def padded (width n : Nat) : List Char :=
  zeros (width - (natDigits n).length) ++ natDigits n

def readSign : List Char → Bool × List Char
  | '-' :: rest => (true, rest)
  | '+' :: rest => (false, rest)
  | text => (false, text)

def readNat? (text : List Char) : Option Nat :=
  if text.isEmpty || !text.all Char.isDigit then none else some (digitsValue text)

def readInt? (text : List Char) : Option Int :=
  let (negative, digits) := readSign text
  (readNat? digits).map fun n => if negative then -(n : Int) else n

end RowQuery.Text
