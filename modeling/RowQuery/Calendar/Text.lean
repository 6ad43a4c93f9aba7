import RowQuery.Calendar.DateTime
import RowQuery.Text.Blank
import RowQuery.Text.Digits

/-! Date-times as text. -/

namespace RowQuery

def Date.yearText (year : Int) : List Char :=
  let digits := Text.padded 4 year.natAbs
  if year < 0 then '-' :: digits else if 9999 < year then '+' :: digits else digits

def Date.text (d : Date) : List Char :=
  yearText d.year ++ ['-'] ++ Text.padded 2 d.month ++ ['-'] ++ Text.padded 2 d.day

namespace DateTime

def write (separator : Char) (places : Nat) (t : DateTime) : String :=
  let second := t.secondOfMinute + t.nanosecond / 1000000000
  let fraction := t.nanosecond % 1000000000
  String.ofList (t.date.text ++ [separator] ++ Text.padded 2 t.hour ++ [':'] ++
    Text.padded 2 t.minute ++ [':'] ++ Text.padded 2 second ++ ['.'] ++
    (Text.padded 9 fraction).take places)

def text (t : DateTime) : String :=
  t.write ' ' 3

def readUnsigned? (width : Nat) (text : List Char) : Option (Nat × List Char) :=
  let digits := (text.take width).takeWhile Char.isDigit
  if digits.isEmpty then none else some (Text.digitsValue digits, text.drop digits.length)

def readPair? (text : List Char) : Option (Nat × List Char) :=
  readUnsigned? 2 (text.dropWhile Text.isBlank)

def readYear? (text : List Char) : Option (Int × List Char) :=
  match text.dropWhile Text.isBlank with
  | '-' :: rest => (readUnsigned? rest.length rest).map fun (n, rest) => (-(n : Int), rest)
  | '+' :: rest => (readUnsigned? rest.length rest).map fun (n, rest) => ((n : Int), rest)
  | text => (readUnsigned? 4 text).map fun (n, rest) => ((n : Int), rest)

def expect? (c : Char) : List Char → Option (List Char)
  | [] => none
  | d :: rest => if c = d then some rest else none

def readDate? (text : List Char) : Option (Date × List Char) := do
  let (year, text) ← readYear? text
  let (month, text) ← readPair? (← expect? '-' text)
  let (day, text) ← readPair? (← expect? '-' text)
  return (← Date.make? year month day, text)

def fractionValue (digits : List Char) : Nat :=
  let kept := digits.take 9
  Text.digitsValue kept * Nat.pow 10 (9 - kept.length)

def readFraction? : List Char → Option Nat
  | [] => some 0
  | '.' :: digits =>
    if digits.isEmpty || !digits.all Char.isDigit then none else some (fractionValue digits)
  | _ => none

/-- Seconds with a fraction, or nothing, up to the end of the text. The second 60 is kept as a leap
second. -/
def readSeconds? : List Char → Option (Nat × Nat)
  | [] => some (0, 0)
  | ':' :: text => do
    let (second, text) ← readPair? text
    let fraction ← readFraction? text
    if second < 60 then some (second, fraction)
    else if second = 60 then some (59, 1000000000 + fraction)
    else none
  | _ => none

def readTime? (text : List Char) : Option (Nat × Nat) := do
  let (hour, text) ← readPair? text
  let (minute, text) ← readPair? (← expect? ':' text)
  let (second, nanosecond) ← readSeconds? text
  if hour < 24 ∧ minute < 60 then some (hour * 3600 + minute * 60 + second, nanosecond) else none

/-- A date, alone or with a time of day after a `T` or after any white space. -/
def read? (text : String) : Option DateTime := do
  let (date, rest) ← readDate? (Text.trim text).toList
  if rest.isEmpty then make? date 0 0
  else
    let (second, nanosecond) ← readTime? (match rest with
      | 'T' :: rest => rest
      | rest => rest)
    make? date second nanosecond

end DateTime

end RowQuery
