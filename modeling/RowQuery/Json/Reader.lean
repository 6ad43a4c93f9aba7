import RowQuery.Json.Document

/-! Reading JSON text. -/

namespace RowQuery.Json

def isSpace (c : Char) : Bool :=
  c == ' ' || c == '\n' || c == '\t' || c == '\r'

def hexValue? (c : Char) : Option Nat :=
  if c.isDigit then some (c.toNat - '0'.toNat)
  else if 'a' ≤ c ∧ c ≤ 'f' then some (c.toNat - 'a'.toNat + 10)
  else if 'A' ≤ c ∧ c ≤ 'F' then some (c.toNat - 'A'.toNat + 10)
  else none

def hexQuad? (a b c d : Char) : Option Nat := do
  return (((← hexValue? a) * 16 + (← hexValue? b)) * 16 + (← hexValue? c)) * 16 + (← hexValue? d)

def simpleEscape? : Char → Option Char
  | '"' => some '"'
  | '\\' => some '\\'
  | '/' => some '/'
  | 'b' => some '\x08'
  | 'f' => some '\x0c'
  | 'n' => some '\n'
  | 'r' => some '\r'
  | 't' => some '\t'
  | _ => none

def unitChar? (unit : Nat) : Option Char :=
  if 0xd800 ≤ unit ∧ unit ≤ 0xdfff then none else some (Char.ofNat unit)

def pairChar? (high low : Nat) : Option Char :=
  if 0xd800 ≤ high ∧ high ≤ 0xdbff ∧ 0xdc00 ≤ low ∧ low ≤ 0xdfff then
    some (Char.ofNat (0x10000 + (high - 0xd800) * 0x400 + (low - 0xdc00)))
  else
    none

inductive Piece where
  | char (c : Char)
  | unit (n : Nat)

def readPieces? : List Char → Option (List Piece × List Char)
  | '"' :: rest => some ([], rest)
  | '\\' :: 'u' :: a :: b :: c :: d :: rest => do
    let unit ← hexQuad? a b c d
    let (pieces, rest) ← readPieces? rest
    return (.unit unit :: pieces, rest)
  | '\\' :: c :: rest => do
    let char ← simpleEscape? c
    let (pieces, rest) ← readPieces? rest
    return (.char char :: pieces, rest)
  | c :: rest =>
    if c == '\\' || c.toNat < 0x20 then none
    else do
      let (pieces, rest) ← readPieces? rest
      return (.char c :: pieces, rest)
  | [] => none

def spelled? : List Piece → Option (List Char)
  | [] => some []
  | .char c :: rest => (spelled? rest).map (c :: ·)
  | .unit unit :: rest =>
    match unitChar? unit, rest with
    | some c, rest => (spelled? rest).map (c :: ·)
    | none, .unit low :: rest => do
      let c ← pairChar? unit low
      let chars ← spelled? rest
      return c :: chars
    | none, _ => none

def readString? (text : List Char) : Option (Option String × List Char) :=
  (readPieces? text).map fun (pieces, rest) => ((spelled? pieces).map String.ofList, rest)

def Document.ofMembers (members : List (Option String × Document)) : Document :=
  match members.mapM fun (name, value) => name.map (·, value) with
  | some members => .object members
  | none => .unspelled

def readDigits? (text : List Char) : Option (List Char × List Char) :=
  let digits := text.takeWhile Char.isDigit
  if digits.isEmpty then none else some (digits, text.dropWhile Char.isDigit)

def readFraction? : List Char → Option (List Char × List Char)
  | '.' :: text => readDigits? text
  | text => some ([], text)

def readExponent? : List Char → Option (Int × Bool × List Char)
  | c :: text =>
    if c == 'e' || c == 'E' then do
      let (negative, text) := Text.readSign text
      let (digits, rest) ← readDigits? text
      let size : Int := Text.digitsValue digits
      return (if negative then -size else size, true, rest)
    else some (0, false, c :: text)
  | [] => some (0, false, [])

def readNumeral? (text : List Char) : Option (Numeral × List Char) := do
  let (negative, text) := match text with
    | '-' :: rest => (true, rest)
    | text => (false, text)
  let (whole, text) ← readDigits? text
  if whole.head? = some '0' ∧ whole.length ≠ 1 then none
  let (fraction, text) ← readFraction? text
  let (exponent, marked, text) ← readExponent? text
  let digits := Text.digitsValue (whole ++ fraction)
  return (⟨negative, digits, exponent - fraction.length, fraction.isEmpty && !marked⟩, text)

mutual

/-- A document at the start of a text. Every step takes a character or hands on to one that does, so
twice the length of the text is fuel enough. -/
def readValue? : (fuel : Nat) → List Char → Option (Document × List Char)
  | 0, _ => none
  | fuel + 1, text =>
    match text.dropWhile isSpace with
    | 'n' :: 'u' :: 'l' :: 'l' :: rest => some (.null, rest)
    | 't' :: 'r' :: 'u' :: 'e' :: rest => some (.bool true, rest)
    | 'f' :: 'a' :: 'l' :: 's' :: 'e' :: rest => some (.bool false, rest)
    | '"' :: rest => (readString? rest).map fun (s, rest) => ((s.map .string).getD .unspelled, rest)
    | '[' :: rest =>
      match rest.dropWhile isSpace with
      | ']' :: rest => some (.array [], rest)
      | rest => (readItems? fuel rest).map fun (items, rest) => (.array items, rest)
    | '\x7b' :: rest =>
      match rest.dropWhile isSpace with
      | '\x7d' :: rest => some (.object [], rest)
      | rest => (readMembers? fuel rest).map fun (members, rest) => (.ofMembers members, rest)
    | text => (readNumeral? text).map fun (n, rest) => (.number n, rest)

def readItems? : (fuel : Nat) → List Char → Option (List Document × List Char)
  | 0, _ => none
  | fuel + 1, text => do
    let (item, text) ← readValue? fuel text
    match text.dropWhile isSpace with
    | ',' :: text =>
      let (items, rest) ← readItems? fuel text
      return (item :: items, rest)
    | ']' :: rest => return ([item], rest)
    | _ => none

def readMembers? : (fuel : Nat) → List Char → Option (List (Option String × Document) × List Char)
  | 0, _ => none
  | fuel + 1, text =>
    match text.dropWhile isSpace with
    | '"' :: text => do
      let (name, text) ← readString? text
      match text.dropWhile isSpace with
      | ':' :: text =>
        let (value, text) ← readValue? fuel text
        match text.dropWhile isSpace with
        | ',' :: text =>
          let (members, rest) ← readMembers? fuel text
          return ((name, value) :: members, rest)
        | '\x7d' :: rest => return ([(name, value)], rest)
        | _ => none
      | _ => none
    | _ => none

end

def Document.read? (text : String) : Option Document := do
  let chars := text.toList
  let (document, rest) ← readValue? (2 * chars.length + 2) chars
  if rest.all isSpace then some document else none

/-- The most levels of brackets that a text may have, where its values are not passed over. -/
def maxDepth : Nat := 127

def read? (text : String) : Option Json := do
  (← Document.read? text).valueWithin? maxDepth

end RowQuery.Json
