import RowQuery.Json.Basic

/-!
JSON as it is written: numbers with all their digits, objects with every member in order, repeated
names included. A document has a value unless a number in it is too large, or a string in it spells
no text.
-/

namespace RowQuery

namespace Json

/-- A number as it is written: `±digits * 10 ^ power`, and whether it has neither a fraction nor an
exponent. -/
structure Numeral where
  negative : Bool
  digits : Nat
  power : Int
  plain : Bool

/-- A document. A string that holds half of a surrogate pair is well formed but spells no text, and
neither does an object with such a name: both are `unspelled`. -/
inductive Document where
  | null
  | bool (b : Bool)
  | number (n : Numeral)
  | string (s : String)
  | unspelled
  | array (items : List Document)
  | object (members : List (String × Document))

def Numeral.value? (n : Numeral) : Option Number :=
  if n.plain && !n.negative && n.digits < Nat.pow 2 64 then some (.integer n.digits)
  else if n.plain && n.negative && n.digits != 0 && n.digits ≤ Nat.pow 2 63 then
    some (.integer (-(n.digits : Int)))
  else
    let x := Binary.signed n.negative (Binary.ofDecimal n.digits n.power)
    if x.isFinite then some (.float x) else none

namespace Document

mutual

/-- The value of a document. Of members with one name the last value counts, in the first place. -/
def value? : Document → Option Json
  | null => some .null
  | bool b => some (.bool b)
  | number n => n.value?.map .number
  | string s => some (.string s)
  | unspelled => none
  | array items => (itemValues? items).map .array
  | object members => (memberValues? [] members).map .object

def itemValues? : List Document → Option (List Json)
  | [] => some []
  | item :: rest => do
    let value ← value? item
    let values ← itemValues? rest
    return value :: values

def memberValues? (before : List (String × Json)) :
    List (String × Document) → Option (List (String × Json))
  | [] => some before
  | (name, item) :: rest => do
    let value ← value? item
    memberValues? (Json.insert name value before) rest

end

mutual

def depth : Document → Nat
  | array items => itemsDepth items + 1
  | object members => membersDepth members + 1
  | _ => 0

def itemsDepth : List Document → Nat
  | [] => 0
  | item :: rest => max (depth item) (itemsDepth rest)

def membersDepth : List (String × Document) → Nat
  | [] => 0
  | (_, item) :: rest => max (depth item) (membersDepth rest)

end

def valueWithin? (levels : Nat) (document : Document) : Option Json :=
  if document.depth ≤ levels then document.value? else none

/-- The parts of a document that stands for a row of named fields: an object, where other names are
passed over with all that they hold and no field may come twice, or an array of the first fields in
order. -/
def fields? (names : List String) : Document → Option (List (Option Document))
  | object members =>
    names.mapM fun name =>
      match members.filter (·.1 == name) with
      | [] => some none
      | [(_, field)] => some (some field)
      | _ => none
  | array items =>
    if items.length ≤ names.length then
      some (items.map some ++ List.replicate (names.length - items.length) none)
    else none
  | _ => none

def bool? : Document → Option Bool
  | bool b => some b
  | _ => none

def string? : Document → Option String
  | string s => some s
  | _ => none

def size? : Document → Option Nat
  | number n => if n.plain && !n.negative && n.digits < Nat.pow 2 64 then some n.digits else none
  | _ => none

end Document

end Json

end RowQuery
