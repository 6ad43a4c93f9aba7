import RowQuery.Value.Number

/-! Comparisons of values. -/

namespace RowQuery

def Binary.compare? (x y : Float) : Option Ordering :=
  if x < y then some .lt
  else if x == y then some .eq
  else if y < x then some .gt
  else none

/-- The order of two numbers. Numbers of different sorts are compared as binary numbers. -/
def Number.compare? : Number → Number → Option Ordering
  | integer a, integer b => some (compare a b)
  | decimal a, decimal b => some (a.compare b)
  | a, b => Binary.compare? a.toFloat b.toFloat

namespace Value

def compare? : Value → Value → Option Ordering
  | bool a, bool b => some (compare a b)
  | char a, char b => some (compare a b)
  | string a, string b => some (compare a b)
  | dateTime a, dateTime b => some (a.compare b)
  | left, right =>
    match left, right with
    | enum s a, enum t b => if s.name == t.name then some (compare a b) else none
    | _, _ =>
      if left.numericKind?.isSome && right.numericKind?.isSome then
        match left.number?, right.number? with
        | some a, some b => a.compare? b
        | _, _ => none
      else none

mutual

def same : Value → Value → Bool
  | null, null => true
  | bool a, bool b => a == b
  | char a, char b => a == b
  | integer a, integer b => a == b
  | float32 a, float32 b => a == b
  | float64 a, float64 b => a == b
  | decimal a, decimal b => a.same b
  | string a, string b => a == b
  | dateTime a, dateTime b => a.compare b == .eq
  | enum s a, enum t b => s.name == t.name && a == b
  | sequence s a, sequence t b => s == t && sameItems a b
  | record s a, record t b => s.name == t.name && sameItems a b
  | shape s a, shape t b => s.id == t.id && sameItems a b
  | _, _ => false

def sameItems : List Value → List Value → Bool
  | [], [] => true
  | a :: as, b :: bs => same a b && sameItems as bs
  | _, _ => false

end

/-- Equality as formulas see it: by the order of the values if they have one. Null equals null only. -/
def equal : Value → Value → Bool
  | null, null => true
  | null, _ => false
  | _, null => false
  | left, right =>
    match compare? left right with
    | some order => order == .eq
    | none => same left right

/-- The order of rows by a key: nulls come first, and values without an order tie. -/
def sortOrder (left right : Value) : Ordering :=
  match left.isNull, right.isNull with
  | true, true => .eq
  | true, false => .lt
  | false, true => .gt
  | false, false => (compare? left right).getD .eq

end Value

end RowQuery
