import RowQuery.Number.Shortest

/-! JSON values. Members of an object have an order and different names. -/

namespace RowQuery

inductive Json.Number where
  | integer (n : Int)
  | float (x : Float)

inductive Json where
  | null
  | bool (b : Bool)
  | number (n : Json.Number)
  | string (s : String)
  | array (items : List Json)
  | object (members : List (String × Json))

namespace Json

def ofFloat (x : Float) : Json :=
  if x.isFinite then number (.float x) else null

def ofInt (n : Int) : Json :=
  number (.integer n)

/-- Puts a member into an object: in the place of the one with its name, else at the end. -/
def insert (name : String) (value : Json) : List (String × Json) → List (String × Json)
  | [] => [(name, value)]
  | (other, old) :: rest =>
    if other = name then (name, value) :: rest else (other, old) :: insert name value rest

def Number.toFloat : Number → Float
  | integer n => Float.ofInt n
  | float x => x

def Number.toSigned? : Number → Option Int
  | integer n => if n < Int.pow 2 63 then some n else none
  | float _ => none

def Number.toUnsigned? : Number → Option Int
  | integer n => if 0 ≤ n then some n else none
  | float _ => none

end Json

end RowQuery
