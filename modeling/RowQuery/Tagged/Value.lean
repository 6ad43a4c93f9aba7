import RowQuery.Calendar.Text
import RowQuery.Formula.Basic
import RowQuery.Json.Basic
import RowQuery.Text.Quoted

/-!
Values and formulas as JSON that keeps everything: each value is tagged with its kind, numbers are
texts, and binary numbers are their bits.
-/

namespace RowQuery

def hexText (digits n : Nat) : String :=
  let text := Text.hexDigits n
  String.ofList (Text.zeros (digits - text.length) ++ text)

def bitsText (x : Float) : String :=
  if x.isNaN then "nan" else hexText 16 x.toBits.toNat

def bitsTextSingle (x : Float32) : String :=
  if x.isNaN then "nan" else hexText 8 x.toBits.toNat

namespace Value

def tag (name : String) (json : Json) : Json :=
  .object [(name, json)]

def pairs (names : List String) (parts : List Json) : Json :=
  .array ((names.zip parts).map fun (name, part) => .array [.string name, part])

mutual

def tagged : Value → Json
  | null => .null
  | bool b => .bool b
  | char c => tag "char" (.string (String.singleton c))
  | integer n => tag n.kind.name (.string (toString n.value))
  | float32 x => tag "f32" (.string (bitsTextSingle x))
  | float64 x => tag "f64" (.string (bitsText x))
  | decimal d => tag "dec" (.string d.text)
  | string s => tag "str" (.string s)
  | dateTime t => tag "dt" (.string (t.write 'T' 9))
  | enum decl n => tag "enum" (.array [.string decl.name, .string (toString n)])
  | sequence element items => tag "seq" (.array [.string element.text, .array (taggedAll items)])
  | record decl fields =>
    tag "rec" (.array [.string decl.name, pairs (decl.members.map (·.name)) (taggedAll fields)])
  | shape decl slots => tag "proj" (pairs (decl.properties.map (·.name)) (taggedAll slots))

def taggedAll : List Value → List Json
  | [] => []
  | value :: rest => tagged value :: taggedAll rest

end

end Value

namespace Formula

mutual

def tagged : Formula → Json
  | constant value => .array [.string "c", value.tagged]
  | field path => .array [.string "f", .string path]
  | call method args => .array [.string "m", .string method, .array (taggedAll args)]

def taggedAll : List Formula → List Json
  | [] => []
  | formula :: rest => tagged formula :: taggedAll rest

end

end Formula

end RowQuery
