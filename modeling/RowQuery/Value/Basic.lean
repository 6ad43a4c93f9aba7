import RowQuery.Ty.Basic
import RowQuery.Decimal.Basic
import RowQuery.Calendar.DateTime

/-! Values at run time. -/

namespace RowQuery

inductive Value where
  | null
  | bool (b : Bool)
  | char (c : Char)
  | integer (n : Integer)
  | float32 (x : Float32)
  | float64 (x : Float)
  | decimal (d : Decimal)
  | string (s : String)
  | dateTime (t : DateTime)
  | enum (decl : EnumType) (discriminant : Int)
  | sequence (element : Ty) (items : List Value)
  /-- One field for each member of the record type. -/
  | record (decl : RecordType) (fields : List Value)
  /-- One slot for each property of the shape. -/
  | shape (decl : Shape) (slots : List Value)

namespace Value

def typeOf : Value → Ty
  | null => .null
  | bool _ => .bool
  | char _ => .char
  | integer n => .integer n.kind
  | float32 _ => .numeric .f32
  | float64 _ => .numeric .f64
  | decimal _ => .numeric .decimal
  | string _ => .string
  | dateTime _ => .dateTime
  | enum decl _ => .enum decl
  | sequence element _ => .sequence element
  | record decl _ => .record decl
  | shape decl _ => .shape decl

def zero : NumericKind → Value
  | .integer kind => integer (.zero kind)
  | .f32 => float32 0
  | .f64 => float64 0
  | .decimal => decimal .zero

def default : Ty → Value
  | .bool => bool false
  | .char => char '\x00'
  | .numeric kind => zero kind
  | .dateTime => dateTime .epoch
  | .enum decl => enum decl 0
  | _ => null

def isNull : Value → Bool
  | null => true
  | _ => false

def bool? : Value → Option Bool
  | bool b => some b
  | _ => none

def string? : Value → Option String
  | string s => some s
  | _ => none

def dateTime? : Value → Option DateTime
  | dateTime t => some t
  | _ => none

def decimal? : Value → Option Decimal
  | decimal d => some d
  | _ => none

def items? : Value → Option (List Value)
  | sequence _ items => some items
  | _ => none

def numericKind? : Value → Option NumericKind
  | integer n => some (.integer n.kind)
  | float32 _ => some .f32
  | float64 _ => some .f64
  | decimal _ => some .decimal
  | _ => none

end Value

end RowQuery
