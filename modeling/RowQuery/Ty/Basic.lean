import RowQuery.Error
import RowQuery.Text.Case
import RowQuery.Text.Quoted

/-!
Static types. They are compared by structure, but for declared types, which are the same when they
have the same name, and for shapes, which are the same when they come from one fabrication.
-/

namespace RowQuery

structure EnumType where
  name : String
  underlying : IntegerKind
  variants : List (String × Int)

inductive MemberKind where
  | field
  | property
  deriving DecidableEq

inductive Visibility where
  | shown
  | hidden
  deriving DecidableEq

mutual

inductive Ty where
  | null
  | bool
  | char
  | numeric (kind : NumericKind)
  | string
  | dateTime
  | any
  | enumerable
  | nullable (inner : Ty)
  | sequence (element : Ty)
  | enum (decl : EnumType)
  | record (decl : RecordType)
  | shape (decl : Shape)

structure Member where
  name : String
  ty : Ty
  kind : MemberKind
  visibility : Visibility
  /-- The name of the record type that declares the member. -/
  declaringType : String

/-- Which way a declared conversion goes, seen from the record that declares it. -/
inductive Direction where
  | incoming (source : Ty)
  | outgoing (target : Ty)

/-- A conversion declared on a record type. Its code belongs to the host and goes by the number. -/
structure DeclaredConversion where
  id : Nat
  direction : Direction
  implicit : Bool

/-- A declared record type. The members of the base come first. -/
structure RecordType where
  name : String
  base : Option RecordType
  members : List Member
  conversions : List DeclaredConversion

structure Property where
  name : String
  ty : Ty

structure Shape where
  id : Nat
  name : String
  generation : Nat
  properties : List Property

end

namespace Ty

def same : Ty → Ty → Bool
  | null, null | bool, bool | char, char | string, string | dateTime, dateTime | any, any
  | enumerable, enumerable => true
  | numeric a, numeric b => a == b
  | nullable a, nullable b => same a b
  | sequence a, sequence b => same a b
  | enum a, enum b => a.name == b.name
  | record a, record b => a.name == b.name
  | shape a, shape b => a.id == b.id
  | _, _ => false

instance : BEq Ty := ⟨same⟩

def text : Ty → String
  | null => "null"
  | bool => "bool"
  | char => "char"
  | numeric kind => kind.name
  | string => "string"
  | dateTime => "datetime"
  | any => "any"
  | enumerable => "enumerable"
  | nullable inner => text inner ++ "?"
  | sequence element => "[" ++ text element ++ "]"
  | enum decl => decl.name
  | record decl => decl.name
  | shape decl => decl.name

abbrev integer (kind : IntegerKind) : Ty := numeric (.integer kind)

abbrev i32 : Ty := integer .i32

abbrev f64 : Ty := numeric .f64

def isValueType : Ty → Bool
  | bool | char | numeric _ | dateTime | enum _ | nullable _ => true
  | null | string | any | enumerable | sequence _ | record _ | shape _ => false

def isNullable : Ty → Bool
  | nullable _ => true
  | _ => false

def admitsNull (ty : Ty) : Bool :=
  !ty.isValueType || ty.isNullable

def isNull : Ty → Bool
  | null => true
  | _ => false

def isReferenceType (ty : Ty) : Bool :=
  !ty.isValueType && !ty.isNull

def orNull (ty : Ty) : Ty :=
  if ty.admitsNull then ty else nullable ty

def underlying : Ty → Ty
  | nullable inner => inner
  | ty => ty

def element? : Ty → Option Ty
  | sequence element => some element
  | _ => none

def numericKind? : Ty → Option NumericKind
  | numeric kind => some kind
  | _ => none

end Ty

namespace EnumType

def valueOf? (decl : EnumType) (name : String) : Option Int :=
  (decl.variants.find? fun variant => Text.sameName variant.1 name).map (·.2)

def nameOf? (decl : EnumType) (value : Int) : Option String :=
  (decl.variants.find? fun variant => variant.2 == value).map (·.1)

end EnumType

namespace RecordType

def ancestry : RecordType → List RecordType
  | ⟨name, none, members, conversions⟩ => [⟨name, none, members, conversions⟩]
  | ⟨name, some base, members, conversions⟩ =>
    ⟨name, some base, members, conversions⟩ :: ancestry base

def isSubtypeOf (decl other : RecordType) : Bool :=
  decl.ancestry.any (·.name == other.name)

def describe (decl : RecordType) : String :=
  let base := match decl.base with
    | some base => "Some(" ++ Text.quoted base.name ++ ")"
    | none => "None"
  "RecordType \x7b name: " ++ Text.quoted decl.name ++ ", base: " ++ base ++ ", members: [" ++
    ", ".intercalate (decl.members.map fun member => Text.quoted member.name) ++ "] \x7d"

def indexOf? (decl : RecordType) (name : String) : Option Nat :=
  decl.members.findIdx? (·.name == name)

end RecordType

def Shape.indexOf? (shape : Shape) (name : String) : Option Nat :=
  shape.properties.findIdx? (·.name == name)

end RowQuery
