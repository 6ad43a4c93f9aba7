import RowQuery.Ty.Assignable

/-! Which conversions there are between types, and how they go. -/

namespace RowQuery

inductive Conversion where
  | reference
  | numeric (kind : NumericKind)
  | char
  | enum (decl : EnumType)
  /-- Null stays null; all else is converted. -/
  | lifted (inner : Conversion)
  /-- Null is an error; all else is converted. -/
  | unwrap (inner : Conversion)
  | declared (conversion : DeclaredConversion)

def NumericKind.widenings : NumericKind → List NumericKind
  | integer .u8 =>
    [integer .u16, integer .i16, integer .u32, integer .i32, integer .u64, integer .i64, f32, f64,
      decimal]
  | integer .i8 => [integer .i16, integer .i32, integer .i64, f32, f64, decimal]
  | integer .i16 => [integer .i32, integer .i64, f32, f64, decimal]
  | integer .u16 => [integer .u32, integer .i32, integer .u64, integer .i64, f32, f64, decimal]
  | integer .i32 => [integer .i64, f32, f64, decimal]
  | integer .u32 => [integer .u64, integer .i64, f32, f64, decimal]
  | integer .i64 | integer .u64 => [f32, f64, decimal]
  | f32 => [f64]
  | f64 | decimal => []

def NumericKind.widensTo (source target : NumericKind) : Bool :=
  source.widenings.contains target

def charWidenings : List NumericKind :=
  [.integer .u16, .integer .u32, .integer .i32, .integer .u64, .integer .i64, .f32, .f64, .decimal]

namespace Conversion

def same : Conversion → Conversion → Bool
  | reference, reference | char, char => true
  | numeric a, numeric b => a == b
  | enum a, enum b => a.name == b.name
  | lifted a, lifted b => same a b
  | unwrap a, unwrap b => same a b
  | declared a, declared b => a.id == b.id
  | _, _ => false

def toPrimitive? : Ty → Option Conversion
  | .numeric kind => some (numeric kind)
  | .char => some char
  | .enum decl => some (enum decl)
  | _ => none

def isPrimitive : Ty → Bool
  | .char | .numeric _ | .enum _ => true
  | _ => false

def widens : Ty → Ty → Bool
  | .numeric source, .numeric target => source.widensTo target
  | .char, .numeric target => charWidenings.contains target
  | _, _ => false

def primitive? (implicitOnly : Bool) (source target : Ty) : Option Conversion :=
  if !implicitOnly || widens source target then toPrimitive? target else none

/-- A conversion out of a record, declared on it or on one of its bases, for exactly `target`. -/
def outgoing? (implicitOnly : Bool) (source : RecordType) (target : Ty) :
    Option DeclaredConversion :=
  source.ancestry.findSome? fun decl =>
    decl.conversions.find? fun conversion =>
      (!implicitOnly || conversion.implicit) &&
        match conversion.direction with
        | .outgoing goal => goal == target
        | .incoming _ => false

/-- A conversion into a record, declared on the record itself, for a type that `source` can stand
for. -/
def incoming? (implicitOnly : Bool) (source : Ty) (target : RecordType) :
    Option DeclaredConversion :=
  target.conversions.find? fun conversion =>
    (!implicitOnly || conversion.implicit) &&
      match conversion.direction with
      | .incoming origin => source.assignable origin
      | .outgoing _ => false

def declared? (implicitOnly : Bool) (source target : Ty) : Option DeclaredConversion :=
  let out := match source with
    | .record decl => outgoing? implicitOnly decl target
    | _ => none
  match out, target with
  | some conversion, _ => some conversion
  | none, .record decl => incoming? implicitOnly source decl
  | none, _ => none

def direct? (implicitOnly : Bool) (source target : Ty) : Option Conversion :=
  if source.assignable target then some reference
  else if source.isNull then none
  else if isPrimitive source && isPrimitive target then primitive? implicitOnly source target
  else (declared? implicitOnly source target).map declared

def fromBare? (implicitOnly : Bool) (source : Ty) : Ty → Option Conversion
  | .nullable inner =>
    if source.assignable (.nullable inner) then some reference
    else fromBare? implicitOnly source inner
  | target => direct? implicitOnly source target

/-- How `source` converts to `target`, if it does. Implicit conversions are those that may be put
in without being asked for. -/
def plan? (implicitOnly : Bool) : Ty → Ty → Option Conversion
  | .nullable source, target =>
    if (Ty.nullable source).assignable target then some reference
    else
      match target with
      | .nullable inner => (plan? implicitOnly source inner).map lifted
      | target => if implicitOnly then none else (plan? implicitOnly source target).map unwrap
  | source, target => fromBare? implicitOnly source target

def can (implicitOnly : Bool) (source target : Ty) : Bool :=
  (plan? implicitOnly source target).isSome

end Conversion

end RowQuery
