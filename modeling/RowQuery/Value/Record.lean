import RowQuery.Conversion.Apply

/-! Values of record types and of shapes, slot by slot. -/

namespace RowQuery

structure RecordValue where
  decl : RecordType
  fields : List Value

namespace RecordValue

def new (decl : RecordType) : RecordValue :=
  ⟨decl, decl.members.map fun member => Value.default member.ty⟩

def toValue (record : RecordValue) : Value :=
  .record record.decl record.fields

def set (record : RecordValue) (name : String) (value : Value) : Result RecordValue :=
  match record.decl.indexOf? name with
  | none =>
    .error (.invalidArgument
      ("record type '" ++ record.decl.name ++ "' has no member '" ++ name ++ "'"))
  | some index =>
    match record.decl.members[index]? with
    | none => .error (.missingSlot record.decl.name index)
    | some member =>
      if value.conforms member.ty then .ok { record with fields := record.fields.set index value }
      else
        .error (.typeError ("cannot store " ++ value.typeOf.text ++ " value in member '" ++ name ++
          "' of type " ++ member.ty.text))

def get? (record : RecordValue) (name : String) : Option Value :=
  (record.decl.indexOf? name).bind (record.fields[·]?)

end RecordValue

structure ShapeValue where
  shape : Shape
  slots : List Value

namespace ShapeValue

def new (shape : Shape) : ShapeValue :=
  ⟨shape, shape.properties.map fun property => Value.default property.ty⟩

def toValue (row : ShapeValue) : Value :=
  .shape row.shape row.slots

def setSlot (row : ShapeValue) (index : Nat) (value : Value) : Result ShapeValue :=
  match row.shape.properties[index]? with
  | none => .error (.missingSlot row.shape.name index)
  | some property =>
    if value.conforms property.ty then .ok { row with slots := row.slots.set index value }
    else
      .error (.typeError ("cannot store " ++ value.typeOf.text ++ " value in '" ++ property.name ++
        "' of type " ++ property.ty.text))

def set (row : ShapeValue) (name : String) (value : Value) : Result ShapeValue :=
  match row.shape.indexOf? name with
  | none => .error (.invalidArgument (row.shape.name ++ " has no property '" ++ name ++ "'"))
  | some index => row.setSlot index value

def get? (row : ShapeValue) (name : String) : Option Value :=
  (row.shape.indexOf? name).bind (row.slots[·]?)

def entries (row : ShapeValue) : List (String × Value) :=
  (row.shape.properties.map (·.name)).zip row.slots

end ShapeValue

end RowQuery
