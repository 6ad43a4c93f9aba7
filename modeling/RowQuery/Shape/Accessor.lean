import RowQuery.Value.Record

/-! Access to a property of a shape by its place. -/

namespace RowQuery

structure Accessor where
  owner : Shape
  index : Nat
  property : Property

namespace Accessor

def ofName? (shape : Shape) (name : String) : Option Accessor := do
  let index ← shape.indexOf? name
  let property ← shape.properties[index]?
  return ⟨shape, index, property⟩

def all (shape : Shape) : List Accessor :=
  shape.properties.zipIdx.map fun (property, index) => ⟨shape, index, property⟩

def checkOwner (accessor : Accessor) (row : ShapeValue) : Result Unit :=
  if row.shape.id == accessor.owner.id then .ok ()
  else
    .error (.typeError ("accessor for " ++ accessor.owner.name ++ " used on an instance of " ++
      row.shape.name))

def get (accessor : Accessor) (row : ShapeValue) : Result Value := do
  accessor.checkOwner row
  match row.slots[accessor.index]? with
  | some value => .ok value
  | none => .error (.missingSlot row.shape.name accessor.index)

def set (accessor : Accessor) (row : ShapeValue) (value : Value) : Result ShapeValue := do
  accessor.checkOwner row
  row.setSlot accessor.index value

end Accessor

end RowQuery
