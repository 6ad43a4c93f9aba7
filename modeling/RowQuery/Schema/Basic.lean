import RowQuery.Json.Document
import RowQuery.Ty.Declare

/-! Types by name, as a program that reads them from JSON has them. -/

namespace RowQuery

inductive Fault where
  | error (cause : Error)
  | malformed (what : String)

abbrev Reading := Except Fault

namespace Reading

def ofResult (result : Result α) : Reading α :=
  result.mapError .error

def malformed (what : String) : Reading α :=
  .error (.malformed what)

def ofOption (what : String) : Option α → Reading α
  | some a => .ok a
  | none => malformed what

end Reading

structure Schema where
  /-- The types that have a name. The first one with a name counts. -/
  types : List (String × Ty)
  /-- The code of the declared conversions by number, in whatever form the host understands. -/
  code : List Json.Document

namespace Schema

def empty : Schema :=
  ⟨[], []⟩

def bind (schema : Schema) (name : String) (ty : Ty) : Schema :=
  { schema with types := (name, ty) :: schema.types }

def release (schema : Schema) (name : String) : Schema :=
  let isShape : Ty → Bool
    | .shape _ => true
    | _ => false
  { schema with types := schema.types.filter fun (bound, ty) => !(bound == name && isShape ty) }

def hold (schema : Schema) (name : String) (shape : Shape) : Schema :=
  (schema.release name).bind name (.shape shape)

def typeNamed (schema : Schema) (name : String) : Reading Ty :=
  .ofOption ("type " ++ name) ((schema.types.find? (·.1 == name)).map (·.2))

def recordNamed (schema : Schema) (name : String) : Reading RecordType := do
  match ← schema.typeNamed name with
  | .record decl => .ok decl
  | _ => .malformed ("record " ++ name)

def enumNamed (schema : Schema) (name : String) : Reading EnumType := do
  match ← schema.typeNamed name with
  | .enum decl => .ok decl
  | _ => .malformed ("enumeration " ++ name)

end Schema

end RowQuery
