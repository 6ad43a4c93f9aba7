import RowQuery.Shape.Forge
import RowQuery.Value.Record

/-! A forge together with the shapes and instances that are held, by name. -/

namespace RowQuery

structure Bench where
  forge : Forge
  shapes : List (String × Shape)
  instances : List (String × ShapeValue)

namespace Bench

def ofForge (forge : Forge) : Bench :=
  ⟨forge, [], []⟩

def held (bench : Bench) : List Ty :=
  bench.shapes.map (fun (_, shape) => .shape shape) ++
    bench.instances.flatMap fun (_, row) => row.toValue.types

def shape? (bench : Bench) (name : String) : Option Shape :=
  (bench.shapes.find? (·.1 == name)).map (·.2)

def instance? (bench : Bench) (name : String) : Option ShapeValue :=
  (bench.instances.find? (·.1 == name)).map (·.2)

/-- Gets a shape and holds it under a name. What the name held before is held until then. -/
def generate (bench : Bench) (name : String) (properties : List Property) : Result Shape × Bench :=
  match bench.forge.generate bench.held properties with
  | (.error fault, forge) => (.error fault, { bench with forge })
  | (.ok shape, forge) =>
    (.ok shape, { bench with forge, shapes := (name, shape) :: bench.shapes.filter (·.1 != name) })

def release (bench : Bench) (name : String) : Bool × Bench :=
  ((bench.shape? name).isSome, { bench with shapes := bench.shapes.filter (·.1 != name) })

def keep (bench : Bench) (name : String) (row : ShapeValue) : Bench :=
  { bench with instances := (name, row) :: bench.instances.filter (·.1 != name) }

def free (bench : Bench) (name : String) : Bool × Bench :=
  ((bench.instance? name).isSome,
    { bench with instances := bench.instances.filter (·.1 != name) })

def reset (bench : Bench) : Bench :=
  { bench with forge := bench.forge.reset }

def purge (bench : Bench) : Option Nat × Bench :=
  let (dropped, forge) := bench.forge.purge bench.held
  (dropped, { bench with forge })

def cachedCount? (bench : Bench) : Option Nat :=
  bench.forge.cachedCount? bench.held

end Bench

end RowQuery
