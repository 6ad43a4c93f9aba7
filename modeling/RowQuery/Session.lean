import RowQuery.Engine

/-! An engine together with the projections that are held, by name. -/

namespace RowQuery

structure HeldProjection where
  projection : Projection
  source : Ty

structure Session where
  engine : Engine
  projections : List (String × HeldProjection)

namespace Session

def ofEngine (engine : Engine) : Session :=
  ⟨engine, []⟩

def held (session : Session) : List Ty :=
  session.projections.flatMap fun (_, entry) =>
    entry.source :: .shape entry.projection.shape :: entry.projection.expr.types

def projection? (session : Session) (name : String) : Option HeldProjection :=
  (session.projections.find? (·.1 == name)).map (·.2)

/-- Makes a projection and holds it under a name. What the name held before is held until then. -/
def select (session : Session) (name : String) (source : Ty) (selection : Selection) :
    Result Projection × Session :=
  match session.engine.select session.held source selection with
  | (.error fault, engine) => (.error fault, { session with engine })
  | (.ok projection, engine) =>
    (.ok projection, ⟨engine,
      (name, ⟨projection, source⟩) :: session.projections.filter (·.1 != name)⟩)

def compileQuery (session : Session) (source : Ty) (query : Query) :
    Result CompiledQuery × Session :=
  let (result, engine) := session.engine.compileQuery session.held source query
  (result, { session with engine })

def release (session : Session) (name : String) : Bool × Session :=
  ((session.projection? name).isSome,
    { session with projections := session.projections.filter (·.1 != name) })

def reset (session : Session) : Session :=
  { session with engine := { session.engine with forge := session.engine.forge.reset } }

end Session

end RowQuery
