import RowQuery.Settings
import RowQuery.Shape.Mention

/-!
Fabrication of shapes. Shapes are registered in a namespace; a reset begins a new one. A forge can
begin a new namespace by itself after so many shapes, and it can hand out a shape again for the same
properties as long as the shape is alive.
-/

namespace RowQuery

structure Namespace where
  generation : Nat
  shapes : List Nat

structure Foundry where
  typePrefix : String
  current : Namespace
  /-- The namespaces that are not in use any more, latest first. -/
  retired : List Namespace
  epoch : Nat
  issued : Nat

namespace Foundry

def new (typePrefix : String) : Foundry :=
  ⟨typePrefix, ⟨0, []⟩, [], 0, 0⟩

def fabricate (foundry : Foundry) (properties : List Property) : Shape × Foundry :=
  let id := foundry.issued
  let shape : Shape :=
    ⟨id, foundry.typePrefix ++ "#" ++ toString id, foundry.current.generation, properties⟩
  (shape, { foundry with
    current := { foundry.current with shapes := foundry.current.shapes ++ [id] }
    issued := id + 1 })

def reset (foundry : Foundry) : Foundry :=
  { foundry with
    current := ⟨foundry.current.generation + 1, []⟩
    retired := foundry.current :: foundry.retired
    epoch := foundry.epoch + 1 }

def countIn (foundry : Foundry) (generation : Nat) : Nat :=
  match (foundry.current :: foundry.retired).find? (·.generation == generation) with
  | some space => space.shapes.length
  | none => 0

end Foundry

def propertyFault? (before : List String) : List Property → Option Error
  | [] => none
  | property :: rest =>
    if Text.allBlank property.name then
      some (.invalidProjection "property names must not be blank")
    else if before.contains property.name then
      some (.invalidProjection ("property '" ++ property.name ++ "' is defined more than once"))
    else propertyFault? (property.name :: before) rest

def Property.same (a b : Property) : Bool :=
  a.name == b.name && a.ty == b.ty

def Property.text (property : Property) : String :=
  property.name ++ ": " ++ property.ty.text

def Property.precedes (a b : Property) : Bool :=
  a.name < b.name || (a.name == b.name && decide (a.ty.text < b.ty.text))

def sortedByName (properties : List Property) : List Property :=
  properties.foldr place []
where
  place (property : Property) : List Property → List Property
    | [] => [property]
    | other :: rest =>
      if other.precedes property then other :: place property rest
      else property :: other :: rest

def withoutRepeats : List Property → List Property
  | [] => []
  | property :: rest => property :: after property rest
where
  after (last : Property) : List Property → List Property
    | [] => []
    | property :: rest =>
      if last.same property then after last rest else property :: after property rest

/-- What stands for properties in a cache. It is the same for all orders of one set. -/
def cacheKey (properties : List Property) : List Property :=
  withoutRepeats (sortedByName properties)

/-- A shape that can be handed out again. The entry itself does not keep the shape alive, but its key
keeps the types of the properties alive. -/
structure CacheEntry where
  key : List Property
  shape : Shape
  epoch : Nat

namespace CacheEntry

def isFor (entry : CacheEntry) (key : List Property) : Bool :=
  entry.key.length == key.length && (entry.key.zip key).all fun (a, b) => a.same b

def live (held : List Ty) (entries : List CacheEntry) : List Nat :=
  held.flatMap (·.shapes) ++ entries.flatMap fun entry => propertyShapes entry.key

def isCurrent (epoch : Nat) (alive : List Nat) (entry : CacheEntry) : Bool :=
  entry.epoch == epoch && alive.contains entry.shape.id

/-- Visits the entries one after the other and drops those that cannot be used again. The key of an
entry that was dropped keeps nothing alive when the next one is visited. -/
def sweep (held : List Ty) (epoch : Nat) (kept : List CacheEntry) :
    List CacheEntry → List CacheEntry
  | [] => kept
  | entry :: rest =>
    if entry.isCurrent epoch (live held (kept ++ entry :: rest)) then
      sweep held epoch (kept ++ [entry]) rest
    else sweep held epoch kept rest

end CacheEntry

inductive Forge where
  | plain (foundry : Foundry)
  /-- Resets what is inside once `threshold` shapes have come out of it. -/
  | rotating (threshold count : Nat) (inner : Forge)
  | caching (entries : List CacheEntry) (inner : Forge)

namespace Forge

def foundry : Forge → Foundry
  | plain foundry => foundry
  | rotating _ _ inner => foundry inner
  | caching _ inner => foundry inner

def epoch (forge : Forge) : Nat :=
  forge.foundry.epoch

def reset : Forge → Forge
  | plain foundry => plain foundry.reset
  | rotating threshold _ inner => rotating threshold 0 (reset inner)
  | caching _ inner => caching [] (reset inner)

def depth : Forge → Nat
  | plain _ => 0
  | rotating _ _ inner => depth inner + 1
  | caching _ inner => depth inner + 1

theorem depth_reset (forge : Forge) : forge.reset.depth = forge.depth := by
  induction forge with
  | plain foundry => rfl
  | rotating threshold count inner ih => simp [reset, depth, ih]
  | caching entries inner ih => simp [reset, depth, ih]

/-- A shape with exactly these properties, and the forge after it; `held` are the types that are held
by someone. Under a cache the properties can have another order. -/
def generate (held : List Ty) (properties : List Property) : Forge → Result Shape × Forge
  | plain foundry =>
    match propertyFault? [] properties with
    | some fault => (.error fault, plain foundry)
    | none =>
      let (shape, changed) := foundry.fabricate properties
      (.ok shape, plain changed)
  | rotating threshold count inner =>
    let sofar := if threshold ≤ count then 0 else count
    match generate held properties (if threshold ≤ count then reset inner else inner) with
    | (.ok shape, changed) => (.ok shape, rotating threshold (sofar + 1) changed)
    | (.error fault, changed) => (.error fault, rotating threshold sofar changed)
  | caching entries inner =>
    match propertyFault? [] properties with
    | some fault => (.error fault, caching entries inner)
    | none =>
      let key := cacheKey properties
      let asked := held ++ properties.map (·.ty)
      let usable := CacheEntry.isCurrent inner.epoch (CacheEntry.live asked entries)
      match entries.find? fun entry => entry.isFor key && usable entry with
      | some entry => (.ok entry.shape, caching entries inner)
      | none =>
        let others := entries.filter fun entry => !entry.isFor key
        match generate held properties inner with
        | (.error fault, changed) => (.error fault, caching others changed)
        | (.ok shape, changed) =>
          let kept := CacheEntry.sweep (.shape shape :: asked) changed.epoch [] others
          (.ok shape, caching (kept ++ [⟨key, shape, changed.epoch⟩]) changed)
termination_by forge => forge.depth
decreasing_by
  · split <;> simp [depth, depth_reset]
  · simp [depth]

def cachedCount? (held : List Ty) : Forge → Option Nat
  | plain _ => none
  | rotating _ _ inner => cachedCount? held inner
  | caching entries inner =>
    some (entries.countP (CacheEntry.isCurrent inner.epoch (CacheEntry.live held entries)))

def purge (held : List Ty) : Forge → Option Nat × Forge
  | plain foundry => (none, plain foundry)
  | rotating threshold count inner =>
    let (dropped, changed) := purge held inner
    (dropped, rotating threshold count changed)
  | caching entries inner =>
    let kept := CacheEntry.sweep held inner.epoch [] entries
    (some (entries.length - kept.length), caching kept inner)

def rotation? : Forge → Option (Nat × Nat)
  | plain _ => none
  | rotating threshold count _ => some (count, threshold)
  | caching _ inner => rotation? inner

def withRotation (threshold : Nat) (inner : Forge) : Result Forge :=
  if threshold = 0 then .error (.config "reset threshold must be greater than zero")
  else .ok (rotating threshold 0 inner)

def withCache (inner : Forge) : Forge :=
  caching [] inner

def bare (settings : ShapeSettings) : Forge :=
  plain (Foundry.new settings.typePrefix)

/-- The forge that the settings ask for. The cache is outside, where it sees all resets. -/
def ofSettings (settings : ShapeSettings) : Result Forge := do
  let rotating ← withRotation settings.resetThreshold (bare settings)
  return if settings.caching then withCache rotating else rotating

end Forge

end RowQuery
