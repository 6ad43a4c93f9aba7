import RowQuery.Proofs.Shape.Order
import RowQuery.Proofs.Shape.Sweep

/-!
What one call of a forge does. Without a cache a new shape comes out of it. With a cache outermost the
call either hits an entry or makes a new shape and its entry.
-/

namespace RowQuery

theorem mem_propertyShapes {id : Nat} {properties : List Property} :
    id ∈ propertyShapes properties ↔ ∃ property ∈ properties, id ∈ property.ty.shapes := by
  induction properties with
  | nil => simp [propertyShapes]
  | cons property rest ih =>
      cases property
      simp [propertyShapes, ih]

theorem mem_propertyShapes_cacheKey {id : Nat} {properties : List Property}
    (accepted : propertyFault? [] properties = none) :
    id ∈ propertyShapes (cacheKey properties) ↔ id ∈ propertyShapes properties := by
  simp only [mem_propertyShapes, cacheKey_eq (propertyFault?_eq_none accepted).2,
    (sortedByName_perm properties).mem_iff]

theorem Ty.mem_shapes_shape {id : Nat} {shape : Shape} :
    id ∈ (Ty.shape shape).shapes ↔ id = shape.id ∨ id ∈ propertyShapes shape.properties := by
  cases shape
  simp [Ty.shapes, Shape.shapes]

/-! ### Forges without a cache -/

namespace Forge

def Uncached : Forge → Prop
  | plain _ => True
  | rotating _ _ inner => Uncached inner
  | caching _ _ => False

theorem foundry_reset (forge : Forge) : forge.reset.foundry = forge.foundry.reset := by
  induction forge with
  | plain foundry => rfl
  | rotating threshold count inner ih => exact ih
  | caching entries inner ih => exact ih

theorem epoch_reset (forge : Forge) : forge.reset.epoch = forge.epoch + 1 := by
  rw [epoch, foundry_reset]
  rfl

theorem Uncached.reset {forge : Forge} (uncached : forge.Uncached) : forge.reset.Uncached := by
  induction forge with
  | plain foundry => trivial
  | rotating threshold count inner ih => exact ih uncached
  | caching entries inner ih => exact uncached.elim

/-- The namespace in use is the one that the last reset began. -/
def InStep (forge : Forge) : Prop :=
  forge.foundry.current.generation = forge.epoch

theorem InStep.reset {forge : Forge} (inStep : forge.InStep) : forge.reset.InStep := by
  rw [InStep, epoch_reset, foundry_reset]
  exact congrArg (· + 1) inStep

structure Fabricates (before : Forge) (properties : List Property) (shape : Shape) (after : Forge) :
    Prop where
  uncached : after.Uncached
  inStep : after.InStep
  properties : shape.properties = properties
  numbered : shape.id = before.foundry.issued
  issued : after.foundry.issued = before.foundry.issued + 1
  generation : shape.generation = after.epoch
  later : before.epoch ≤ after.epoch

theorem Fabricates.plain {foundry : Foundry} (inStep : (plain foundry).InStep)
    (properties : List Property) :
    Fabricates (plain foundry) properties (foundry.fabricate properties).1
      (plain (foundry.fabricate properties).2) where
  uncached := trivial
  inStep := inStep
  properties := rfl
  numbered := rfl
  issued := rfl
  generation := inStep
  later := Nat.le_refl _

theorem Fabricates.rotating {threshold count : Nat} {inner after : Forge}
    {properties : List Property} {shape : Shape}
    (made : Fabricates (if threshold ≤ count then inner.reset else inner) properties shape after)
    (counted : Nat) :
    Fabricates (rotating threshold count inner) properties shape
      (rotating threshold counted after) := by
  have issued : (if threshold ≤ count then inner.reset else inner).foundry.issued =
      inner.foundry.issued := by
    split
    · rw [foundry_reset]
      rfl
    · rfl
  have later : inner.epoch ≤ (if threshold ≤ count then inner.reset else inner).epoch := by
    split
    · rw [epoch_reset]
      omega
    · exact Nat.le_refl _
  exact {
    uncached := made.uncached
    inStep := made.inStep
    properties := made.properties
    numbered := made.numbered.trans issued
    issued := made.issued.trans (congrArg (· + 1) issued)
    generation := made.generation
    later := Nat.le_trans later made.later }

theorem Uncached.generate {held : List Ty} {properties : List Property} {forge : Forge}
    (uncached : forge.Uncached) (inStep : forge.InStep)
    (accepted : propertyFault? [] properties = none) :
    ∃ shape after, forge.generate held properties = (.ok shape, after) ∧
      Fabricates forge properties shape after := by
  -- A layer that rotates recurs on a forge that was reset, so the induction is on the depth.
  induction layers : forge.depth generalizing forge with
  | zero =>
      cases forge with
      | plain foundry =>
          refine ⟨_, _, ?_, .plain inStep properties⟩
          rw [Forge.generate, accepted]
      | rotating threshold count inner => simp [depth] at layers
      | caching entries inner => exact uncached.elim
  | succ layer ih =>
      cases forge with
      | plain foundry => simp [depth] at layers
      | rotating threshold count inner =>
          have deep : inner.depth = layer := Nat.succ.inj layers
          obtain ⟨shape, after, generated, made⟩ :
              ∃ shape after,
                (if threshold ≤ count then inner.reset else inner).generate held properties =
                  (.ok shape, after) ∧
                Fabricates (if threshold ≤ count then inner.reset else inner) properties shape
                  after := by
            split
            · exact ih (Uncached.reset uncached) (InStep.reset inStep) (by rw [depth_reset, deep])
            · exact ih uncached inStep deep
          refine ⟨shape, _, ?_, made.rotating ((if threshold ≤ count then 0 else count) + 1)⟩
          rw [Forge.generate, generated]
      | caching entries inner => exact uncached.elim

/-! ### One call through the cache -/

def Hits (held : List Ty) (properties : List Property) (entries : List CacheEntry) (inner : Forge)
    (shape : Shape) (after : Forge) : Prop :=
  ∃ entry ∈ entries, entry.isFor (cacheKey properties) = true ∧
    entry.isCurrent inner.epoch
      (CacheEntry.live (held ++ properties.map (·.ty)) entries) = true ∧
    shape = entry.shape ∧ after = caching entries inner

def others (properties : List Property) (entries : List CacheEntry) : List CacheEntry :=
  entries.filter fun entry => !entry.isFor (cacheKey properties)

def surviving (held : List Ty) (properties : List Property) (entries : List CacheEntry)
    (shape : Shape) (epoch : Nat) : List CacheEntry :=
  CacheEntry.sweep (.shape shape :: (held ++ properties.map (·.ty))) epoch []
    (others properties entries)

def Misses (held : List Ty) (properties : List Property) (entries : List CacheEntry) (inner : Forge)
    (shape : Shape) (after : Forge) : Prop :=
  (∀ entry ∈ entries, entry.isFor (cacheKey properties) = true →
    entry.isCurrent inner.epoch
      (CacheEntry.live (held ++ properties.map (·.ty)) entries) = false) ∧
  ∃ changed, Fabricates inner properties shape changed ∧
    after = caching (surviving held properties entries shape changed.epoch ++
      [⟨cacheKey properties, shape, changed.epoch⟩]) changed

theorem mem_others {properties : List Property} {entries : List CacheEntry} {entry : CacheEntry} :
    entry ∈ others properties entries ↔
      entry ∈ entries ∧ entry.isFor (cacheKey properties) = false := by
  rw [others, List.mem_filter, Bool.not_eq_true']

theorem mem_of_surviving {held : List Ty} {properties : List Property} {entries : List CacheEntry}
    {shape : Shape} {epoch : Nat} {entry : CacheEntry}
    (survivor : entry ∈ surviving held properties entries shape epoch) :
    entry ∈ entries ∧ entry.isFor (cacheKey properties) = false :=
  mem_others.mp (CacheEntry.mem_of_mem_sweep survivor)

theorem generate_refused {held : List Ty} {properties : List Property} {entries : List CacheEntry}
    {inner : Forge} {fault : Error} (refused : propertyFault? [] properties = some fault) :
    (caching entries inner).generate held properties = (.error fault, caching entries inner) := by
  rw [Forge.generate, refused]

theorem generate_accepted (held : List Ty) {properties : List Property}
    (entries : List CacheEntry) {inner : Forge} (uncached : inner.Uncached) (inStep : inner.InStep)
    (accepted : propertyFault? [] properties = none) :
    ∃ shape after, (caching entries inner).generate held properties = (.ok shape, after) ∧
      (Hits held properties entries inner shape after ∨
        Misses held properties entries inner shape after) := by
  obtain ⟨shape, changed, generated, made⟩ := uncached.generate inStep accepted
  rw [Forge.generate, accepted]
  simp only []
  split
  · rename_i entry found
    have usable := List.find?_some found
    rw [Bool.and_eq_true] at usable
    exact ⟨_, _, rfl, .inl ⟨entry, List.mem_of_find?_eq_some found, usable.1, usable.2, rfl, rfl⟩⟩
  · rename_i missing
    rw [generated]
    refine ⟨_, _, rfl, .inr ⟨?_, changed, made, rfl⟩⟩
    intro entry member asked
    have unusable := List.find?_eq_none.mp missing entry member
    simpa [asked] using unusable

theorem generate_eq_ok {held : List Ty} {properties : List Property} {entries : List CacheEntry}
    {inner after : Forge} {shape : Shape} (uncached : inner.Uncached) (inStep : inner.InStep)
    (generated : (caching entries inner).generate held properties = (.ok shape, after)) :
    propertyFault? [] properties = none ∧
      (Hits held properties entries inner shape after ∨
        Misses held properties entries inner shape after) := by
  cases accepted : propertyFault? [] properties with
  | some fault =>
      rw [generate_refused accepted] at generated
      simp at generated
  | none =>
      obtain ⟨made, changed, same, outcome⟩ :=
        generate_accepted held entries uncached inStep accepted
      rw [generated] at same
      obtain ⟨rfl, rfl⟩ : shape = made ∧ after = changed := by simpa using same
      exact ⟨rfl, outcome⟩

end Forge

end RowQuery
