import RowQuery.Proofs.Outcome
import RowQuery.Proofs.Shape.Order
import RowQuery.Proofs.Shape.Sweep

/-!
What comes out of a forge, whatever its layers are and whatever it was used for before. A request is
refused only for a fault in its own properties, and a shape that is handed out has the properties
that were asked for, though a cache can give them in another order.
-/

namespace RowQuery

def CacheEntry.Matches (entry : CacheEntry) : Prop :=
  SameProperties entry.key entry.shape.properties

namespace Forge

def All (holds : CacheEntry → Prop) : Forge → Prop
  | plain _ => True
  | rotating _ _ inner => All holds inner
  | caching entries inner => (∀ entry ∈ entries, holds entry) ∧ All holds inner

section

variable {holds : CacheEntry → Prop}

theorem All.reset {forge : Forge} (all : forge.All holds) : forge.reset.All holds := by
  induction forge with
  | plain foundry => trivial
  | rotating threshold count inner ih => exact ih all
  | caching entries inner ih => exact ⟨by simp, ih all.2⟩

theorem All.purge {forge : Forge} (all : forge.All holds) (held : List Ty) :
    (forge.purge held).2.All holds := by
  induction forge with
  | plain foundry => trivial
  | rotating threshold count inner ih => exact ih all
  | caching entries inner ih =>
      exact ⟨fun entry kept => all.1 entry (CacheEntry.mem_of_mem_sweep kept), all.2⟩

theorem All.reorder {forge : Forge} (all : forge.All holds) (order : VisitOrder) :
    (forge.reorder order).All holds := by
  induction forge with
  | plain foundry => trivial
  | rotating threshold count inner ih => exact ih all
  | caching entries inner ih =>
      exact ⟨fun entry listed => all.1 entry ((order.perm entries).mem_iff.mp listed), ih all.2⟩

structure Outcome (holds : CacheEntry → Prop) (post : Shape → Prop) (properties : List Property)
    (outcome : Result Shape × Forge) : Prop where
  all : outcome.2.All holds
  shape : outcome.1.Meets (fun shape => propertyFault? [] properties = none ∧ post shape)
    (fun fault => propertyFault? [] properties = some fault)

variable {post : Shape → Prop} {properties : List Property}

theorem Outcome.rotating {threshold count : Nat} {inner : Forge} {held : List Ty}
    (supplied : Outcome holds post properties
      ((if threshold ≤ count then inner.reset else inner).generate held properties)) :
    Outcome holds post properties ((rotating threshold count inner).generate held properties) := by
  rw [Forge.generate]
  split
  · rename_i shape changed generated
    rw [generated] at supplied
    exact ⟨supplied.all, supplied.shape⟩
  · rename_i fault changed generated
    rw [generated] at supplied
    exact ⟨supplied.all, supplied.shape⟩

theorem Outcome.caching {entries : List CacheEntry} {inner : Forge} {held : List Ty}
    (all : (caching entries inner).All holds)
    (found : ∀ entry, holds entry → entry.isFor (cacheKey properties) = true → post entry.shape)
    (stored : ∀ shape epoch, post shape → holds ⟨cacheKey properties, shape, epoch⟩)
    (supplied : Outcome holds post properties (inner.generate held properties)) :
    Outcome holds post properties ((caching entries inner).generate held properties) := by
  rw [Forge.generate]
  split
  · rename_i fault refused
    exact ⟨all, refused⟩
  · rename_i accepted
    simp only
    split
    · rename_i entry here
      have usable := List.find?_some here
      rw [Bool.and_eq_true] at usable
      have holdsEntry := all.1 entry (List.mem_of_find?_eq_some here)
      exact ⟨all, accepted, found entry holdsEntry usable.1⟩
    · split
      · rename_i fault changed generated
        rw [generated] at supplied
        refine ⟨⟨?_, supplied.all⟩, supplied.shape⟩
        intro entry kept
        exact all.1 entry (List.mem_filter.mp kept).1
      · rename_i shape changed generated
        rw [generated] at supplied
        refine ⟨⟨?_, supplied.all⟩, supplied.shape⟩
        intro entry listed
        rcases List.mem_append.mp listed with kept | newest
        · exact all.1 entry (List.mem_of_mem_filter (CacheEntry.mem_of_mem_sweep kept))
        · rw [List.mem_singleton.mp newest]
          exact stored shape _ supplied.shape.2

/-- What is stored for a new shape and what is found for these properties goes through all layers. -/
theorem All.generate {forge : Forge} (all : forge.All holds) (held : List Ty)
    (made : ∀ id name generation, post ⟨id, name, generation, properties⟩)
    (found : ∀ entry, holds entry → entry.isFor (cacheKey properties) = true → post entry.shape)
    (stored : ∀ shape epoch, post shape → holds ⟨cacheKey properties, shape, epoch⟩) :
    Outcome holds post properties (forge.generate held properties) := by
  -- A layer that rotates recurs on a forge that was reset, so the induction is on the depth.
  induction layers : forge.depth generalizing forge with
  | zero =>
      cases forge with
      | plain foundry =>
          rw [Forge.generate]
          split
          · rename_i fault refused
            exact ⟨trivial, refused⟩
          · rename_i accepted
            exact ⟨trivial, accepted, made _ _ _⟩
      | rotating threshold count inner => simp [depth] at layers
      | caching entries inner => simp [depth] at layers
  | succ layer ih =>
      cases forge with
      | plain foundry => simp [depth] at layers
      | rotating threshold count inner =>
          have deep : inner.depth = layer := Nat.succ.inj layers
          apply Outcome.rotating
          split
          · exact ih (All.reset all) (by rw [depth_reset, deep])
          · exact ih all deep
      | caching entries inner =>
          exact .caching all found stored (ih all.2 (Nat.succ.inj layers))

end

/-- An entry that is found for some properties has a shape with these properties. -/
theorem same_of_isFor {entry : CacheEntry} (matching : entry.Matches) {properties : List Property}
    (found : entry.isFor (cacheKey properties) = true) :
    SameProperties entry.shape.properties properties :=
  (matching.symm.trans (.of_pointwise (CacheEntry.isFor_eq_true.mp found))).trans
    (same_cacheKey properties)

/-- A forge whose shapes have the properties of their keys supplies what it is asked for. -/
theorem All.supplies {forge : Forge} (matching : forge.All CacheEntry.Matches) (held : List Ty)
    (properties : List Property) :
    Outcome CacheEntry.Matches (fun shape => SameProperties shape.properties properties) properties
      (forge.generate held properties) :=
  matching.generate held (fun _ _ _ => SameProperties.refl properties)
    (fun _ matching found => same_of_isFor matching found)
    (fun _ _ same => (same_cacheKey properties).trans same.symm)

/-! ### Known types -/

def Knows (world : Ty → Prop) (forge : Forge) : Prop :=
  forge.All fun entry => ∀ property ∈ entry.shape.properties, world property.ty

/-- A forge that is asked for known types supplies known types, and then still knows no others. -/
theorem Knows.generate {world : Ty → Prop} {forge : Forge} (knows : forge.Knows world)
    (held : List Ty) {properties : List Property} (known : ∀ property ∈ properties, world property.ty) :
    (forge.generate held properties).2.Knows world ∧
    (forge.generate held properties).1.Yields fun shape =>
      ∀ property ∈ shape.properties, world property.ty := by
  have outcome : Outcome _ (fun shape => ∀ property ∈ shape.properties, world property.ty) properties
      (forge.generate held properties) :=
    All.generate knows held (fun _ _ _ => known) (fun _ inside _ => inside) (fun _ _ inside => inside)
  refine ⟨outcome.all, ?_⟩
  intro shape supplied
  exact (outcome.shape.yields shape supplied).2

/-- The forges that can be in use: layers around new foundries, after any requests. -/
inductive Reachable : Forge → Prop
  | new (typePrefix : String) : Reachable (plain (Foundry.new typePrefix))
  | withRotation (threshold : Nat) {inner forge : Forge} : Reachable inner →
      Forge.withRotation threshold inner = .ok forge → Reachable forge
  | withCache {inner : Forge} : Reachable inner → Reachable inner.withCache
  | generate {forge : Forge} (held : List Ty) (properties : List Property) : Reachable forge →
      Reachable (forge.generate held properties).2
  | reset {forge : Forge} : Reachable forge → Reachable forge.reset
  | purge {forge : Forge} (held : List Ty) : Reachable forge → Reachable (forge.purge held).2
  | reorder {forge : Forge} (order : VisitOrder) : Reachable forge →
      Reachable (forge.reorder order)

theorem Reachable.matching {forge : Forge} (reached : forge.Reachable) :
    forge.All CacheEntry.Matches := by
  induction reached with
  | new typePrefix => trivial
  | withRotation threshold _ layered ih =>
      rw [Forge.withRotation] at layered
      split at layered
      · simp at layered
      · rw [← Except.ok.inj layered]
        exact ih
  | withCache _ ih => exact ⟨by simp, ih⟩
  | generate held properties _ ih => exact (ih.supplies held properties).all
  | reset _ ih => exact ih.reset
  | purge held _ ih => exact ih.purge held
  | reorder order _ ih => exact ih.reorder order

end Forge

end RowQuery
