import Mathlib.Data.List.Forall2
import RowQuery.Proofs.Ty.World
import RowQuery.Shape.Forge

/-!
Properties as a set. Two lists of properties with distinct names are the same set exactly when they
have the same key, which then is the list sorted by name. A map from names to slots, filled from such
a list, has the names in order and finds the place of each property.
-/

namespace RowQuery

theorem Property.same_refl (property : Property) : property.same property = true := by
  simp [Property.same]

theorem Property.same_symm {a b : Property} (equal : a.same b = true) : b.same a = true := by
  obtain ⟨named, typed⟩ := Bool.and_eq_true_iff.mp equal
  rw [beq_iff_eq] at named
  exact Bool.and_eq_true_iff.mpr ⟨beq_iff_eq.mpr named.symm, Ty.same_symm typed⟩

theorem Property.same_trans {a b c : Property} (first : a.same b = true) (second : b.same c = true) :
    a.same c = true := by
  obtain ⟨firstNamed, firstTyped⟩ := Bool.and_eq_true_iff.mp first
  obtain ⟨secondNamed, secondTyped⟩ := Bool.and_eq_true_iff.mp second
  rw [beq_iff_eq] at firstNamed secondNamed
  exact Bool.and_eq_true_iff.mpr
    ⟨beq_iff_eq.mpr (firstNamed.trans secondNamed), Ty.same_trans firstTyped secondTyped⟩

theorem Property.name_eq {a b : Property} (equal : a.same b = true) : a.name = b.name := by
  obtain ⟨named, _⟩ := Bool.and_eq_true_iff.mp equal
  exact beq_iff_eq.mp named

def SameProperties (a b : List Property) : Prop :=
  (∀ p ∈ a, ∃ q ∈ b, p.same q = true) ∧ ∀ q ∈ b, ∃ p ∈ a, p.same q = true

theorem SameProperties.refl (properties : List Property) : SameProperties properties properties := by
  refine ⟨?_, ?_⟩
  · intro p member
    exact ⟨p, member, p.same_refl⟩
  · intro p member
    exact ⟨p, member, p.same_refl⟩

theorem SameProperties.symm {a b : List Property} (same : SameProperties a b) :
    SameProperties b a := by
  refine ⟨?_, ?_⟩
  · intro q member
    obtain ⟨p, inside, equal⟩ := same.2 q member
    exact ⟨p, inside, Property.same_symm equal⟩
  · intro p member
    obtain ⟨q, inside, equal⟩ := same.1 p member
    exact ⟨q, inside, Property.same_symm equal⟩

theorem SameProperties.trans {a b c : List Property} (first : SameProperties a b)
    (second : SameProperties b c) : SameProperties a c := by
  refine ⟨?_, ?_⟩
  · intro p member
    obtain ⟨q, inside, equal⟩ := first.1 p member
    obtain ⟨r, last, follows⟩ := second.1 q inside
    exact ⟨r, last, Property.same_trans equal follows⟩
  · intro r member
    obtain ⟨q, inside, follows⟩ := second.2 r member
    obtain ⟨p, last, equal⟩ := first.2 q inside
    exact ⟨p, last, Property.same_trans equal follows⟩

theorem SameProperties.of_perm {a b : List Property} (perm : a.Perm b) : SameProperties a b := by
  refine ⟨?_, ?_⟩
  · intro p member
    exact ⟨p, perm.mem_iff.mp member, p.same_refl⟩
  · intro p member
    exact ⟨p, perm.mem_iff.mpr member, p.same_refl⟩

theorem propertyFault?_eq_none {before : List String} {properties : List Property}
    (accepted : propertyFault? before properties = none) :
    (∀ property ∈ properties, property.name ∉ before) ∧ (properties.map (·.name)).Nodup := by
  induction properties generalizing before with
  | nil => simp
  | cons property rest ih =>
      simp only [propertyFault?] at accepted
      split at accepted
      · simp at accepted
      · split at accepted
        · simp at accepted
        · rename_i fresh
          obtain ⟨others, distinct⟩ := ih accepted
          refine ⟨?_, ?_⟩
          · intro other member
            rcases List.mem_cons.mp member with rfl | later
            · simpa using fresh
            · intro used
              exact others other later (List.mem_cons_of_mem _ used)
          · rw [List.map_cons, List.nodup_cons]
            refine ⟨?_, distinct⟩
            intro repeated
            obtain ⟨other, member, sameName⟩ := List.mem_map.mp repeated
            exact others other member (by rw [sameName]; simp)

/-! ### Slots by name -/

/-- Puts the slot of a name in. A name that is in already keeps its place and gets the later slot. -/
def insertSlot (name : String) (slot : Nat) : List (String × Nat) → List (String × Nat)
  | [] => [(name, slot)]
  | (other, held) :: rest =>
    if other == name then (other, slot) :: rest else (other, held) :: insertSlot name slot rest

def slotMap (properties : List Property) : List (String × Nat) :=
  properties.zipIdx.foldl (fun slots placed => insertSlot placed.1.name placed.2 slots) []

theorem insertSlot_fresh {name : String} {slots : List (String × Nat)}
    (fresh : name ∉ slots.map Prod.fst) (slot : Nat) :
    insertSlot name slot slots = slots ++ [(name, slot)] := by
  induction slots with
  | nil => rfl
  | cons held rest ih =>
      rw [List.map_cons, List.mem_cons, not_or] at fresh
      have other : ¬ (held.1 == name) = true := by simpa using Ne.symm fresh.1
      rw [insertSlot, if_neg other, ih fresh.2]
      rfl

theorem foldl_insertSlot {properties : List Property} {slots : List (String × Nat)}
    (fresh : ∀ property ∈ properties, property.name ∉ slots.map Prod.fst)
    (distinct : (properties.map (·.name)).Nodup) (next : Nat) :
    (properties.zipIdx next).foldl (fun slots placed => insertSlot placed.1.name placed.2 slots)
        slots =
      slots ++ (properties.zipIdx next).map fun placed => (placed.1.name, placed.2) := by
  induction properties generalizing slots next with
  | nil => simp
  | cons property rest ih =>
      obtain ⟨first, others⟩ := List.forall_mem_cons.mp fresh
      rw [List.map_cons, List.nodup_cons] at distinct
      have apart : ∀ other ∈ rest,
          other.name ∉ (slots ++ [(property.name, next)]).map Prod.fst := by
        intro other later used
        rw [List.map_append, List.mem_append] at used
        rcases used with earlier | here
        · exact others other later earlier
        · rw [List.map_singleton, List.mem_singleton] at here
          exact distinct.1 (List.mem_map.mpr ⟨other, later, here⟩)
      rw [List.zipIdx_cons, List.foldl_cons, insertSlot_fresh first, ih apart distinct.2,
        List.map_cons, List.append_assoc, List.singleton_append]

theorem lookup_placed (properties : List Property) (name : String) (next : Nat) :
    ((properties.zipIdx next).map fun placed => (placed.1.name, placed.2)).lookup name =
      (properties.findIdx? (·.name == name)).map (· + next) := by
  induction properties generalizing next with
  | nil => rfl
  | cons property rest ih =>
      rw [List.zipIdx_cons, List.map_cons, List.lookup_cons, List.findIdx?_cons, ih]
      by_cases here : property.name = name
      · simp [here]
      · have elsewhere : (name == property.name) = false := by simpa using Ne.symm here
        simp [here, elsewhere, Function.comp_def, Nat.add_comm, Nat.add_left_comm]

/-- Of properties that are accepted, the map from names to slots has the names in the order of the
definition, and finds for each name the place of the property with exactly that name. -/
theorem Shape.slotMap_eq_indexOf {shape : Shape}
    (accepted : propertyFault? [] shape.properties = none) :
    (slotMap shape.properties).map Prod.fst = shape.properties.map (·.name) ∧
      ∀ name, (slotMap shape.properties).lookup name = shape.indexOf? name := by
  have placed : slotMap shape.properties = shape.properties.zipIdx.map fun placed =>
      (placed.1.name, placed.2) :=
    foldl_insertSlot (by simp) (propertyFault?_eq_none accepted).2 0
  rw [placed]
  refine ⟨?_, ?_⟩
  · rw [List.map_map, ← List.zipIdx_map_fst 0 (shape.properties.map _), List.zipIdx_map, List.map_map]
    rfl
  · intro name
    rw [lookup_placed, Shape.indexOf?]
    exact Option.map_id'

/-! ### The order of properties -/

theorem place_perm (property : Property) (sorted : List Property) :
    (sortedByName.place property sorted).Perm (property :: sorted) := by
  induction sorted with
  | nil => exact List.Perm.refl _
  | cons other rest ih =>
      rw [sortedByName.place]
      split
      · exact (List.Perm.cons other ih).trans (List.Perm.swap property other rest)
      · exact List.Perm.refl _

theorem sortedByName_perm (properties : List Property) :
    (sortedByName properties).Perm properties := by
  induction properties with
  | nil => exact List.Perm.refl _
  | cons property rest ih =>
      exact (place_perm property (sortedByName rest)).trans (List.Perm.cons property ih)

def Ascending (properties : List Property) : Prop :=
  properties.Pairwise fun a b => a.name < b.name

theorem Property.precedes_iff {a b : Property} (apart : b.name ≠ a.name) :
    a.precedes b = true ↔ a.name < b.name := by
  simp [precedes, apart.symm]

theorem Ascending.place {sorted : List Property} (ascending : Ascending sorted) {property : Property}
    (fresh : property.name ∉ sorted.map (·.name)) :
    Ascending (sortedByName.place property sorted) := by
  induction sorted with
  | nil => simp [sortedByName.place, Ascending]
  | cons other rest ih =>
      obtain ⟨below, ascendingRest⟩ := List.pairwise_cons.mp ascending
      rw [List.map_cons, List.mem_cons, not_or] at fresh
      rw [sortedByName.place]
      split
      · rename_i precedes
        have smaller := (Property.precedes_iff fresh.1).mp precedes
        refine List.pairwise_cons.mpr ⟨?_, ih ascendingRest fresh.2⟩
        intro later member
        rcases List.mem_cons.mp ((place_perm property rest).mem_iff.mp member) with rfl | inside
        · exact smaller
        · exact below later inside
      · rename_i notSmaller
        have first : property.name < other.name := by
          rw [Property.precedes_iff fresh.1, String.not_lt] at notSmaller
          rcases String.le_total property.name other.name with le | ge
          · by_cases lt : property.name < other.name
            · exact lt
            · exact absurd (String.le_antisymm le (String.not_lt.mp lt)) fresh.1
          · exact absurd (String.le_antisymm notSmaller ge) fresh.1
        refine List.pairwise_cons.mpr ⟨?_, ascending⟩
        intro later member
        rcases List.mem_cons.mp member with rfl | inside
        · exact first
        · exact String.lt_trans first (below later inside)

theorem sortedByName_ascending {properties : List Property}
    (distinct : (properties.map (·.name)).Nodup) : Ascending (sortedByName properties) := by
  induction properties with
  | nil => exact List.Pairwise.nil
  | cons property rest ih =>
      rw [List.map_cons, List.nodup_cons] at distinct
      apply (ih distinct.2).place
      intro used
      exact distinct.1 (((sortedByName_perm rest).map (·.name)).mem_iff.mp used)

theorem after_eq {last : Property} {properties : List Property}
    (ascending : Ascending (last :: properties)) :
    withoutRepeats.after last properties = properties := by
  induction properties generalizing last with
  | nil => rfl
  | cons property rest ih =>
      obtain ⟨below, ascendingRest⟩ := List.pairwise_cons.mp ascending
      have differs : ¬last.same property = true := by
        intro equal
        have smaller := below property List.mem_cons_self
        rw [Property.name_eq equal] at smaller
        exact String.lt_irrefl _ smaller
      rw [withoutRepeats.after, if_neg differs, ih ascendingRest]

/-- Properties with distinct names have no repeats, and their names alone put them in order. -/
theorem cacheKey_eq {properties : List Property} (distinct : (properties.map (·.name)).Nodup) :
    cacheKey properties = sortedByName properties := by
  have ascending := sortedByName_ascending distinct
  rw [cacheKey]
  cases sorted : sortedByName properties with
  | nil => rfl
  | cons property rest =>
      rw [sorted] at ascending
      rw [withoutRepeats, after_eq ascending]

/-- Two lists in the order of their names can only be the same set head by head: a head that stood
further inside the other list would have a smaller name there before it. -/
theorem SameProperties.pointwise {a b : List Property} (same : SameProperties a b)
    (ascendingA : Ascending a) (ascendingB : Ascending b) :
    List.Forall₂ (fun p q => p.same q = true) a b := by
  induction a generalizing b with
  | nil =>
      cases b with
      | nil => exact .nil
      | cons q b =>
          obtain ⟨p, inside, _⟩ := same.2 q (by simp)
          simp at inside
  | cons p a ih =>
      cases b with
      | nil =>
          obtain ⟨q, inside, _⟩ := same.1 p (by simp)
          simp at inside
      | cons q b =>
          obtain ⟨belowA, restA⟩ := List.pairwise_cons.mp ascendingA
          obtain ⟨belowB, restB⟩ := List.pairwise_cons.mp ascendingB
          have heads : p.same q = true := by
            obtain ⟨q', insideB, equalP⟩ := same.1 p (by simp)
            obtain ⟨p', insideA, equalQ⟩ := same.2 q (by simp)
            rcases List.mem_cons.mp insideB with rfl | laterB
            · exact equalP
            · rcases List.mem_cons.mp insideA with rfl | laterA
              · exact equalQ
              · have before := belowB q' laterB
                have after := belowA p' laterA
                rw [Property.name_eq equalQ, Property.name_eq equalP] at after
                exact absurd after (String.lt_asymm before)
          have named := Property.name_eq heads
          refine .cons heads (ih ⟨?_, ?_⟩ restA restB)
          · intro r member
            obtain ⟨s, inside, equal⟩ := same.1 r (List.mem_cons_of_mem _ member)
            rcases List.mem_cons.mp inside with rfl | later
            · have before := belowA r member
              rw [named, Property.name_eq equal] at before
              exact absurd before (String.lt_irrefl _)
            · exact ⟨s, later, equal⟩
          · intro s member
            obtain ⟨r, inside, equal⟩ := same.2 s (List.mem_cons_of_mem _ member)
            rcases List.mem_cons.mp inside with rfl | later
            · have before := belowB s member
              rw [← named, Property.name_eq equal] at before
              exact absurd before (String.lt_irrefl _)
            · exact ⟨r, later, equal⟩

theorem SameProperties.of_pointwise {a b : List Property}
    (pointwise : List.Forall₂ (fun p q => p.same q = true) a b) : SameProperties a b := by
  induction pointwise with
  | nil => exact .refl []
  | @cons p q a b equal _ ih =>
      refine ⟨?_, ?_⟩
      · intro r member
        rcases List.mem_cons.mp member with rfl | later
        · exact ⟨q, by simp, equal⟩
        · obtain ⟨s, inside, follows⟩ := ih.1 r later
          exact ⟨s, List.mem_cons_of_mem _ inside, follows⟩
      · intro s member
        rcases List.mem_cons.mp member with rfl | later
        · exact ⟨p, by simp, equal⟩
        · obtain ⟨r, inside, follows⟩ := ih.2 s later
          exact ⟨r, List.mem_cons_of_mem _ inside, follows⟩

theorem CacheEntry.isFor_eq_true {entry : CacheEntry} {key : List Property} :
    entry.isFor key = true ↔ List.Forall₂ (fun p q => p.same q = true) entry.key key := by
  rw [List.forall₂_iff_zip, CacheEntry.isFor, Bool.and_eq_true, beq_iff_eq, List.all_eq_true]
  refine and_congr_right fun _ => ⟨?_, ?_⟩
  · intro all p q member
    exact all (p, q) member
  · intro all pair member
    exact all member

theorem SameProperties.cons (property : Property) {a b : List Property}
    (same : SameProperties a b) : SameProperties (property :: a) (property :: b) := by
  refine ⟨?_, ?_⟩
  · intro p member
    rcases List.mem_cons.mp member with rfl | later
    · exact ⟨p, List.mem_cons_self, p.same_refl⟩
    · obtain ⟨q, inside, equal⟩ := same.1 p later
      exact ⟨q, List.mem_cons_of_mem _ inside, equal⟩
  · intro q member
    rcases List.mem_cons.mp member with rfl | later
    · exact ⟨q, List.mem_cons_self, q.same_refl⟩
    · obtain ⟨p, inside, equal⟩ := same.2 q later
      exact ⟨p, List.mem_cons_of_mem _ inside, equal⟩

/-- A property that repeats the one before it adds nothing to a set. -/
theorem SameProperties.repeated {last property : Property} (equal : last.same property = true)
    (rest : List Property) : SameProperties (last :: rest) (last :: property :: rest) := by
  refine ⟨?_, ?_⟩
  · intro p member
    rcases List.mem_cons.mp member with rfl | later
    · exact ⟨p, List.mem_cons_self, p.same_refl⟩
    · exact ⟨p, List.mem_cons_of_mem _ (List.mem_cons_of_mem _ later), p.same_refl⟩
  · intro q member
    rcases List.mem_cons.mp member with rfl | inside
    · exact ⟨q, List.mem_cons_self, q.same_refl⟩
    · rcases List.mem_cons.mp inside with rfl | later
      · exact ⟨last, List.mem_cons_self, equal⟩
      · exact ⟨q, List.mem_cons_of_mem _ later, q.same_refl⟩

theorem same_after (last : Property) (properties : List Property) :
    SameProperties (last :: withoutRepeats.after last properties) (last :: properties) := by
  induction properties generalizing last with
  | nil => exact .refl _
  | cons property rest ih =>
      rw [withoutRepeats.after]
      split
      · rename_i equal
        exact (ih last).trans (.repeated equal rest)
      · exact (ih property).cons last

theorem same_cacheKey (properties : List Property) :
    SameProperties (cacheKey properties) properties := by
  refine .trans ?_ (.of_perm (sortedByName_perm properties))
  rw [cacheKey]
  cases sortedByName properties with
  | nil => exact .refl _
  | cons property rest => exact same_after property rest

/-- An entry made for some properties is found for exactly the lists with the same properties. -/
theorem CacheEntry.isFor_cacheKey {entry : CacheEntry} {made asked : List Property}
    (keyed : entry.key = cacheKey made) (madeValid : propertyFault? [] made = none)
    (askedValid : propertyFault? [] asked = none) :
    entry.isFor (cacheKey asked) = true ↔ SameProperties made asked := by
  have ascending {properties : List Property} (valid : propertyFault? [] properties = none) :
      Ascending (cacheKey properties) := by
    have distinct := (propertyFault?_eq_none valid).2
    rw [cacheKey_eq distinct]
    exact sortedByName_ascending distinct
  rw [isFor_eq_true, keyed]
  constructor
  · intro pointwise
    exact ((same_cacheKey made).symm.trans (.of_pointwise pointwise)).trans (same_cacheKey asked)
  · intro same
    exact (((same_cacheKey made).trans same).trans (same_cacheKey asked).symm).pointwise
      (ascending madeValid) (ascending askedValid)

end RowQuery
