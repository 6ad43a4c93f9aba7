import RowQuery.Overload.Catalog

/-!
What a catalog holds after definitions were added to it, and that no two overloads of a method have
the same parameter types, whatever was added and taken away.
-/

namespace RowQuery

def Definition.numbered (definition : Definition) (id : Nat) : Overload :=
  ⟨id, definition.method, definition.parameters, definition.build id⟩

namespace Catalog

def Defines (definitions : List Definition) (name : String) (overload : Overload) : Prop :=
  ∃ definition ∈ definitions, ∃ id,
    key definition.method = name ∧ overload = definition.numbered id

def DrawnFrom (definitions : List Definition) (methods : List (String × List Overload)) : Prop :=
  ∀ name overloads, (name, overloads) ∈ methods →
    ∀ overload ∈ overloads, Defines definitions name overload

/-- What holds of the overloads of every method still holds after those of one method were changed. -/
theorem forall_update {holds : String → List Overload → Prop} {name : String}
    {change : List Overload → List Overload} {methods : List (String × List Overload)}
    (known : ∀ other overloads, (other, overloads) ∈ methods → holds other overloads)
    (first : holds name (change []))
    (changed : ∀ overloads, holds name overloads → holds name (change overloads)) :
    ∀ other overloads, (other, overloads) ∈ Catalog.update name change methods →
      holds other overloads := by
  induction methods with
  | nil =>
      intro other overloads listed
      rw [Catalog.update] at listed
      split at listed
      · simp at listed
      · obtain ⟨rfl, rfl⟩ := Prod.mk.inj (List.mem_singleton.mp listed)
        exact first
  | cons entry methods ih =>
      obtain ⟨present, stored⟩ := entry
      have later := fun other overloads inside =>
        known other overloads (List.mem_cons_of_mem (present, stored) inside)
      intro other overloads listed
      rw [Catalog.update] at listed
      split at listed
      · rename_i same
        rw [beq_iff_eq] at same
        subst same
        split at listed
        · exact later other overloads listed
        · rcases List.mem_cons.mp listed with here | rest
          · obtain ⟨rfl, rfl⟩ := Prod.mk.inj here
            exact changed stored (known _ stored List.mem_cons_self)
          · exact later other overloads rest
      · rcases List.mem_cons.mp listed with here | rest
        · obtain ⟨rfl, rfl⟩ := Prod.mk.inj here
          exact known _ _ List.mem_cons_self
        · exact ih later other overloads rest

theorem DrawnFrom.update {definitions : List Definition} {name : String}
    {change : List Overload → List Overload} {methods : List (String × List Overload)}
    (drawn : DrawnFrom definitions methods)
    (changed : ∀ overloads, (∀ overload ∈ overloads, Defines definitions name overload) →
      ∀ overload ∈ change overloads, Defines definitions name overload) :
    DrawnFrom definitions (Catalog.update name change methods) :=
  forall_update drawn (changed [] (by simp)) changed

theorem DrawnFrom.add {definitions : List Definition} {catalog : Catalog}
    (drawn : DrawnFrom definitions catalog.methods) {definition : Definition}
    (member : definition ∈ definitions) :
    DrawnFrom definitions (catalog.add definition).1.methods := by
  apply drawn.update
  intro overloads known overload listed
  rcases List.mem_append.mp listed with older | newest
  · exact known overload (List.mem_filter.mp older).1
  · exact ⟨definition, member, catalog.issued, rfl, List.mem_singleton.mp newest⟩

theorem DrawnFrom.addAll {definitions added : List Definition} {catalog : Catalog}
    (drawn : DrawnFrom definitions catalog.methods) (members : ∀ d ∈ added, d ∈ definitions) :
    DrawnFrom definitions (catalog.addAll added).methods := by
  induction added generalizing catalog with
  | nil => exact drawn
  | cons definition added ih =>
      exact ih (drawn.add (members definition (by simp))) fun d inside => members d (by simp [inside])

theorem lookup_of_forall {holds : String → List Overload → Prop} {catalog : Catalog}
    (known : ∀ name overloads, (name, overloads) ∈ catalog.methods → holds name overloads)
    (method : String) (absent : holds (key method) []) :
    holds (key method) (catalog.lookup method) := by
  unfold lookup
  split
  · rename_i name overloads found
    have sameName := List.find?_some found
    rw [beq_iff_eq] at sameName
    rw [← sameName]
    exact known name overloads (List.mem_of_find?_eq_some found)
  · exact absent

/-- The overloads of a method in a catalog that was made from definitions. -/
theorem mem_lookup {definitions : List Definition} {method : String} {overload : Overload}
    (listed : overload ∈ (empty.addAll definitions).lookup method) :
    Defines definitions (key method) overload := by
  have drawn : DrawnFrom definitions (empty.addAll definitions).methods :=
    DrawnFrom.addAll (by simp [DrawnFrom, empty]) fun _ member => member
  exact lookup_of_forall drawn method (by simp) overload listed

def overloadsOf (methods : List (String × List Overload)) (name : String) : List Overload :=
  match methods.find? (·.1 == name) with
  | some (_, overloads) => overloads
  | none => []

theorem lookup_eq_overloadsOf (catalog : Catalog) (method : String) :
    catalog.lookup method = overloadsOf catalog.methods (key method) := rfl

theorem name_ne_of_not_mem {methods : List (String × List Overload)} {name : String}
    (absent : name ∉ methods.map (·.1)) {entry : String × List Overload} (listed : entry ∈ methods) :
    ¬ entry.1 = name := by
  rintro rfl
  exact absent (List.mem_map_of_mem listed)

theorem overloadsOf_of_not_mem {methods : List (String × List Overload)} {name : String}
    (absent : name ∉ methods.map (·.1)) : overloadsOf methods name = [] := by
  have missing : methods.find? (·.1 == name) = none := by
    rw [List.find?_eq_none]
    intro entry listed same
    exact name_ne_of_not_mem absent listed (beq_iff_eq.mp same)
  rw [overloadsOf, missing]

/-- A change that can leave a method without overloads needs names that stand for one method each:
another entry of the name would come to light. -/
theorem overloadsOf_update {name : String} {change : List Overload → List Overload}
    (methods : List (String × List Overload))
    (single : (∃ overloads, change overloads = []) → (methods.map (·.1)).Nodup) (other : String) :
    overloadsOf (update name change methods) other =
      if name = other then change (overloadsOf methods other) else overloadsOf methods other := by
  induction methods with
  | nil =>
      rw [update]
      split
      · rename_i emptied
        by_cases same : name = other <;> simp [overloadsOf, same, emptied]
      · by_cases same : name = other <;> simp [overloadsOf, same]
  | cons entry methods ih =>
      obtain ⟨present, overloads⟩ := entry
      rw [update]
      by_cases found : present = name
      · subst found
        rw [if_pos (beq_self_eq_true present)]
        split
        · rename_i emptied
          have absent := (List.nodup_cons.mp (single ⟨overloads, emptied⟩)).1
          by_cases same : present = other
          · subst same
            rw [overloadsOf_of_not_mem absent]
            simp [overloadsOf, emptied]
          · simp [overloadsOf, same]
        · by_cases same : present = other <;> simp [overloadsOf, same]
      · rw [if_neg (by simpa using found)]
        by_cases here : present = other
        · have apart : ¬ name = other := fun same => found (here.trans same.symm)
          simp [overloadsOf, here, apart]
        · have later := ih fun emptied => (List.nodup_cons.mp (single emptied)).2
          simpa [overloadsOf, here] using later

theorem lookup_add_eq (catalog : Catalog) (definition : Definition) (method : String) :
    (catalog.add definition).1.lookup method =
      if key definition.method = key method then
        (catalog.lookup method).filter (·.parameters != definition.parameters) ++
          [definition.numbered catalog.issued]
      else catalog.lookup method :=
  overloadsOf_update catalog.methods (by simp) (key method)

/-- A definition whose parameter types are new comes after the overloads that its method has. -/
theorem lookup_add (catalog : Catalog) {definition : Definition}
    (fresh : ∀ overload ∈ catalog.lookup definition.method,
      (overload.parameters == definition.parameters) = false) (method : String) :
    (catalog.add definition).1.lookup method =
      if key definition.method = key method then
        catalog.lookup method ++ [definition.numbered catalog.issued]
      else catalog.lookup method := by
  rw [lookup_add_eq]
  split
  · rename_i same
    have found : catalog.lookup definition.method = catalog.lookup method := by
      rw [lookup, lookup, same]
    rw [found] at fresh
    have kept : (catalog.lookup method).filter (·.parameters != definition.parameters) =
        catalog.lookup method := by
      rw [List.filter_eq_self]
      intro overload listed
      simpa [bne] using fresh overload listed
    rw [kept]
  · rfl

theorem mem_lookup_addAll {catalog : Catalog} {method : String} {overload : Overload}
    (listed : overload ∈ catalog.lookup method) {later : List Definition}
    (apart : ∀ definition ∈ later, (overload.parameters == definition.parameters &&
      key method == key definition.method) = false) :
    overload ∈ (catalog.addAll later).lookup method := by
  induction later generalizing catalog with
  | nil => exact listed
  | cons definition later ih =>
      refine ih ?_ fun other inside => apart other (List.mem_cons_of_mem definition inside)
      have different := apart definition List.mem_cons_self
      rw [lookup_add_eq]
      split
      · rename_i same
        refine List.mem_append_left _ (List.mem_filter.mpr ⟨listed, ?_⟩)
        simpa [same, bne] using different
      · exact listed

/-- Definitions of which none takes the place of another are all in the catalog. -/
theorem mem_lookup_of_apart (catalog : Catalog) {definitions : List Definition}
    (apart : definitions.Pairwise fun a b => (a.parameters == b.parameters &&
      key a.method == key b.method) = false)
    {definition : Definition} (member : definition ∈ definitions) :
    ∃ id, definition.numbered id ∈ (catalog.addAll definitions).lookup definition.method := by
  induction definitions generalizing catalog with
  | nil => simp at member
  | cons first later ih =>
      obtain ⟨different, apart⟩ := List.pairwise_cons.mp apart
      rcases List.mem_cons.mp member with rfl | inside
      · have added : definition.numbered catalog.issued ∈
            (catalog.add definition).1.lookup definition.method := by
          simp [lookup_add_eq]
        exact ⟨catalog.issued, mem_lookup_addAll added different⟩
      · exact ih (catalog.add first).1 apart inside

/-! ### Catalogs in use -/

inductive Reachable : Catalog → Prop
  | empty : Reachable .empty
  | add {catalog : Catalog} (definition : Definition) : Reachable catalog →
      Reachable (catalog.add definition).1
  | remove {catalog : Catalog} (overload : Overload) : Reachable catalog →
      Reachable (catalog.remove overload).1
  | undefine {catalog : Catalog} (method : String) : Reachable catalog →
      Reachable (catalog.undefine method).1
  | undefineSignature {catalog : Catalog} (method : String) (parameters : List Ty) :
      Reachable catalog → Reachable (catalog.undefineSignature method parameters).1

theorem Reachable.addAll {catalog : Catalog} (reached : Reachable catalog)
    (definitions : List Definition) : Reachable (catalog.addAll definitions) := by
  induction definitions generalizing catalog with
  | nil => exact reached
  | cons definition definitions ih => exact ih (reached.add definition)

def Unambiguous (overloads : List Overload) : Prop :=
  overloads.Pairwise fun a b => (a.parameters == b.parameters) = false

theorem Unambiguous.add {overloads : List Overload} (known : Unambiguous overloads)
    (overload : Overload) :
    Unambiguous (overloads.filter (·.parameters != overload.parameters) ++ [overload]) := by
  refine List.pairwise_append.mpr ⟨known.filter _, List.pairwise_singleton _ _, ?_⟩
  intro other kept newest isNewest
  rw [List.mem_singleton.mp isNewest]
  simpa [bne] using (List.mem_filter.mp kept).2

theorem Unambiguous.discard {catalog : Catalog}
    (known : ∀ name overloads, (name, overloads) ∈ catalog.methods → Unambiguous overloads)
    (method : String) (unwanted : Overload → Bool) :
    ∀ name overloads, (name, overloads) ∈ (catalog.discard method unwanted).1.methods →
      Unambiguous overloads := by
  refine forall_update known List.Pairwise.nil ?_
  intro overloads before
  exact List.Pairwise.filter _ before

theorem Reachable.unambiguous {catalog : Catalog} (reached : Reachable catalog) :
    ∀ name overloads, (name, overloads) ∈ catalog.methods → Unambiguous overloads := by
  induction reached with
  | empty => simp [Catalog.empty]
  | add definition _ ih =>
      refine forall_update ih (Unambiguous.add List.Pairwise.nil _) ?_
      intro overloads known
      exact known.add _
  | remove overload _ ih => exact Unambiguous.discard ih _ _
  | undefine method _ ih => exact Unambiguous.discard ih _ _
  | undefineSignature method parameters _ ih => exact Unambiguous.discard ih _ _

theorem Reachable.unambiguous_lookup {catalog : Catalog} (reached : Reachable catalog)
    (method : String) : Unambiguous (catalog.lookup method) :=
  lookup_of_forall reached.unambiguous method List.Pairwise.nil

end Catalog

end RowQuery
