import RowQuery.Shape.Forge

/-!
The entries that a sweep leaves. An entry that is dropped can be what kept the shapes in its key alive,
so that the order of the visits decides what else is dropped. In no order is an entry dropped whose
shape is alive after the sweep. A cache has its entries in no certain order.
-/

namespace RowQuery

namespace CacheEntry

variable {held : List Ty} {entries : List CacheEntry} {epoch id : Nat}

theorem mem_live : id ∈ live held entries ↔
    (∃ ty ∈ held, id ∈ ty.shapes) ∨ ∃ entry ∈ entries, id ∈ propertyShapes entry.key := by
  simp [live]

theorem live_mono {fewer : List Ty} {kept : List CacheEntry} (types : fewer ⊆ held)
    (inside : kept ⊆ entries) (living : id ∈ live fewer kept) : id ∈ live held entries := by
  rcases mem_live.mp living with ⟨ty, listed, mentioned⟩ | ⟨entry, listed, mentioned⟩
  · exact mem_live.mpr (.inl ⟨ty, types listed, mentioned⟩)
  · exact mem_live.mpr (.inr ⟨entry, inside listed, mentioned⟩)

theorem isCurrent_eq_true {alive : List Nat} {entry : CacheEntry} :
    entry.isCurrent epoch alive = true ↔ entry.epoch = epoch ∧ entry.shape.id ∈ alive := by
  simp [isCurrent]

theorem sweep_sublist (held : List Ty) (epoch : Nat) (kept rest : List CacheEntry) :
    (sweep held epoch kept rest).Sublist (kept ++ rest) := by
  induction rest generalizing kept with
  | nil => simp [sweep]
  | cons entry rest ih =>
      rw [sweep]
      split
      · rw [List.append_cons kept entry rest]
        exact ih (kept ++ [entry])
      · exact (ih kept).trans ((List.sublist_cons_self entry rest).append_left kept)

theorem mem_of_mem_sweep {entry : CacheEntry} (left : entry ∈ sweep held epoch [] entries) :
    entry ∈ entries :=
  (sweep_sublist held epoch [] entries).subset left

/-- What is alive after the whole sweep was alive at each visit. -/
theorem mem_sweep_of_live {kept rest : List CacheEntry} {entry : CacheEntry}
    (listed : entry ∈ kept ++ rest) (now : entry.epoch = epoch)
    (living : entry.shape.id ∈ live held (sweep held epoch kept rest)) :
    entry ∈ sweep held epoch kept rest := by
  induction rest generalizing kept with
  | nil =>
      rw [List.append_nil] at listed
      exact listed
  | cons visited rest ih =>
      rw [sweep] at living ⊢
      split
      · rename_i current
        rw [if_pos current] at living
        rw [List.append_cons] at listed
        exact ih listed living
      · rename_i dropped
        rw [if_neg dropped] at living
        have fewer : sweep held epoch kept rest ⊆ kept ++ visited :: rest :=
          ((sweep_sublist held epoch kept rest).trans
            ((List.sublist_cons_self visited rest).append_left kept)).subset
        have other : entry ≠ visited := by
          rintro rfl
          exact dropped (isCurrent_eq_true.mpr ⟨now, live_mono (List.Subset.refl _) fewer living⟩)
        refine ih ?_ living
        simpa [other] using listed

end CacheEntry

/-! ### The order of the visits -/

structure VisitOrder where
  arrange : List CacheEntry → List CacheEntry
  perm (entries : List CacheEntry) : (arrange entries).Perm entries

namespace Forge

def reorder (order : VisitOrder) : Forge → Forge
  | plain foundry => plain foundry
  | rotating threshold count inner => rotating threshold count (reorder order inner)
  | caching entries inner => caching (order.arrange entries) (reorder order inner)

theorem foundry_reorder (order : VisitOrder) (forge : Forge) :
    (forge.reorder order).foundry = forge.foundry := by
  induction forge with
  | plain foundry => rfl
  | rotating threshold count inner ih => exact ih
  | caching entries inner ih => exact ih

end Forge

end RowQuery
