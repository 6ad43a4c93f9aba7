import Mathlib.Data.List.Perm.Basic
import RowQuery.Proofs.Outcome
import RowQuery.Proofs.Value.Order
import RowQuery.Query.Compiled

/-!
Rows are sorted by the lexicographic order of their keys, and rows that no key tells apart keep their
order.
-/

namespace RowQuery

open scoped List

namespace CompiledQuery

variable {α : Type} {less : α → α → Bool} {among : α → Prop}

theorem insertRow_perm (less : α → α → Bool) (row : α) (sorted : List α) :
    (insertRow less row sorted).Perm (row :: sorted) := by
  induction sorted with
  | nil => exact .refl _
  | cons last rest ih =>
      unfold insertRow
      split
      · exact (ih.cons last).trans (.swap row last rest)
      · exact .refl _

-- the list being built is in reverse: no row is before the ones behind it
theorem insertRow_sorted (order : WeakOrder among fun a b => less a b = true) {row : α}
    (inside : among row) {sorted : List α} (insideAll : ∀ other ∈ sorted, among other)
    (pairwise : sorted.Pairwise fun later earlier => ¬less later earlier = true) :
    (insertRow less row sorted).Pairwise fun later earlier => ¬less later earlier = true := by
  induction sorted with
  | nil => simp [insertRow]
  | cons last rest ih =>
      obtain ⟨insideLast, insideRest⟩ := List.forall_mem_cons.mp insideAll
      obtain ⟨behind, pairwiseRest⟩ := List.pairwise_cons.mp pairwise
      unfold insertRow
      split
      case isTrue before =>
        refine List.pairwise_cons.mpr ⟨?_, ih insideRest pairwiseRest⟩
        intro other member
        rcases List.mem_cons.mp ((insertRow_perm less row rest).mem_iff.mp member) with rfl | member
        · exact order.asymm _ _ inside insideLast before
        · exact behind other member
      case isFalse notBefore =>
        refine List.pairwise_cons.mpr ⟨?_, pairwise⟩
        intro other member before
        rcases List.mem_cons.mp member with rfl | member
        · exact notBefore before
        · rcases order.between row last other inside insideLast (insideRest other member) before with
            first | second
          · exact notBefore first
          · exact behind other member second

/-- Among rows none of which is before another, a new row stays in front of the earlier ones. -/
theorem filter_insertRow {row : α} {sorted : List α} {kept : α → Bool}
    (tied : kept row = true → ∀ other ∈ sorted, kept other = true → less row other = false) :
    (insertRow less row sorted).filter kept = (row :: sorted).filter kept := by
  induction sorted with
  | nil => rfl
  | cons last rest ih =>
      unfold insertRow
      split
      case isTrue before =>
        have passed : ¬(kept row = true ∧ kept last = true) := by
          rintro ⟨keptRow, keptLast⟩
          simp [tied keptRow last (by simp) keptLast] at before
        have inserted := ih fun keptRow other member => tied keptRow other (by simp [member])
        by_cases keptRow : kept row = true <;> simp_all [List.filter_cons]
      case isFalse => rfl

theorem sortRows_concat (less : α → α → Bool) (rows : List α) (row : α) :
    sortRows less (rows ++ [row]) = (insertRow less row (sortRows less rows).reverse).reverse := by
  simp [sortRows]

theorem sortRows_perm (less : α → α → Bool) (rows : List α) : (sortRows less rows).Perm rows := by
  induction rows using List.reverseRecOn with
  | nil => exact .refl _
  | append_singleton rows row ih =>
      rw [sortRows_concat]
      calc (insertRow less row (sortRows less rows).reverse).reverse
        _ ~ insertRow less row (sortRows less rows).reverse := List.reverse_perm _
        _ ~ row :: (sortRows less rows).reverse := insertRow_perm less row _
        _ ~ row :: rows := ((List.reverse_perm _).trans ih).cons row
        _ ~ rows ++ [row] := (List.perm_append_singleton row rows).symm

theorem sortRows_sorted (order : WeakOrder among fun a b => less a b = true) {rows : List α}
    (inside : ∀ row ∈ rows, among row) :
    (sortRows less rows).Pairwise fun earlier later => ¬less later earlier = true := by
  induction rows using List.reverseRecOn with
  | nil => exact .nil
  | append_singleton rows row ih =>
      have insideSorted : ∀ other ∈ (sortRows less rows).reverse, among other := by
        intro other member
        rw [List.mem_reverse, (sortRows_perm less rows).mem_iff] at member
        exact inside other (List.mem_append_left _ member)
      rw [sortRows_concat, List.pairwise_reverse]
      refine insertRow_sorted order (inside row (by simp)) insideSorted ?_
      rw [List.pairwise_reverse]
      exact ih fun other member => inside other (List.mem_append_left _ member)

theorem filter_sortRows {rows : List α} {kept : α → Bool}
    (tied : ∀ a ∈ rows, ∀ b ∈ rows, kept a = true → kept b = true → less a b = false) :
    (sortRows less rows).filter kept = rows.filter kept := by
  induction rows using List.reverseRecOn with
  | nil => rfl
  | append_singleton rows row ih =>
      have earlier : (sortRows less rows).filter kept = rows.filter kept := by
        apply ih
        intro a memberA b memberB
        exact tied a (List.mem_append_left _ memberA) b (List.mem_append_left _ memberB)
      have inserted : (insertRow less row (sortRows less rows).reverse).filter kept =
          (row :: (sortRows less rows).reverse).filter kept := by
        apply filter_insertRow
        intro keptRow other member
        rw [List.mem_reverse, (sortRows_perm less rows).mem_iff] at member
        exact tied row (by simp) other (List.mem_append_left _ member) keptRow
      rw [sortRows_concat, List.filter_reverse, inserted, ← List.filter_reverse]
      simp [earlier]

end CompiledQuery

def CompiledKey.Before (host : Host) (key : CompiledKey) (a b : Value) : Prop :=
  ∃ x y, key.expr.evaluate host a = .ok x ∧ key.expr.evaluate host b = .ok y ∧
    if key.ascending then x.Below y else y.Below x

/-- On the rows `among`, a key has values of one sort or null. -/
def CompiledKey.Uniform (host : Host) (among : Value → Prop) (key : CompiledKey) : Prop :=
  ∃ sort : KeySort, ∀ row, among row →
    ∃ value, key.expr.evaluate host row = .ok value ∧ sort.Admits value

def Precedes (host : Host) : List CompiledKey → Value → Value → Prop
  | [], _, _ => False
  | key :: keys, a, b => key.Before host a b ∨
      ¬key.Before host a b ∧ ¬key.Before host b a ∧ Precedes host keys a b

variable {host : Host} {among : Value → Prop}

theorem CompiledKey.before_iff {key : CompiledKey} {a b x y : Value}
    (valueA : key.expr.evaluate host a = .ok x) (valueB : key.expr.evaluate host b = .ok y) :
    key.Before host a b ↔ if key.ascending then x.Below y else y.Below x := by
  simp [Before, valueA, valueB]

theorem CompiledKey.before_weakOrder {key : CompiledKey} (uniform : key.Uniform host among) :
    WeakOrder among (key.Before host) := by
  obtain ⟨sort, values⟩ := uniform
  have directed : WeakOrder sort.Admits fun x y =>
      if key.ascending then x.Below y else y.Below x := by
    cases key.ascending with
    | true => simpa using sort.below_weakOrder
    | false => simpa using sort.below_weakOrder.flip
  exact directed.pull (fun row value => key.expr.evaluate host row = .ok value) values
    fun a b x y => before_iff

theorem precedes_weakOrder {keys : List CompiledKey}
    (uniform : ∀ key ∈ keys, key.Uniform host among) : WeakOrder among (Precedes host keys) := by
  induction keys with
  | nil => exact ⟨fun _ _ _ _ impossible => impossible.elim, fun _ _ _ _ _ _ => .inl⟩
  | cons key keys ih =>
      obtain ⟨first, others⟩ := List.forall_mem_cons.mp uniform
      exact (CompiledKey.before_weakOrder first).lex (ih others)

theorem evaluateAll_cons_eq_ok {row : Value} {expr : Expr} {rest : List Expr} {values : List Value} :
    Expr.evaluateAll host row (expr :: rest) = .ok values ↔ ∃ value others,
      expr.evaluate host row = .ok value ∧ Expr.evaluateAll host row rest = .ok others ∧
        values = value :: others := by
  rw [Expr.evaluateAll]
  simp only [Result.bind_eq_ok, Result.pure_eq_ok]
  grind

/-- By one key, rows are in the order of its values on them. -/
theorem CompiledKey.before_order {key : CompiledKey} (uniform : key.Uniform host among)
    {a b x y : Value} (inA : among a) (inB : among b) (valueA : key.expr.evaluate host a = .ok x)
    (valueB : key.expr.evaluate host b = .ok y) :
    ((if key.ascending then x.sortOrder y else (x.sortOrder y).swap) = .lt ↔ key.Before host a b) ∧
      ((if key.ascending then x.sortOrder y else (x.sortOrder y).swap) = .gt ↔
        key.Before host b a) := by
  obtain ⟨sort, values⟩ := uniform
  have admits : ∀ {row value}, among row → key.expr.evaluate host row = .ok value →
      sort.Admits value := by
    intro row value inside evaluated
    obtain ⟨found, same, admits⟩ := values row inside
    rwa [← Except.ok.inj (same.symm.trans evaluated)]
  have lower := KeySort.sortOrder_lt (admits inA valueA) (admits inB valueB)
  have upper := KeySort.sortOrder_gt (admits inA valueA) (admits inB valueB)
  rw [before_iff valueA valueB, before_iff valueB valueA]
  cases key.ascending with
  | true => exact ⟨lower, upper⟩
  | false => simpa using ⟨upper, lower⟩

/-- Comparing the keys of two rows tells whether one precedes the other. -/
theorem CompiledQuery.compareKeys_lt {keys : List CompiledKey}
    (uniform : ∀ key ∈ keys, key.Uniform host among) {a b : Value} (inA : among a) (inB : among b)
    {as bs : List Value} (valuesA : Expr.evaluateAll host a (keys.map (·.expr)) = .ok as)
    (valuesB : Expr.evaluateAll host b (keys.map (·.expr)) = .ok bs) :
    compareKeys keys as bs = .lt ↔ Precedes host keys a b := by
  induction keys generalizing as bs with
  | nil => simp [compareKeys, Precedes]
  | cons key keys ih =>
      obtain ⟨first, others⟩ := List.forall_mem_cons.mp uniform
      obtain ⟨x, xs, valueA, restA, rfl⟩ := evaluateAll_cons_eq_ok.mp valuesA
      obtain ⟨y, ys, valueB, restB, rfl⟩ := evaluateAll_cons_eq_ok.mp valuesB
      obtain ⟨lower, upper⟩ := CompiledKey.before_order first inA inB valueA valueB
      rw [Precedes, ← lower, ← upper, ← ih others restA restB, compareKeys, Ordering.then_eq_lt]
      cases (if key.ascending then x.sortOrder y else (x.sortOrder y).swap) <;> simp

end RowQuery
