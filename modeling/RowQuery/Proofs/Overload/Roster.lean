import RowQuery.Proofs.Overload.Catalog
import RowQuery.Proofs.Ty.World

/-!
A catalog as one list of overloads, oldest first. The catalog keeps a list for each method and drops
the lists that become empty. From outside it is the one list, whatever is defined and taken away.
-/

namespace RowQuery

namespace Catalog

inductive Change where
  | add (definition : Definition)
  | remove (overload : Overload)
  | undefine (method : String)
  | undefineSignature (method : String) (parameters : List Ty)

inductive Answer where
  | added (overload : Overload)
  | removed (found : Bool)
  | undefined (count : Nat)

def apply (catalog : Catalog) : Change → Catalog × Answer
  | .add definition => (catalog.add definition).map id .added
  | .remove overload => (catalog.remove overload).map id .removed
  | .undefine method => (catalog.undefine method).map id .undefined
  | .undefineSignature method parameters =>
    (catalog.undefineSignature method parameters).map id .removed

def run (catalog : Catalog) : List Change → Catalog × List Answer
  | [] => (catalog, [])
  | change :: changes =>
    let (next, answer) := catalog.apply change
    let (last, answers) := next.run changes
    (last, answer :: answers)

end Catalog

open Catalog (key Change Answer Unambiguous overloadsOf)

/-- All overloads in one list, oldest first, and how many there have been. -/
structure Roster where
  entries : List Overload
  issued : Nat

namespace Roster

def empty : Roster :=
  ⟨[], 0⟩

def hasSignature (method : String) (parameters : List Ty) (entry : Overload) : Bool :=
  key entry.method == key method && entry.parameters == parameters

/-- Whether the entry is the overload itself and not only one like it. -/
def isSame (overload entry : Overload) : Bool :=
  key entry.method == key overload.method && entry.id == overload.id

def apply (roster : Roster) : Change → Roster × Answer
  | .add definition =>
    let overload := definition.numbered roster.issued
    let others := roster.entries.eraseP (hasSignature definition.method definition.parameters)
    (⟨others ++ [overload], roster.issued + 1⟩, .added overload)
  | .remove overload =>
    let rest := roster.entries.eraseP (isSame overload)
    ({ roster with entries := rest }, .removed (roster.entries.length - rest.length != 0))
  | .undefine method =>
    let rest := roster.entries.filter (key ·.method != key method)
    ({ roster with entries := rest }, .undefined (roster.entries.length - rest.length))
  | .undefineSignature method parameters =>
    let rest := roster.entries.eraseP (hasSignature method parameters)
    ({ roster with entries := rest }, .removed (roster.entries.length - rest.length != 0))

def run (roster : Roster) : List Change → Roster × List Answer
  | [] => (roster, [])
  | change :: changes =>
    let (next, answer) := roster.apply change
    let (last, answers) := next.run changes
    (last, answer :: answers)

/-! ### What changes keep -/

structure Sound (roster : Roster) : Prop where
  unambiguous : roster.entries.Pairwise fun a b =>
    key a.method = key b.method → (a.parameters == b.parameters) = false
  numbered : roster.entries.Pairwise fun a b => a.id ≠ b.id
  issued : ∀ entry ∈ roster.entries, entry.id < roster.issued

variable {roster : Roster}

theorem Sound.sublist (sound : roster.Sound) {rest : List Overload}
    (fewer : rest.Sublist roster.entries) : Sound { roster with entries := rest } where
  unambiguous := sound.unambiguous.sublist fewer
  numbered := sound.numbered.sublist fewer
  issued entry listed := sound.issued entry (fewer.subset listed)

theorem Sound.single_signature (sound : roster.Sound) (method : String) (parameters : List Ty) :
    roster.entries.Pairwise fun a b => hasSignature method parameters a = true →
      hasSignature method parameters b = false := by
  refine sound.unambiguous.imp ?_
  intro a b apart first
  rw [hasSignature, Bool.and_eq_true, beq_iff_eq] at first
  rw [hasSignature, Bool.and_eq_false_imp, beq_iff_eq]
  intro named
  rw [← Bool.not_eq_true]
  intro second
  have same := Ty.same_signature (Ty.signature_symm first.2) (Ty.signature_symm second)
  rw [apart (first.1.trans named.symm)] at same
  exact Bool.false_ne_true same

theorem Sound.single_overload (sound : roster.Sound) (overload : Overload) :
    roster.entries.Pairwise fun a b => isSame overload a = true → isSame overload b = false := by
  refine sound.numbered.imp ?_
  intro a b apart first
  simp only [isSame, Bool.and_eq_true, beq_iff_eq] at first
  simp only [isSame, Bool.and_eq_false_imp, beq_eq_false_iff_ne]
  intro _ second
  exact apart (first.2.trans second.symm)

/-- If at most one entry is wanted, erasing the first one erases them all. -/
theorem eraseP_eq_filter {wanted : Overload → Bool} {entries : List Overload}
    (single : entries.Pairwise fun a b => wanted a = true → wanted b = false) :
    entries.eraseP wanted = entries.filter (!wanted ·) := by
  induction entries with
  | nil => rfl
  | cons entry entries ih =>
      obtain ⟨others, rest⟩ := List.pairwise_cons.mp single
      cases isWanted : wanted entry with
      | true =>
          have kept : entries.filter (!wanted ·) = entries := by
            rw [List.filter_eq_self]
            intro other listed
            rw [others other listed isWanted]
            rfl
          simp [isWanted, kept]
      | false => simp [isWanted, ih rest]

theorem Sound.add (sound : roster.Sound) (definition : Definition) :
    (roster.apply (.add definition)).1.Sound := by
  have fewer := List.eraseP_sublist (p := hasSignature definition.method definition.parameters)
    (l := roster.entries)
  have kept := sound.sublist fewer
  refine ⟨?_, ?_, ?_⟩
  · refine List.pairwise_append.mpr ⟨kept.unambiguous, List.pairwise_singleton _ _, ?_⟩
    intro entry listed newest isNewest named
    obtain rfl := List.mem_singleton.mp isNewest
    rw [eraseP_eq_filter (sound.single_signature _ _)] at listed
    have other := (List.mem_filter.mp listed).2
    rw [Definition.numbered] at named ⊢
    simpa [hasSignature, named] using other
  · refine List.pairwise_append.mpr ⟨kept.numbered, List.pairwise_singleton _ _, ?_⟩
    intro entry listed newest isNewest
    obtain rfl := List.mem_singleton.mp isNewest
    exact Nat.ne_of_lt (kept.issued entry listed)
  · intro entry listed
    rcases List.mem_append.mp listed with older | newest
    · exact Nat.lt_succ_of_lt (kept.issued entry older)
    · obtain rfl := List.mem_singleton.mp newest
      exact Nat.lt_succ_self _

theorem Sound.apply (sound : roster.Sound) (change : Change) : (roster.apply change).1.Sound := by
  cases change with
  | add definition => exact sound.add definition
  | remove overload => exact sound.sublist List.eraseP_sublist
  | undefine method => exact sound.sublist List.filter_sublist
  | undefineSignature method parameters => exact sound.sublist List.eraseP_sublist

theorem Sound.run (sound : roster.Sound) (changes : List Change) :
    (roster.run changes).1.Sound := by
  induction changes generalizing roster with
  | nil => exact sound
  | cons change changes ih => exact ih (sound.apply change)

/-! ### Overloads that were given out -/

def Knows (roster : Roster) (overload : Overload) : Prop :=
  overload.id < roster.issued ∧ ∀ entry ∈ roster.entries, entry.id = overload.id → entry = overload

theorem Knows.apply {overload : Overload} (known : roster.Knows overload) (change : Change) :
    (roster.apply change).1.Knows overload := by
  have fewer {rest : List Overload} (sublist : rest.Sublist roster.entries) :
      ∀ entry ∈ rest, entry.id = overload.id → entry = overload :=
    fun entry listed => known.2 entry (sublist.subset listed)
  cases change with
  | add definition =>
      refine ⟨Nat.lt_succ_of_lt known.1, ?_⟩
      intro entry listed numbered
      rcases List.mem_append.mp listed with older | newest
      · exact fewer List.eraseP_sublist entry older numbered
      · obtain rfl := List.mem_singleton.mp newest
        exact absurd numbered (Nat.ne_of_gt known.1)
  | remove other => exact ⟨known.1, fewer List.eraseP_sublist⟩
  | undefine method => exact ⟨known.1, fewer List.filter_sublist⟩
  | undefineSignature method parameters => exact ⟨known.1, fewer List.eraseP_sublist⟩

theorem Knows.run {overload : Overload} (known : roster.Knows overload) (changes : List Change) :
    (roster.run changes).1.Knows overload := by
  induction changes generalizing roster with
  | nil => exact known
  | cons change changes ih => exact ih (known.apply change)

theorem Sound.knows_added (sound : roster.Sound) {change : Change} {overload : Overload}
    (added : (roster.apply change).2 = .added overload) :
    (roster.apply change).1.Knows overload := by
  cases change with
  | add definition =>
      obtain rfl : definition.numbered roster.issued = overload := by
        simpa [Roster.apply] using added
      refine ⟨Nat.lt_succ_self _, ?_⟩
      intro entry listed numbered
      rcases List.mem_append.mp listed with older | newest
      · have smaller := sound.issued entry (List.eraseP_sublist.subset older)
        exact absurd numbered (Nat.ne_of_lt smaller)
      · exact List.mem_singleton.mp newest
  | remove other => simp [Roster.apply] at added
  | undefine method => simp [Roster.apply] at added
  | undefineSignature method parameters => simp [Roster.apply] at added

theorem Sound.knows_answered (sound : roster.Sound) {changes : List Change} {overload : Overload}
    (answered : .added overload ∈ (roster.run changes).2) :
    (roster.run changes).1.Knows overload := by
  induction changes generalizing roster with
  | nil => simp [Roster.run] at answered
  | cons change changes ih =>
      rcases List.mem_cons.mp answered with first | later
      · exact (sound.knows_added first.symm).run changes
      · exact ih (sound.apply change) later

end Roster

/-! ### The catalog and the list -/

namespace Catalog

structure Tidy (methods : List (String × List Overload)) : Prop where
  distinct : (methods.map (·.1)).Nodup
  inhabited : ∀ entry ∈ methods, entry.2 ≠ []

theorem Tidy.update {methods : List (String × List Overload)} (tidy : Tidy methods) (name : String)
    (change : List Overload → List Overload) : Tidy (Catalog.update name change methods) := by
  induction methods with
  | nil =>
      rw [Catalog.update]
      split
      · exact tidy
      · rename_i overloads inhabited
        exact ⟨by simp, by simpa using inhabited⟩
  | cons entry methods ih =>
      obtain ⟨present, overloads⟩ := entry
      obtain ⟨fresh, distinct⟩ := List.nodup_cons.mp tidy.distinct
      obtain ⟨first, others⟩ := List.forall_mem_cons.mp tidy.inhabited
      have rest : Tidy methods := ⟨distinct, others⟩
      rw [Catalog.update]
      split
      · rename_i same
        rw [beq_iff_eq] at same
        subst same
        split
        · exact rest
        · rename_i changed inhabited
          exact ⟨tidy.distinct, List.forall_mem_cons.mpr ⟨inhabited, others⟩⟩
      · rename_i apart
        rw [beq_iff_eq] at apart
        have later := ih rest
        refine ⟨List.nodup_cons.mpr ⟨?_, later.distinct⟩,
          List.forall_mem_cons.mpr ⟨first, later.inhabited⟩⟩
        intro listed
        obtain ⟨⟨other, stored⟩, inside, isPresent⟩ := List.mem_map.mp listed
        have names : ∀ other stored, (other, stored) ∈ Catalog.update name change methods →
            other = name ∨ other ∈ methods.map (·.1) :=
          forall_update (fun _ _ member => .inr (List.mem_map_of_mem member)) (.inl rfl)
            fun _ _ => .inl rfl
        subst isPresent
        exact (names other stored inside).elim apart fresh

structure Mirrors (catalog : Catalog) (roster : Roster) : Prop where
  issued : catalog.issued = roster.issued
  tidy : Tidy catalog.methods
  found : ∀ name, overloadsOf catalog.methods name = roster.entries.filter (key ·.method == name)

variable {catalog : Catalog} {roster : Roster}

theorem overloadsOf_of_mem {methods : List (String × List Overload)} (tidy : Tidy methods)
    {entry : String × List Overload} (listed : entry ∈ methods) :
    overloadsOf methods entry.1 = entry.2 := by
  induction methods with
  | nil => simp at listed
  | cons first methods ih =>
      obtain ⟨fresh, distinct⟩ := List.nodup_cons.mp tidy.distinct
      rcases List.mem_cons.mp listed with rfl | later
      · simp [overloadsOf]
      · have apart : ¬ first.1 = entry.1 := fun same => name_ne_of_not_mem fresh later same.symm
        have rest := ih ⟨distinct, (List.forall_mem_cons.mp tidy.inhabited).2⟩ later
        rw [overloadsOf, List.find?_cons_of_neg (by simpa using apart)]
        exact rest

theorem Tidy.contains_iff (tidy : Tidy catalog.methods) (method : String) :
    catalog.contains method = true ↔ catalog.lookup method ≠ [] := by
  rw [contains, List.any_eq_true]
  constructor
  · rintro ⟨entry, listed, named⟩
    rw [lookup_eq_overloadsOf, ← beq_iff_eq.mp named, overloadsOf_of_mem tidy listed]
    exact tidy.inhabited entry listed
  · intro inhabited
    rw [lookup_eq_overloadsOf, overloadsOf] at inhabited
    split at inhabited
    · rename_i name overloads found
      have named := List.find?_some found
      exact ⟨_, List.mem_of_find?_eq_some found, named⟩
    · exact absurd rfl inhabited

theorem Tidy.isEmpty_iff (tidy : Tidy catalog.methods) :
    catalog.isEmpty = true ↔ catalog.size = 0 := by
  rw [isEmpty, size]
  cases listed : catalog.methods with
  | nil => simp
  | cons entry methods =>
      have inhabited := tidy.inhabited entry (by simp [listed])
      have counted : 0 < entry.2.length := List.length_pos_iff.mpr inhabited
      simp only [List.isEmpty_cons, Bool.false_eq_true, List.foldr_cons, false_iff]
      omega

/-- The lists of the methods part the one list. -/
theorem size_eq_length {methods : List (String × List Overload)}
    (distinct : (methods.map (·.1)).Nodup) {entries : List Overload}
    (listed : ∀ entry ∈ methods, entry.2 = entries.filter (key ·.method == entry.1))
    (covered : ∀ overload ∈ entries, key overload.method ∈ methods.map (·.1)) (issued : Nat) :
    size ⟨methods, issued⟩ = entries.length := by
  induction methods generalizing entries with
  | nil =>
      have none : entries = [] := by
        rw [List.eq_nil_iff_forall_not_mem]
        exact fun overload inside => List.not_mem_nil (covered overload inside)
      rw [none]
      rfl
  | cons entry methods ih =>
      obtain ⟨fresh, distinct⟩ := List.nodup_cons.mp distinct
      obtain ⟨first, others⟩ := List.forall_mem_cons.mp listed
      -- The rest of the methods part what is left without the first one.
      have rest : size ⟨methods, issued⟩ = (entries.filter (key ·.method != entry.1)).length := by
        refine ih distinct ?_ ?_
        · intro other inside
          rw [others other inside, List.filter_filter]
          refine List.filter_congr fun overload _ => ?_
          have apart := name_ne_of_not_mem fresh inside
          by_cases named : key overload.method = other.1 <;> simp [named, apart]
        · intro overload inside
          obtain ⟨member, named⟩ := List.mem_filter.mp inside
          exact (List.mem_cons.mp (covered overload member)).resolve_left (by simpa using named)
      have parted := List.length_eq_countP_add_countP (key ·.method == entry.1) (l := entries)
      rw [List.countP_eq_length_filter, List.countP_eq_length_filter, ← first] at parted
      simp only [size, List.foldr_cons] at rest ⊢
      rw [rest, parted]
      congr 2
      refine List.filter_congr fun overload _ => ?_
      cases named : key overload.method == entry.1 <;> simp [named, bne]

namespace Mirrors

theorem lookup_eq (mirrors : catalog.Mirrors roster) (method : String) :
    catalog.lookup method = roster.entries.filter (key ·.method == key method) :=
  mirrors.found (key method)

theorem size_eq (mirrors : catalog.Mirrors roster) : catalog.size = roster.entries.length := by
  refine size_eq_length mirrors.tidy.distinct ?_ ?_ catalog.issued
  · intro entry listed
    rw [← mirrors.found, overloadsOf_of_mem mirrors.tidy listed]
  · intro overload inside
    apply Classical.byContradiction
    intro absent
    have none := overloadsOf_of_not_mem absent
    rw [mirrors.found, List.filter_eq_nil_iff] at none
    exact none overload inside (beq_self_eq_true _)

theorem add (mirrors : catalog.Mirrors roster) (sound : roster.Sound) (definition : Definition) :
    (catalog.apply (.add definition)).1.Mirrors (roster.apply (.add definition)).1 ∧
      (catalog.apply (.add definition)).2 = (roster.apply (.add definition)).2 := by
  have given : definition.numbered roster.issued = definition.numbered catalog.issued := by
    rw [mirrors.issued]
  refine ⟨⟨congrArg (· + 1) mirrors.issued, mirrors.tidy.update _ _, ?_⟩,
    congrArg Answer.added given.symm⟩
  intro name
  refine Eq.trans (overloadsOf_update catalog.methods (by simp) name) ?_
  simp only [Roster.apply, Roster.eraseP_eq_filter (sound.single_signature _ _), List.filter_append,
    List.filter_filter, given]
  split
  · rename_i named
    subst named
    rw [mirrors.found, List.filter_filter]
    congr 1
    · refine List.filter_congr fun entry _ => ?_
      cases named : key entry.method == key definition.method <;>
        simp [Roster.hasSignature, named, bne]
    · simp [Definition.numbered]
  · rename_i apart
    have skipped : [definition.numbered catalog.issued].filter (key ·.method == name) = [] := by
      simpa [Definition.numbered] using apart
    rw [skipped, List.append_nil, mirrors.found]
    refine List.filter_congr fun entry _ => ?_
    by_cases named : key entry.method = name
    · have other : ¬ name = key definition.method := fun same => apart same.symm
      simp [Roster.hasSignature, named, other]
    · simp [named]

theorem discard (mirrors : catalog.Mirrors roster) (method : String) (unwanted : Overload → Bool) :
    let rest := roster.entries.filter fun entry => !(key entry.method == key method && unwanted entry)
    (catalog.discard method unwanted).1.Mirrors { roster with entries := rest } ∧
      (catalog.discard method unwanted).2 = roster.entries.length - rest.length := by
  intro rest
  refine ⟨⟨mirrors.issued, mirrors.tidy.update _ _, ?_⟩, ?_⟩
  · intro name
    refine Eq.trans (overloadsOf_update catalog.methods (fun _ => mirrors.tidy.distinct) name) ?_
    simp only [mirrors.found, rest, List.filter_filter]
    split
    · rename_i named
      subst named
      refine List.filter_congr fun entry _ => ?_
      cases key entry.method == key method <;> simp
    · rename_i apart
      refine List.filter_congr fun entry _ => ?_
      by_cases named : key entry.method = name
      · have other : ¬ name = key method := fun same => apart same.symm
        simp [named, other]
      · simp [named]
  · have parted := List.length_eq_countP_add_countP
      (fun entry => key entry.method == key method && unwanted entry) (l := roster.entries)
    have left : rest.length = roster.entries.countP
        fun entry => decide ¬(key entry.method == key method && unwanted entry) = true := by
      rw [List.countP_eq_length_filter]
      congr 1
      refine List.filter_congr fun entry _ => ?_
      cases key entry.method == key method && unwanted entry <;> rfl
    have counted : (catalog.lookup method).countP unwanted = roster.entries.countP
        fun entry => key entry.method == key method && unwanted entry := by
      rw [mirrors.lookup_eq, List.countP_filter]
      refine List.countP_congr fun entry _ => ?_
      rw [Bool.and_comm]
    rw [Catalog.discard, counted]
    omega

/-- One change keeps the catalog and the list alike, and both answer the same. -/
theorem apply (mirrors : catalog.Mirrors roster) (sound : roster.Sound) (change : Change) :
    (catalog.apply change).1.Mirrors (roster.apply change).1 ∧
      (catalog.apply change).2 = (roster.apply change).2 := by
  cases change with
  | add definition => exact mirrors.add sound definition
  | remove overload =>
      obtain ⟨kept, counted⟩ := mirrors.discard overload.method (·.id == overload.id)
      have erased := Roster.eraseP_eq_filter (sound.single_overload overload)
      simp only [Roster.apply, erased]
      exact ⟨kept, congrArg (Answer.removed <| · != 0) counted⟩
  | undefine method =>
      obtain ⟨kept, counted⟩ := mirrors.discard method fun _ => true
      simp only [Bool.and_true] at kept counted
      exact ⟨kept, congrArg Answer.undefined counted⟩
  | undefineSignature method parameters =>
      obtain ⟨kept, counted⟩ := mirrors.discard method (·.parameters == parameters)
      have erased := Roster.eraseP_eq_filter (sound.single_signature method parameters)
      simp only [Roster.apply, erased]
      exact ⟨kept, congrArg (Answer.removed <| · != 0) counted⟩

theorem run (mirrors : catalog.Mirrors roster) (sound : roster.Sound) (changes : List Change) :
    (catalog.run changes).1.Mirrors (roster.run changes).1 ∧
      (catalog.run changes).2 = (roster.run changes).2 := by
  induction changes generalizing catalog roster with
  | nil => exact ⟨mirrors, rfl⟩
  | cons change changes ih =>
      obtain ⟨kept, answered⟩ := mirrors.apply sound change
      obtain ⟨last, answers⟩ := ih kept (sound.apply change)
      exact ⟨last, by simp only [Catalog.run, Roster.run, answered, answers]⟩

end Mirrors

theorem empty_mirrors : empty.Mirrors .empty where
  issued := rfl
  tidy := ⟨List.nodup_nil, by simp [empty]⟩
  found _ := rfl

end Catalog

theorem Roster.empty_sound : Roster.empty.Sound :=
  ⟨.nil, .nil, by simp [Roster.empty]⟩

namespace Catalog

/-- Whatever is defined and taken away, the catalog behaves as the one list of overloads: it answers
every change as the list does, and it finds and counts what is in the list. An overload that was given
out is known by its number, so that what is removed is that overload and none that took its place. -/
theorem run_refines_roster (changes : List Change) :
    let catalog := (Catalog.empty.run changes).1
    let answers := (Catalog.empty.run changes).2
    let roster := (Roster.empty.run changes).1
    answers = (Roster.empty.run changes).2 ∧
    (∀ method, catalog.lookup method =
      roster.entries.filter fun entry => key entry.method == key method) ∧
    (∀ method, Unambiguous (catalog.lookup method)) ∧
    (∀ method, catalog.contains method = true ↔ catalog.lookup method ≠ []) ∧
    catalog.size = roster.entries.length ∧
    (catalog.isEmpty = true ↔ catalog.size = 0) ∧
    ∀ overload, .added overload ∈ answers → ∀ entry ∈ roster.entries,
      (Roster.isSame overload entry = true ↔ entry = overload) := by
  intro catalog answers roster
  obtain ⟨mirrors, answered⟩ := empty_mirrors.run Roster.empty_sound changes
  have sound := Roster.empty_sound.run changes
  refine ⟨answered, mirrors.lookup_eq, ?_, mirrors.tidy.contains_iff, mirrors.size_eq,
    mirrors.tidy.isEmpty_iff, ?_⟩
  · intro method
    rw [mirrors.lookup_eq]
    refine (sound.unambiguous.filter _).imp_of_mem ?_
    intro a b first second apart
    have firstNamed := beq_iff_eq.mp (List.mem_filter.mp first).2
    have secondNamed := beq_iff_eq.mp (List.mem_filter.mp second).2
    exact apart (firstNamed.trans secondNamed.symm)
  · intro overload given entry listed
    rw [show answers = _ from answered] at given
    have known := Roster.empty_sound.knows_answered given
    constructor
    · intro same
      simp only [Roster.isSame, Bool.and_eq_true, beq_iff_eq] at same
      exact known.2 entry listed same.2
    · rintro rfl
      simp [Roster.isSame]

end Catalog

end RowQuery
