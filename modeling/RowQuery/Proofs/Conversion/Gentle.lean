import RowQuery.Proofs.Conversion.Typing

/-!
Implicit conversions. A planned one takes no null away: the value stays as it is, or it becomes a
number of a kind that its type widens to, or a record type declares the conversion. A kind that a type
widens to has room for the numbers of the type, unless these are chars made numbers of 16 bits.
-/

namespace RowQuery

namespace Conversion

/-- A conversion from one type to another that takes no null away: the value stays as it is, or it
becomes a number of a kind that suits it, or a record type declares the conversion as implicit. -/
inductive Gentle (suits : Ty → NumericKind → Prop) : Ty → Ty → Conversion → Prop
  | reference {source target} : source.assignable target = true →
      Gentle suits source target .reference
  | numeric {source kind} : suits source kind →
      Gentle suits source (.numeric kind) (.numeric kind)
  | declared {source target conversion} : declared? true source target = some conversion →
      conversion.implicit = true → Gentle suits source target (.declared conversion)
  | intoNullable {source inner conversion} : Gentle suits source inner conversion →
      Gentle suits source (.nullable inner) conversion
  | lifted {source target inner} : Gentle suits source target inner →
      Gentle suits (.nullable source) (.nullable target) (.lifted inner)

theorem Gentle.mono {suits broader : Ty → NumericKind → Prop} {source target : Ty}
    {conversion : Conversion} (gentle : Gentle suits source target conversion)
    (implied : ∀ source kind, suits source kind → broader source kind) :
    Gentle broader source target conversion := by
  induction gentle with
  | reference assigned => exact .reference assigned
  | numeric suited => exact .numeric (implied _ _ suited)
  | declared found implicit => exact .declared found implicit
  | intoNullable _ ih => exact .intoNullable ih
  | lifted _ ih => exact .lifted ih

def Listed (source : Ty) (kind : NumericKind) : Prop :=
  widens source (.numeric kind) = true

theorem implicit_of_declared? {source target : Ty} {conversion : DeclaredConversion}
    (found : declared? true source target = some conversion) : conversion.implicit = true := by
  rcases declared?_cases found with ⟨decl, rfl, leaving⟩ | ⟨decl, rfl, entering⟩
  · obtain ⟨_, _, listed⟩ := List.exists_of_findSome?_eq_some leaving
    have accepted := List.find?_some listed
    simp only [Bool.not_true, Bool.false_or, Bool.and_eq_true] at accepted
    exact accepted.1
  · have accepted := List.find?_some entering
    simp only [Bool.not_true, Bool.false_or, Bool.and_eq_true] at accepted
    exact accepted.1

theorem direct?_gentle {source target : Ty} {conversion : Conversion}
    (planned : direct? true source target = some conversion) :
    Gentle Listed source target conversion := by
  unfold direct? at planned
  split at planned
  · rename_i assigned
    rw [← Option.some.inj planned]
    exact .reference assigned
  · split at planned
    · simp at planned
    · split at planned
      · simp only [primitive?, Bool.not_true, Bool.false_or] at planned
        split at planned
        · rename_i wider
          cases target with
          | numeric kind =>
              rw [← Option.some.inj planned]
              exact .numeric wider
          | _ => cases source <;> simp [widens] at wider
        · simp at planned
      · obtain ⟨chosen, found, rfl⟩ := Option.map_eq_some_iff.mp planned
        exact .declared found (implicit_of_declared? found)

theorem fromBare?_gentle {source target : Ty} {conversion : Conversion}
    (planned : fromBare? true source target = some conversion) :
    Gentle Listed source target conversion := by
  fun_induction fromBare? true source target with
  | case1 inner assigned =>
      rw [← Option.some.inj planned]
      exact .reference assigned
  | case2 inner _ ih => exact .intoNullable (ih planned)
  | case3 target _ => exact direct?_gentle planned

theorem plan?_gentle {source target : Ty} {conversion : Conversion}
    (planned : plan? true source target = some conversion) :
    Gentle Listed source target conversion := by
  cases source with
  | nullable source =>
      simp only [plan?] at planned
      split at planned
      · rename_i assigned
        rw [← Option.some.inj planned]
        exact .reference assigned
      · split at planned
        · obtain ⟨inner, found, rfl⟩ := Option.map_eq_some_iff.mp planned
          exact .lifted (plan?_gentle found)
        · simp at planned
  | _ => exact fromBare?_gentle planned
termination_by sizeOf source

end Conversion

/-! ### Ranges -/

namespace NumericKind

/-- The greatest number of the kind. That of a float has a one in each place of its significand. -/
def greatest : NumericKind → Int
  | integer kind => kind.greatest
  | f32 => (Int.pow 2 24 - 1) * Int.pow 2 104
  | f64 => (Int.pow 2 53 - 1) * Int.pow 2 971
  | decimal => Decimal.mantissaLimit - 1

def least : NumericKind → Int
  | integer kind => kind.least
  | kind => -kind.greatest

end NumericKind

def Ty.range? : Ty → Option (Int × Int)
  | numeric kind => some (kind.least, kind.greatest)
  | char => some (0, 1114111)
  | _ => none

def Ty.WithinRange (source : Ty) (kind : NumericKind) : Prop :=
  ∃ range, source.range? = some range ∧ kind.least ≤ range.1 ∧ range.2 ≤ kind.greatest

/-- A char is given a number of 16 bits, although its code can have more. -/
def Ty.IsSqueezed (source : Ty) (kind : NumericKind) : Prop :=
  source = .char ∧ kind = .integer .u16

theorem NumericKind.range_of_widensTo {source target : NumericKind}
    (wider : source.widensTo target = true) :
    target.least ≤ source.least ∧ source.greatest ≤ target.greatest := by
  have listed : ∀ target ∈ source.widenings,
      target.least ≤ source.least ∧ source.greatest ≤ target.greatest := by
    rcases source with (_ | _ | _ | _ | _ | _ | _ | _) | _ | _ | _ <;> decide +kernel
  exact listed target (List.contains_iff_mem.mp wider)

theorem charWidenings_range : ∀ kind ∈ charWidenings,
    kind = .integer .u16 ∨ kind.least ≤ 0 ∧ 1114111 ≤ kind.greatest := by
  decide +kernel

/-- A kind that a type widens to has room for it, but for the one that chars are squeezed into. -/
theorem Conversion.range_of_listed (source : Ty) (kind : NumericKind)
    (listed : Conversion.Listed source kind) :
    source.WithinRange kind ∨ source.IsSqueezed kind := by
  cases source with
  | numeric narrow => exact .inl ⟨_, rfl, NumericKind.range_of_widensTo listed⟩
  | char =>
      rcases charWidenings_range kind (List.contains_iff_mem.mp listed) with squeezed | roomy
      · exact .inr ⟨rfl, squeezed⟩
      · exact .inl ⟨_, rfl, roomy⟩
  | _ => simp [Conversion.Listed, Conversion.widens] at listed

end RowQuery
