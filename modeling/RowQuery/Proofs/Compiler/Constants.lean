import RowQuery.Proofs.Conversion.Gentle
import RowQuery.Proofs.Conversion.Order
import RowQuery.Proofs.Number.Magnitude
import RowQuery.Proofs.Standard.Operands
import RowQuery.Proofs.Value.Decoding

/-!
Constants where a value of another type is expected. Of the implicit conversions that a field would go
through, a constant goes through those that keep the value and those that widen a number, and becomes
a constant of the expected type. That never fails, since every kind has room for the numbers of the
kinds that widen to it. Chars do not become numbers, and conversions that record types declare are not
used.
-/

namespace RowQuery

/-! ### Widening a number -/

theorem Integer.natAbs_lt (n : Integer) : n.value.natAbs < 18446744073709551616 := by
  have bounds := n.holds.bounds
  omega

namespace Value

theorem ofNumber_integer (n : Integer) {wider : NumericKind}
    (widening : (NumericKind.integer n.kind).widensTo wider = true) :
    ∃ result, ofNumber (.integer n.value) wider = .ok result := by
  have small := n.natAbs_lt
  cases wider with
  | integer kind =>
      have inside : (NumericKind.integer n.kind).within (.integer kind) = true := by
        simp [NumericKind.within, widening]
      have holds := IntegerKind.covers_iff_within.mpr inside n.value n.holds
      exact ⟨_, ofInt_of_holds holds⟩
  | f32 =>
      have below := Binary.below_ofInt (Binary.log2_le_of_lt (Nat.lt_of_lt_of_le small (by decide)))
      have finite := Binary.isFinite_narrow below
      simp only [ofNumber, Number.toFloat, finite, Bool.not_true, Bool.and_false,
        Bool.false_eq_true, ↓reduceIte]
      exact ⟨_, rfl⟩
  | f64 => exact ⟨_, rfl⟩
  | decimal =>
      have fits : n.value.natAbs < Decimal.mantissaLimit ∧ 0 ≤ Decimal.maxScale :=
        ⟨Nat.lt_of_lt_of_le small (by decide), by decide⟩
      simp only [ofNumber, Decimal.ofInt?, Decimal.make?, dif_pos fits]
      exact ⟨_, rfl⟩

theorem ofNumber_of_widensTo {value : Value} {kind wider : NumericKind} {number : Number}
    (known : value.numericKind? = some kind) (read : value.number? = some number)
    (widening : kind.widensTo wider = true) :
    (wider.isInteger = true → number.isWhole = true) ∧
      ∃ result, ofNumber number wider = .ok result := by
  cases value with
  | integer n =>
      obtain rfl := Option.some.inj known
      obtain rfl := Option.some.inj read
      exact ⟨fun _ => rfl, ofNumber_integer n widening⟩
  | float32 x =>
      obtain rfl := Option.some.inj known
      obtain rfl : wider = .f64 := by
        simpa [NumericKind.widensTo, NumericKind.widenings] using widening
      exact ⟨by simp [NumericKind.isInteger], _, rfl⟩
  | float64 | decimal =>
      obtain rfl := Option.some.inj known
      simp [NumericKind.widensTo, NumericKind.widenings] at widening
  | _ => simp [numericKind?] at known

/-! ### Constants as values of a type -/

def goesThrough (value : Value) : Conversion → Bool
  | .reference => true
  | .numeric _ => value.numericKind?.isSome
  | _ => false

/-- The constant fits the type if it goes through the conversion, and as what the conversion makes of
it. -/
def FitsBy (value : Value) (ty : Ty) (conversion : Conversion) : Prop :=
  if value.goesThrough conversion then
    ∃ fitted, (∀ host, conversion.apply host value = .ok fitted) ∧ value.fit? ty = some fitted
  else value.fit? ty = none

variable {value : Value} {ty : Ty}

theorem fitsBy_reference (fits : value.conforms ty = true) : value.FitsBy ty .reference :=
  ⟨value, fun _ => rfl, by rw [fit?.eq_def, if_pos fits]⟩

theorem fitsBy_numeric {kind wider : NumericKind} (known : value.numericKind? = some kind)
    (widening : kind.widensTo wider = true) (unfit : value.conforms (.numeric wider) = false) :
    value.FitsBy (.numeric wider) (.numeric wider) := by
  obtain ⟨present, number, read⟩ := conforms_primitive rfl (conforms_of_numericKind known)
  obtain ⟨whole, result, computed⟩ := ofNumber_of_widensTo known read widening
  rw [FitsBy, if_pos (by simp [goesThrough, known])]
  refine ⟨result, ?_, ?_⟩
  · intro host
    rw [Conversion.apply_numeric present read, computed]
  · rw [fit?.eq_def]
    simpa [unfit, present, fitNumeric?, numeral?, known, read, computed, Except.toOption] using whole

theorem fit?_char_numeric (c : Char) (wider : NumericKind) :
    (Value.char c).fit? (.numeric wider) = none := by
  have unfit : (Value.char c).conforms (.numeric wider) = false := rfl
  rw [fit?.eq_def]
  simp [unfit, isNull, fitNumeric?, numeral?, numericKind?]

theorem fit?_record {decl : RecordType} {fields : List Value} (bare : ty.isNullable = false)
    (unfit : (Value.record decl fields).conforms ty = false) :
    (Value.record decl fields).fit? ty = none := by
  rw [fit?.eq_def]
  cases ty <;> simp_all [isNull, fitNumeric?, fitEnum?, numeral?, numericKind?, string?, Ty.isNullable]

theorem fit?_to_record {decl : RecordType} (unfit : value.conforms (.record decl) = false) :
    value.fit? (.record decl) = none := by
  rw [fit?.eq_def]
  simp [unfit]

theorem direct?_fitsBy {conversion : Conversion} (bare : ty.isNullable = false)
    (planned : Conversion.direct? true value.typeOf ty = some conversion) :
    value.FitsBy ty conversion := by
  unfold Conversion.direct? at planned
  split at planned
  · rename_i assigned
    rw [← Option.some.inj planned]
    exact fitsBy_reference assigned
  · rename_i unassigned
    have unfit : value.conforms ty = false := Bool.eq_false_iff.mpr unassigned
    split at planned
    · simp at planned
    · split at planned
      · simp only [Conversion.primitive?, Bool.not_true, Bool.false_or] at planned
        split at planned
        · rename_i widening
          obtain ⟨wider, rfl⟩ : ∃ wider, ty = .numeric wider := by
            cases ty <;> cases value.typeOf <;> simp_all [Conversion.widens]
          rw [← Option.some.inj planned]
          cases value with
          | integer _ | float32 _ | float64 _ | decimal _ =>
              exact fitsBy_numeric rfl widening unfit
          | char c => exact fit?_char_numeric c wider
          | _ => simp [typeOf, Conversion.widens] at widening
        · simp at planned
      · obtain ⟨chosen, found, rfl⟩ := Option.map_eq_some_iff.mp planned
        change value.fit? ty = none
        rcases Conversion.declared?_cases found with ⟨decl, typed, _⟩ | ⟨decl, rfl, _⟩
        · cases value with
          | record _ _ => exact fit?_record bare unfit
          | _ => simp [typeOf, Ty.integer] at typed
        · exact fit?_to_record unfit

theorem fromBare?_fitsBy {conversion : Conversion}
    (planned : Conversion.fromBare? true value.typeOf ty = some conversion) :
    value.FitsBy ty conversion := by
  generalize typed : value.typeOf = source at planned
  fun_induction Conversion.fromBare? true source ty with
  | case1 inner assigned =>
      rw [← Option.some.inj planned]
      rw [← typed] at assigned
      exact fitsBy_reference assigned
  | case2 inner unassigned ih =>
      rw [← typed] at unassigned
      have present : value.isNull = false := by
        cases value with
        | null => exact absurd (Ty.null_assignable _) unassigned
        | _ => rfl
      have inside := ih planned
      rw [FitsBy] at inside ⊢
      rwa [fit?_nullable present]
  | case3 ty bare =>
      rw [← typed] at planned
      exact direct?_fitsBy (by cases ty <;> simp_all [Ty.isNullable]) planned

theorem bare_typeOf (value : Value) : value.typeOf.isNullable = false := by
  cases value <;> rfl

/-- The conversions of a field that a constant does not go through are the declared ones and those
that make a char a number. -/
theorem goesThrough_eq_false {conversion : Conversion}
    (gentle : Conversion.Gentle Conversion.Listed value.typeOf ty conversion) :
    value.goesThrough conversion = false ↔
      (∃ declared, conversion = .declared declared) ∨
        (∃ c, value = .char c) ∧ ∃ kind, conversion = .numeric kind := by
  generalize typed : value.typeOf = source at gentle
  induction gentle with
  | reference _ => simp [goesThrough]
  | declared _ _ => simp [goesThrough]
  | intoNullable _ ih => exact ih typed
  | lifted _ _ =>
      have bare := value.bare_typeOf
      rw [typed] at bare
      simp [Ty.isNullable] at bare
  | numeric listed =>
      rw [← typed] at listed
      cases value with
      | integer _ | float32 _ | float64 _ | decimal _ | char _ => simp [goesThrough, numericKind?]
      | _ => simp [Conversion.Listed, Conversion.widens, typeOf] at listed

/-- A constant that fits a type conforms to it, if null is added to nothing but types of values that
are not null. -/
theorem fit?_conforms_proper {fitted : Value} (fit : value.fit? ty = some fitted)
    (proper : ty.isNullable = true →
      ty.underlying.isValueType = true ∧ ty.underlying.isNullable = false) :
    fitted.conforms ty = true := by
  cases optional : ty.isNullable with
  | false => exact fit?_conforms optional fit
  | true =>
      obtain ⟨valueType, bare⟩ := proper optional
      have same := Ty.eq_nullable optional
      generalize ty.underlying = inner at same valueType bare
      subst same
      rw [fit?.eq_def] at fit
      split at fit
      · rename_i fits
        rwa [← Option.some.inj fit]
      · split at fit
        · simp at fit
        · have inside := fit?_conforms bare fit
          exact Ty.StandsFor.assignable (.nullable (conforms_value valueType bare inside))

end Value

namespace Compiler

variable {value : Value} {ty : Ty}

theorem buildAs_constant (compiler : Compiler) (target : Expr) {fitted : Value}
    (fit : value.fit? ty = some fitted) :
    compiler.buildAs target (.constant value) ty = Expr.literalAs fitted ty := by
  have bound : compiler.bind target (.constant value) (some ty) = .ok (bindConstant value (some ty)) :=
    rfl
  simp only [buildAs, bound, Result.ok_bind, bindConstant, fit]
  cases Expr.literalAs fitted ty <;> rfl

theorem buildAs_constant_error (compiler : Compiler) (target : Expr) (unfit : value.fit? ty = none) :
    compiler.buildAs target (.constant value) ty =
      .error (incompatible (.constant value) ty value.typeOf) := by
  have bound : compiler.bind target (.constant value) (some ty) = .ok (bindConstant value (some ty)) :=
    rfl
  rw [buildAs, bound, Result.ok_bind, bindConstant, unfit]
  rfl

/-- Where a field would be converted implicitly, a constant of the same type is converted at once, and
to what the conversion makes of it, if that keeps it as it is or widens it as a number. This gives a
constant of the expected type, unless null is added there to a type that has it already. The other
conversions are exactly the declared ones and those that make a char a number: such a constant is
refused. -/
theorem constant_bound_as_field {value : Value} {ty : Ty} {conversion : Conversion}
    (planned : Conversion.plan? true value.typeOf ty = some conversion) (compiler : Compiler)
    (target : Expr) :
    (value.goesThrough conversion = false ↔
      (∃ declared, conversion = .declared declared) ∨
        (∃ c, value = .char c) ∧ ∃ kind, conversion = .numeric kind) ∧
    (value.goesThrough conversion = false →
      compiler.buildAs target (.constant value) ty =
        .error (incompatible (.constant value) ty value.typeOf)) ∧
    (value.goesThrough conversion = true → ∃ fitted,
      (∀ host, conversion.apply host value = .ok fitted) ∧
      compiler.buildAs target (.constant value) ty = Expr.literalAs fitted ty ∧
      ((ty.isNullable = true →
          ty.underlying.isValueType = true ∧ ty.underlying.isNullable = false) →
        compiler.buildAs target (.constant value) ty = .ok (.constant fitted ty))) := by
  have refusals := Value.goesThrough_eq_false (Conversion.plan?_gentle planned)
  rw [Conversion.plan_of_bare value.bare_typeOf] at planned
  have fits := Value.fromBare?_fitsBy planned
  rw [Value.FitsBy] at fits
  refine ⟨refusals, ?_, ?_⟩
  · intro refused
    rw [refused] at fits
    exact buildAs_constant_error compiler target fits
  · intro taken
    rw [if_pos taken] at fits
    obtain ⟨fitted, applied, fit⟩ := fits
    have built := buildAs_constant compiler target fit
    refine ⟨fitted, applied, built, ?_⟩
    intro proper
    rw [built, Expr.literalAs, if_pos (Value.fit?_conforms_proper fit proper)]

/-- The greatest integer of 64 bits, where a single-precision number or null is expected. -/
theorem constant_bound_as_field_greatest :
    Conversion.plan? true (Ty.integer .u64) (.nullable (.numeric .f32)) = some (.numeric .f32) ∧
    ∃ fitted, (∀ host, (Conversion.numeric .f32).apply host
        (.integer ⟨.u64, 18446744073709551615, by decide⟩) = .ok fitted) ∧
      (Compiler.ofCatalog .empty).buildAs (.target .bool)
        (.constant (.integer ⟨.u64, 18446744073709551615, by decide⟩)) (.nullable (.numeric .f32)) =
        .ok (.constant fitted (.nullable (.numeric .f32))) := by
  have planned : Conversion.plan? true
      (Value.typeOf (.integer ⟨.u64, 18446744073709551615, by decide⟩)) (.nullable (.numeric .f32)) =
      some (.numeric .f32) := rfl
  obtain ⟨fitted, applied, _, built⟩ :=
    (constant_bound_as_field planned (.ofCatalog .empty) (.target .bool)).2.2 rfl
  exact ⟨planned, fitted, applied, built fun _ => ⟨rfl, rfl⟩⟩

/-- A field of chars can stand where integers are expected, the constant cannot. -/
theorem char_constant_refused :
    Conversion.can true (Value.char 'A').typeOf .i32 = true ∧
    (Compiler.ofCatalog .empty).buildAs (.target .bool) (.constant (.char 'A')) .i32 =
      .error (incompatible (.constant (.char 'A')) .i32 .char) :=
  ⟨rfl, rfl⟩

end Compiler

end RowQuery
