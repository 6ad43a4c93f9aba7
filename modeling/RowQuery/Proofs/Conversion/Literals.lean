import RowQuery.Proofs.Compiler.Constants
import RowQuery.Proofs.Value.Order

/-!
Constants as integers, as decimals and as values of enumerations. A constant fits an integer type
exactly if it is an integer that the kind has, and becomes that integer. Where a constant fits, a
conversion at run time gives the same value, unless the discriminant of an enumeration is not one of
the underlying kind.
-/

namespace RowQuery

/-! ### Decimals without a fraction -/

namespace Decimal

def unit (d : Decimal) : Nat :=
  Nat.pow 10 d.scale

theorem unit_pos (d : Decimal) : 0 < d.unit :=
  Nat.pow_pos (by decide)

theorem isWhole_iff (d : Decimal) : d.isWhole = true ↔ (d.unit : Int) ∣ d.signedMantissa := by
  have multiple : d.isWhole = true ↔ (d.unit : Int) ∣ (d.mantissa : Int) := by
    rw [isWhole, beq_iff_eq, ← Nat.dvd_iff_mod_eq_zero, Int.natCast_dvd_natCast, unit]
  rw [multiple, signedMantissa]
  cases d.negative with
  | false => simp
  | true => simp

theorem truncate_eq (d : Decimal) : d.truncate = d.signedMantissa.tdiv d.unit := by
  have whole : ((d.mantissa / Nat.pow 10 d.scale : Nat) : Int) = (d.mantissa : Int).tdiv d.unit :=
    rfl
  rw [truncate, signedMantissa, whole]
  cases d.negative with
  | false => simp
  | true => simp [Int.neg_tdiv]

theorem value_eq_iff {d : Decimal} {n : Int} : d.value = n ↔ d.signedMantissa = n * d.unit := by
  have unit : (10 : ℚ) ^ d.scale = (d.unit : ℚ) := by simp [Decimal.unit]
  have positive : (0 : ℚ) < (d.unit : ℚ) := Nat.cast_pos.mpr d.unit_pos
  rw [value, unit, div_eq_iff positive.ne']
  norm_cast

/-- The value is an integer if the fraction digits are zero, and then it is the integer part. -/
theorem value_eq_iff_whole {d : Decimal} {n : Int} :
    d.value = n ↔ d.isWhole = true ∧ d.truncate = n := by
  rw [value_eq_iff, isWhole_iff, truncate_eq]
  constructor
  · intro scaled
    have nonzero : (d.unit : Int) ≠ 0 := Int.natCast_ne_zero.mpr (Nat.ne_of_gt d.unit_pos)
    rw [scaled]
    exact ⟨Int.dvd_mul_left _ _, Int.mul_tdiv_cancel _ nonzero⟩
  · rintro ⟨whole, rfl⟩
    exact (Int.tdiv_mul_cancel whole).symm

end Decimal

/-- The value is the integer `n`, as a number or as the code of a char. -/
inductive Value.Denotes : Value → Int → Prop
  | integer (n : Integer) : Denotes (.integer n) n.value
  | char (c : Char) : Denotes (.char c) c.toNat
  | decimal {d : Decimal} {n : Int} : d.value = n → Denotes (.decimal d) n

namespace Value

variable {value fitted : Value} {n : Int} {kind : IntegerKind} {source : NumericKind} {ty : Ty}

/-! ### Constants as integers -/

/-- For an integer kind, what is read of the value is the integer that it denotes. -/
theorem Denotes.read (denotes : value.Denotes n) :
    ∃ number, value.number? = some number ∧ number.isWhole = true ∧
      ∀ kind, ofNumber number (.integer kind) = ofInt n kind := by
  cases denotes with
  | integer m => exact ⟨_, rfl, rfl, fun _ => rfl⟩
  | char c => exact ⟨_, rfl, rfl, fun _ => rfl⟩
  | decimal same =>
      obtain ⟨whole, rfl⟩ := Decimal.value_eq_iff_whole.mp same
      exact ⟨_, rfl, whole, fun _ => rfl⟩

theorem Denotes.unique {m : Int} (one : value.Denotes n) (other : value.Denotes m) : n = m := by
  cases one with
  | integer _ => cases other with | integer _ => rfl
  | char _ => cases other with | char _ => rfl
  | decimal same =>
      cases other with
      | decimal sameOther =>
          rw [same] at sameOther
          exact Int.cast_injective sameOther

theorem exact_cases (known : value.numericKind? = some source) (exact : source.isFloat = false) :
    (∃ m, value = .integer m) ∨ ∃ d, value = .decimal d := by
  cases value with
  | integer m => exact .inl ⟨m, rfl⟩
  | decimal d => exact .inr ⟨d, rfl⟩
  | float32 _ | float64 _ =>
      obtain rfl := Option.some.inj known
      simp [NumericKind.isFloat] at exact
  | _ => simp [numericKind?] at known

theorem present_of_numericKind (known : value.numericKind? = some source) : value.isNull = false :=
  (conforms_primitive rfl (conforms_of_numericKind known)).1

theorem fit?_underlying (present : value.isNull = false) (ty : Ty) :
    value.fit? ty = value.fit? ty.underlying := by
  rcases ty.eq_underlying_or with bare | optional
  · rw [← bare]
  · nth_rewrite 1 [optional]
    exact fit?_nullable present ty.underlying

/-- For an integer or a decimal it makes no difference whether it has the wanted kind already. -/
theorem fit?_numeric (known : value.numericKind? = some source) (exact : source.isFloat = false)
    (target : NumericKind) : value.fit? (.numeric target) = value.fitNumeric? target := by
  rw [fit?.eq_def]
  by_cases conforms : value.conforms (.numeric target) = true
  · rw [if_pos conforms]
    have same := conforms_numeric conforms
    rcases exact_cases known exact with ⟨m, rfl⟩ | ⟨d, rfl⟩
    · obtain rfl := Option.some.inj same
      have held : ofInt m.value m.kind = .ok (.integer m) := ofInt_of_holds m.holds
      simp [fitNumeric?, numeral?, numericKind?, number?, Number.isWhole, ofNumber, held,
        Except.toOption]
    · obtain rfl := Option.some.inj same
      rfl
  · rw [if_neg conforms, present_of_numericKind known]
    rfl

theorem fitNumeric?_of_denotes (known : value.numericKind? = some source)
    (denotes : value.Denotes n) :
    value.fitNumeric? (.integer kind) = (ofInt n kind).toOption := by
  obtain ⟨number, found, whole, same⟩ := denotes.read
  simp [fitNumeric?, numeral?, known, found, whole, same]

theorem denotes_of_fitNumeric? (known : value.numericKind? = some source)
    (exact : source.isFloat = false) (fits : value.fitNumeric? (.integer kind) = some fitted) :
    ∃ n, value.Denotes n := by
  rcases exact_cases known exact with ⟨m, rfl⟩ | ⟨d, rfl⟩
  · exact ⟨_, .integer m⟩
  · by_cases whole : d.isWhole = true
    · exact ⟨_, .decimal (Decimal.value_eq_iff_whole.mpr ⟨whole, rfl⟩)⟩
    · simp [fitNumeric?, numeral?, numericKind?, number?, Number.isWhole, whole,
        NumericKind.isInteger] at fits

theorem fit?_integer_type_iff (known : value.numericKind? = some source)
    (exact : source.isFloat = false) (integral : ty.underlying = .integer kind) :
    value.fit? ty = some fitted ↔
      ∃ n, ∃ held : kind.Holds n, value.Denotes n ∧ fitted = .integer ⟨kind, n, held⟩ := by
  rw [fit?_underlying (present_of_numericKind known), integral, fit?_numeric known exact]
  constructor
  · intro fits
    obtain ⟨n, denotes⟩ := denotes_of_fitNumeric? known exact fits
    rw [fitNumeric?_of_denotes known denotes] at fits
    by_cases held : kind.Holds n
    · rw [ofInt_of_holds held] at fits
      exact ⟨n, held, denotes, (Option.some.inj fits).symm⟩
    · rw [ofInt_of_not_holds held] at fits
      simp [Except.toOption] at fits
  · rintro ⟨n, held, denotes, rfl⟩
    rw [fitNumeric?_of_denotes known denotes, ofInt_of_holds held]
    rfl

/-- A constant that fits a type is a constant of it and fits it as it is, unless null is added to a
type that has it. An integer or a decimal fits an integer type if and only if it has no fraction and is
one of the integers of the kind, and it becomes that integer. -/
theorem literal_fits_exactly (value : Value) (ty : Ty) :
    ((ty.isNullable = true →
        ty.underlying.isValueType = true ∧ ty.underlying.isNullable = false) →
      ∀ fitted, value.fit? ty = some fitted →
        fitted.conforms ty = true ∧ fitted.fit? ty = some fitted ∧
        Expr.literalAs fitted ty = .ok (.constant fitted ty)) ∧
    ∀ source kind, value.numericKind? = some source → source.isFloat = false →
      ty.underlying = .integer kind → ∀ fitted,
        (value.fit? ty = some fitted ↔
          ∃ n, ∃ held : kind.Holds n, value.Denotes n ∧ fitted = .integer ⟨kind, n, held⟩) := by
  refine ⟨?_, ?_⟩
  · intro proper fitted fits
    have conforms := fit?_conforms_proper fits proper
    refine ⟨conforms, ?_, ?_⟩
    · rw [fit?.eq_def, if_pos conforms]
    · rw [Expr.literalAs, if_pos conforms]
  · intro source kind known exact integral fitted
    exact fit?_integer_type_iff known exact integral

end Value

namespace Fare

def amount : Value :=
  .decimal ⟨false, 3000, 1, by decide, by decide⟩

theorem amount_denotes : amount.Denotes 300 :=
  .decimal (Decimal.value_eq_iff_whole.mpr ⟨rfl, rfl⟩)

theorem amount_fits_exactly :
    (∃ held, amount.fit? (.nullable (.integer .u16)) = some (.integer ⟨.u16, 300, held⟩) ∧
      Value.conforms (.integer ⟨.u16, 300, held⟩) (.nullable (.integer .u16)) = true) ∧
    ∀ fitted, amount.fit? (.integer .u8) ≠ some fitted := by
  have u16 := Value.literal_fits_exactly amount (.nullable (.integer .u16))
  have u8 := Value.literal_fits_exactly amount (.integer .u8)
  have held : IntegerKind.u16.Holds 300 := by decide
  have fits := (u16.2 .decimal .u16 rfl rfl rfl _).mpr ⟨300, held, amount_denotes, rfl⟩
  refine ⟨⟨held, fits, (u16.1 (fun _ => ⟨rfl, rfl⟩) _ fits).1⟩, ?_⟩
  intro fitted small
  obtain ⟨n, held, denotes, -⟩ := (u8.2 .decimal .u8 rfl rfl rfl fitted).mp small
  obtain rfl := denotes.unique amount_denotes
  exact absurd held (by decide)

end Fare

/-! ### Constants and conversions at run time -/

namespace Conversion

theorem isPrimitive_bare {ty : Ty} (primitive : isPrimitive ty = true) :
    ty.isValueType = true ∧ ty.isNullable = false ∧ ty.isNull = false := by
  cases ty <;> simp_all [isPrimitive, Ty.isValueType, Ty.isNullable, Ty.isNull]

/-- When asked for, there is a conversion from every primitive type to every other, with or without
null. -/
theorem plan?_explicit {source ty : Ty} (primitive : isPrimitive source = true)
    (target : isPrimitive ty.underlying = true) (apart : source.assignable ty = false) :
    plan? false source ty = toPrimitive? ty.underlying := by
  have targets := ty.eq_underlying_or
  generalize ty.underlying = inner at target targets
  obtain ⟨_, bareSource, notNull⟩ := isPrimitive_bare primitive
  obtain ⟨valueType, bareInner, _⟩ := isPrimitive_bare target
  have directly (unassigned : source.assignable inner = false) :
      fromBare? false source inner = toPrimitive? inner := by
    rw [fromBare_of_bare bareInner, direct?]
    simp [unassigned, notNull, primitive, target, primitive?]
  rw [plan_of_bare bareSource]
  rcases targets with rfl | rfl
  · exact directly apart
  · rw [fromBare?, if_neg (Bool.eq_false_iff.mp apart)]
    apply directly
    -- A type that can stand for the one inside could stand for the one with null.
    rw [Bool.eq_false_iff] at apart ⊢
    intro assigned
    have same := Ty.eq_of_assignable_value valueType bareInner assigned
    exact apart (Ty.StandsFor.assignable (.nullable same))

theorem toEnum_of_holds {decl : EnumType} {n : Int} (held : decl.underlying.Holds n)
    (signed : IntegerKind.i64.Holds n) : toEnum decl (.integer n) = .ok (.enum decl n) := by
  rw [toEnum, Value.ofNumber, Value.ofInt_of_holds held, Result.ok_bind]
  simp [Value.signed?, Value.number?, signed]

theorem toEnum_of_not_holds {decl : EnumType} {n : Int} (beyond : ¬decl.underlying.Holds n) :
    toEnum decl (.integer n) = .error (.overflow (toString n) (.integer decl.underlying)) := by
  rw [toEnum, Value.ofNumber, Value.ofInt_of_not_holds beyond]
  rfl

end Conversion

namespace Value

variable {value fitted : Value} {source : NumericKind} {ty : Ty}

def Representable : Value → Prop
  | .enum decl discriminant => decl.underlying.Holds discriminant
  | _ => True

theorem fit?_enum (known : value.numericKind? = some source) (exact : source.isFloat = false)
    (decl : EnumType) :
    value.fit? (.enum decl) = some fitted ↔
      ∃ n, value.number? = some (.integer n) ∧ IntegerKind.i64.Holds n ∧
        fitted = .enum decl n := by
  rcases exact_cases known exact with ⟨m, rfl⟩ | ⟨d, rfl⟩
  · have looked : fit? (.integer m) (.enum decl) =
        if IntegerKind.i64.Holds m.value then some (.enum decl m.value) else none := rfl
    rw [looked]
    simp [number?, eq_comm]
  · have looked : fit? (.decimal d) (.enum decl) = none := rfl
    rw [looked]
    simp [number?]

theorem fitNumeric?_agrees {kind : NumericKind} (present : value.isNull = false)
    (fits : value.fitNumeric? kind = some fitted) (host : Host) :
    (Conversion.numeric kind).apply host value = .ok fitted ∧ fitted.Representable := by
  obtain ⟨number, read, made⟩ := fitNumeric?_eq_some fits
  have kept := (ofNumber_meets number kind).yields fitted made
  refine ⟨(Conversion.apply_numeric present read kind).trans made, ?_⟩
  cases fitted <;> simp_all [numericKind?, Representable]

/-- Where an integer or a decimal fits a numeric type or an enumeration without being a value of it,
there is a conversion to the type. It gives the same value, if the discriminant of an enum value is one
of the underlying kind; any other discriminant it refuses. -/
theorem literal_agrees_with_conversion (known : value.numericKind? = some source)
    (exact : source.isFloat = false)
    (target : (∃ kind, ty.underlying = .numeric kind) ∨ ∃ decl, ty.underlying = .enum decl)
    (fits : value.fit? ty = some fitted) (unfit : value.conforms ty = false) :
    ∃ conversion, Conversion.plan? false value.typeOf ty = some conversion ∧ ∀ host,
      (conversion.apply host value = .ok fitted ↔ fitted.Representable) ∧
      (¬fitted.Representable → ∃ decl discriminant, fitted = .enum decl discriminant ∧
        conversion.apply host value =
          .error (.overflow (toString discriminant) (.integer decl.underlying))) := by
  have present := present_of_numericKind known
  have primitive : Conversion.isPrimitive value.typeOf = true := by
    rcases exact_cases known exact with ⟨m, rfl⟩ | ⟨d, rfl⟩ <;> rfl
  have primitiveTarget : Conversion.isPrimitive ty.underlying = true := by
    rcases target with ⟨kind, typed⟩ | ⟨decl, typed⟩ <;> rw [typed] <;> rfl
  rw [Conversion.plan?_explicit primitive primitiveTarget unfit]
  rw [fit?_underlying present] at fits
  rcases target with ⟨kind, typed⟩ | ⟨decl, typed⟩
  · rw [typed, fit?_numeric known exact] at fits
    rw [typed]
    refine ⟨_, rfl, ?_⟩
    intro host
    obtain ⟨applied, representable⟩ := fitNumeric?_agrees present fits host
    exact ⟨iff_of_true applied representable, absurd representable⟩
  · -- Of the constant no more is checked than that it has 64 bits.
    rw [typed, fit?_enum known exact] at fits
    obtain ⟨n, read, signed, rfl⟩ := fits
    rw [typed]
    refine ⟨_, rfl, ?_⟩
    intro host
    rw [Conversion.apply, Conversion.operand_eq present read, Result.ok_bind]
    by_cases held : decl.underlying.Holds n
    · exact ⟨iff_of_true (Conversion.toEnum_of_holds held signed) held, absurd held⟩
    · have refused := Conversion.toEnum_of_not_holds held
      refine ⟨iff_of_false ?_ held, ?_⟩
      · rw [refused]
        simp
      · intro _
        exact ⟨decl, n, rfl, refused⟩

end Value

namespace Fare

def zone : EnumType :=
  ⟨"Zone", .u8, [("Inner", 1), ("Outer", 255)]⟩

def outer : Value :=
  .integer ⟨.i32, 255, by decide⟩

def beyond : Value :=
  .integer ⟨.i32, 300, by decide⟩

theorem outer_agrees_with_conversion :
    outer.fit? (.nullable (.enum zone)) = some (.enum zone 255) ∧
    outer.conforms (.nullable (.enum zone)) = false ∧
    ∃ conversion, Conversion.plan? false outer.typeOf (.nullable (.enum zone)) = some conversion ∧
      ∀ host, conversion.apply host outer = .ok (.enum zone 255) := by
  have fits : outer.fit? (.nullable (.enum zone)) = some (.enum zone 255) := rfl
  have unfit : outer.conforms (.nullable (.enum zone)) = false := rfl
  obtain ⟨conversion, planned, agrees⟩ :=
    Value.literal_agrees_with_conversion rfl rfl (.inr ⟨zone, rfl⟩) fits unfit
  have held : Value.Representable (.enum zone 255) := by
    show IntegerKind.u8.Holds 255
    decide
  exact ⟨fits, unfit, conversion, planned, fun host => (agrees host).1.mpr held⟩

/-- As a constant, 300 becomes a value of an enumeration over 8 bits; a conversion refuses it. -/
theorem beyond_disagrees_with_conversion :
    beyond.fit? (.enum zone) = some (.enum zone 300) ∧
    Conversion.plan? false beyond.typeOf (.enum zone) = some (.enum zone) ∧
    ∀ host, (Conversion.enum zone).apply host beyond =
      .error (.overflow "300" (.integer .u8)) :=
  ⟨rfl, rfl, fun _ => rfl⟩

end Fare

end RowQuery
