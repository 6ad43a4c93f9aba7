import RowQuery.Proofs.Conversion.Gentle
import RowQuery.Proofs.Conversion.Literals

/-!
The numbers that implicit conversions make of integers and chars. A kind that integers widen to has
room for them, so the conversion gives the same integer, also as a decimal. Chars widen to the unsigned
integers of 16 bits too, which the codes of most chars exceed: such a char is refused at run time.
-/

namespace RowQuery

/-! ### Conversions that widen a number -/

theorem Ty.underlying_of_assignable {source ty : Ty} {kind : NumericKind}
    (target : ty.underlying = .numeric kind) (notNull : source.isNull = false)
    (assigned : source.assignable ty = true) : source.underlying = .numeric kind := by
  cases standsFor_of_assignable assigned with
  | same equal =>
      rcases ty.eq_underlying_or with bare | optional
      · rw [bare, target] at equal
        rw [eq_of_beq_plain rfl equal]
        rfl
      · rw [optional, target, beq_eq_same] at equal
        cases source with
        | nullable inner => exact eq_of_beq_plain rfl (by rwa [beq_eq_same])
        | _ => simp [same] at equal
  | null _ => simp [isNull] at notNull
  | nullable equal =>
      rw [underlying] at target
      subst target
      rw [eq_of_beq_plain rfl equal]
      rfl
  | any | enumerable | sequence _ _ | record _ => simp [underlying] at target

namespace Conversion

variable {value : Value} {source ty : Ty} {kind : NumericKind} {conversion : Conversion}

theorem widens_decimal (ty : Ty) : widens (.numeric .decimal) ty = false := by
  cases ty <;> rfl

/-- Through an implicit conversion to a numeric type, with or without null, a value stays as it is or
is widened. -/
theorem Gentle.apply_eq (gentle : Gentle Listed source ty conversion)
    (primitive : isPrimitive value.typeOf = true) (typed : source.underlying = value.typeOf)
    (target : ty.underlying = .numeric kind) :
    (value.typeOf = .numeric kind ∧ ∀ host, conversion.apply host value = .ok value) ∨
      (widens value.typeOf (.numeric kind) = true ∧
        ∀ host, conversion.apply host value = (Conversion.numeric kind).apply host value) := by
  induction gentle with
  | @reference source ty assigned =>
      have notNull : source.isNull = false := by
        rw [← typed] at primitive
        cases source <;> simp_all [isPrimitive, Ty.underlying, Ty.isNull]
      have same := Ty.underlying_of_assignable target notNull assigned
      exact .inl ⟨typed.symm.trans same, fun _ => rfl⟩
  | @numeric source wider listed =>
      have widening : widens source (.numeric wider) = true := listed
      have bare := (isPrimitive_bare (isPrimitive_of_widens widening).1).2.1
      rw [Ty.underlying_of_bare bare] at typed
      obtain rfl : wider = kind := by simpa [Ty.underlying] using target
      rw [typed] at widening
      exact .inr ⟨widening, fun _ => rfl⟩
  -- A declaration needs a record on one side.
  | declared found _ =>
      rcases declared?_cases found with ⟨decl, rfl, _⟩ | ⟨decl, rfl, _⟩
      · rw [← typed] at primitive
        simp [isPrimitive, Ty.underlying] at primitive
      · simp [Ty.underlying] at target
  | intoNullable inner ih =>
      rw [Ty.underlying] at target
      exact ih typed (by rw [target]; rfl)
  | @lifted source ty conversion inner ih =>
      rw [Ty.underlying] at typed target
      have present := (Value.conforms_primitive primitive value.conforms_typeOf).1
      have applied (host : Host) :
          (Conversion.lifted conversion).apply host value = conversion.apply host value := by
        rw [apply, present]
        rfl
      simp only [applied]
      refine ih ?_ ?_
      · rw [typed]
        exact Ty.underlying_of_bare value.bare_typeOf
      · rw [target]
        rfl

theorem Gentle.apply_null (gentle : Gentle Listed source ty conversion)
    (optional : source.isNullable = true) (target : ty.underlying = .numeric kind) (host : Host) :
    conversion.apply host .null = .ok .null := by
  induction gentle with
  | reference assigned => rfl
  | numeric widening =>
      have bare := (isPrimitive_bare (isPrimitive_of_widens widening).1).2.1
      simp [bare] at optional
  | declared found _ =>
      rcases declared?_cases found with ⟨decl, rfl, _⟩ | ⟨decl, rfl, _⟩
      · simp [Ty.isNullable] at optional
      · simp [Ty.underlying] at target
  | intoNullable inner ih =>
      rw [Ty.underlying] at target
      exact ih optional (by rw [target]; rfl)
  | lifted inner ih => rfl

end Conversion

/-! ### The widened number -/

theorem Decimal.ofInt?_eq {n : Int} (small : n.natAbs < mantissaLimit) :
    ∃ d, ofInt? n = some d ∧ d.value = n := by
  refine ⟨_, dif_pos ⟨small, by decide⟩, ?_⟩
  rw [value_eq_iff]
  change (if decide (n < 0) then -(n.natAbs : Int) else n.natAbs) = n * (1 : Nat)
  by_cases negative : n < 0
  · rw [decide_eq_true negative, if_pos rfl]
    omega
  · rw [decide_eq_false negative, if_neg Bool.false_ne_true]
    omega

theorem charCode_lt (c : Char) : c.toNat < 1114112 := by
  have valid := c.valid
  rw [UInt32.isValidChar, Char.toNat_val] at valid
  omega

/-- The integer kinds that chars widen to have the codes of all chars, but for the one of 16 bits. -/
theorem charWidenings_reach {wider : IntegerKind}
    (widening : charWidenings.contains (.integer wider) = true) :
    wider.least ≤ 0 ∧ (1114111 ≤ wider.greatest ∨ wider = .u16) := by
  revert widening
  cases wider <;> decide

namespace Value

variable {value : Value} {n : Int} {kind : NumericKind}

theorem Denotes.primitive (denotes : value.Denotes n) :
    Conversion.isPrimitive value.typeOf = true := by
  cases denotes <;> rfl

theorem Denotes.present (denotes : value.Denotes n) : value.isNull = false := by
  cases denotes <;> rfl

theorem Denotes.number_of_widens {ty : Ty} (denotes : value.Denotes n)
    (widening : Conversion.widens value.typeOf ty = true) :
    value.number? = some (.integer n) ∧ n.natAbs < 18446744073709551616 := by
  cases denotes with
  | integer m => exact ⟨rfl, m.natAbs_lt⟩
  | char c =>
      have bound := charCode_lt c
      exact ⟨rfl, by omega⟩
  | decimal same => simp [typeOf, Conversion.widens_decimal] at widening

theorem Denotes.holds_of_widens {wider : IntegerKind} (denotes : value.Denotes n)
    (widening : Conversion.widens value.typeOf (.integer wider) = true)
    (narrow : ∀ c, value = .char c → wider = .u16 → n ≤ 65535) : wider.Holds n := by
  cases denotes with
  | integer m =>
      have inside : (NumericKind.integer m.kind).within (.integer wider) = true := by
        have listed : (NumericKind.integer m.kind).widensTo (.integer wider) = true := widening
        simp [NumericKind.within, listed]
      exact IntegerKind.covers_iff_within.mpr inside m.value m.holds
  | char c =>
      have bound := charCode_lt c
      obtain ⟨least, greatest | rfl⟩ := charWidenings_reach widening
      · exact ⟨by omega, by omega⟩
      · have small : IntegerKind.u16.greatest = 65535 := rfl
        have fits := narrow c rfl rfl
        exact ⟨by omega, by omega⟩
  | decimal same => simp [typeOf, Conversion.widens_decimal] at widening

theorem Denotes.widened (denotes : value.Denotes n)
    (widening : Conversion.widens value.typeOf (.numeric kind) = true) (exact : kind.isFloat = false)
    (narrow : ∀ c, value = .char c → kind = .integer .u16 → n ≤ 65535) (host : Host) :
    ∃ widened, (Conversion.numeric kind).apply host value = .ok widened ∧ widened.Denotes n ∧
      widened.numericKind? = some kind := by
  obtain ⟨read, small⟩ := denotes.number_of_widens widening
  rw [Conversion.apply_numeric denotes.present read]
  cases kind with
  | integer wider =>
      have held := denotes.holds_of_widens widening fun c isChar same => narrow c isChar (by rw [same])
      exact ⟨_, ofInt_of_holds held, .integer ⟨wider, n, held⟩, rfl⟩
  | decimal =>
      obtain ⟨d, made, same⟩ := Decimal.ofInt?_eq (Nat.lt_of_lt_of_le small (by decide))
      refine ⟨.decimal d, ?_, .decimal same, rfl⟩
      simp only [ofNumber, made]
  | f32 | f64 => simp [NumericKind.isFloat] at exact

theorem Denotes.refused (denotes : value.Denotes n)
    (widening : Conversion.widens value.typeOf (.integer .u16) = true) (beyond : 65535 < n)
    (host : Host) :
    (Conversion.numeric (.integer .u16)).apply host value =
      .error (.overflow (toString n) (.integer .u16)) := by
  have small : IntegerKind.u16.greatest = 65535 := rfl
  have unheld : ¬IntegerKind.u16.Holds n := by
    rintro ⟨_, greatest⟩
    omega
  rw [Conversion.apply_numeric denotes.present (denotes.number_of_widens widening).1]
  exact ofInt_of_not_holds unheld

theorem conforms_of_underlying {ty : Ty} (known : value.numericKind? = some kind)
    (target : ty.underlying = .numeric kind) : value.conforms ty = true := by
  rcases ty.eq_underlying_or with bare | optional
  · rw [bare, target]
    exact conforms_of_numericKind known
  · rw [optional, target]
    exact conforms_number known true

/-- Where an integer or a char converts implicitly to an integer or decimal type, with or without null,
it becomes the same integer of that type, and null stays null. The one exception are the chars whose
codes have more than 16 bits: to the unsigned integers of 16 bits they convert too, and are refused. -/
theorem implicit_widening_exact {source ty : Ty} {conversion : Conversion} (denotes : value.Denotes n)
    (typed : source.underlying = value.typeOf) (target : ty.underlying = .numeric kind)
    (exact : kind.isFloat = false) (planned : Conversion.plan? true source ty = some conversion)
    (host : Host) :
    ((∃ widened, conversion.apply host value = .ok widened ∧ widened.Denotes n ∧
        widened.conforms ty = true) ↔
      ∀ c, value = .char c → kind = .integer .u16 → n ≤ 65535) ∧
    (∀ c, value = .char c → kind = .integer .u16 → 65535 < n →
      conversion.apply host value = .error (.overflow (toString n) (.integer .u16))) ∧
    (source.isNullable = true → conversion.apply host .null = .ok .null) := by
  have gentle := Conversion.plan?_gentle planned
  rw [← and_assoc]
  refine ⟨?_, fun optional => gentle.apply_null optional target host⟩
  rcases gentle.apply_eq denotes.primitive typed target with ⟨sameType, kept⟩ | ⟨widens, applied⟩
  · -- The value has the kind already, and so is no char.
    have notChar (c : Char) : value ≠ .char c := by
      rintro rfl
      simp [typeOf] at sameType
    have known : value.numericKind? = some kind := conforms_numeric (by simp [← sameType])
    refine ⟨iff_of_true ?_ ?_, ?_⟩
    · exact ⟨value, kept host, denotes, conforms_of_underlying known target⟩
    · exact fun c isChar => absurd isChar (notChar c)
    · exact fun c isChar => absurd isChar (notChar c)
  · rw [applied host]
    refine ⟨⟨?_, ?_⟩, ?_⟩
    · rintro ⟨widened, made, _, _⟩ c _ rfl
      by_contra beyond
      rw [denotes.refused widens (Int.not_le.mp beyond) host] at made
      simp at made
    · intro narrow
      obtain ⟨widened, made, same, known⟩ := denotes.widened widens exact narrow host
      exact ⟨widened, made, same, conforms_of_underlying known target⟩
    · rintro c _ rfl beyond
      exact denotes.refused widens beyond host

theorem implicit_widening_exact_last :
    Conversion.plan? true (.nullable .char) (.nullable (.integer .u16)) =
      some (.lifted (.numeric (.integer .u16))) ∧
    ∀ host, (∃ widened, (Conversion.lifted (.numeric (.integer .u16))).apply host (.char '\uffff') =
        .ok widened ∧ widened.Denotes 65535 ∧ widened.conforms (.nullable (.integer .u16)) = true) ∧
      (Conversion.lifted (.numeric (.integer .u16))).apply host .null = .ok .null := by
  have planned : Conversion.plan? true (.nullable .char) (.nullable (.integer .u16)) =
      some (.lifted (.numeric (.integer .u16))) := rfl
  have denotes : (Value.char '\uffff').Denotes 65535 := .char '\uffff'
  refine ⟨planned, ?_⟩
  intro host
  obtain ⟨succeeds, _, absent⟩ := implicit_widening_exact denotes rfl rfl rfl planned host
  exact ⟨succeeds.mpr fun _ _ _ => Int.le_refl _, absent rfl⟩

/-- A char of 17 bits converts implicitly to the integers of 16 bits, and overflows. -/
theorem implicit_widening_overflows :
    Conversion.plan? true .char (.integer .u16) = some (.numeric (.integer .u16)) ∧
    ∀ host, (Conversion.numeric (.integer .u16)).apply host (.char '😀') =
      .error (.overflow "128512" (.integer .u16)) :=
  ⟨rfl, fun _ => rfl⟩

end Value

end RowQuery
