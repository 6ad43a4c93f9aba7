import RowQuery.Proofs.Standard.Operators

/-!
Formulas of integers and the numeric types that they can be bound with. A formula has room in an
integer kind if its literals, the kinds of its fields and the kinds that its operands are combined in
have; it can be bound with exactly the integer types that it has room in.
-/

namespace RowQuery

/-! ### Kinds -/

def IntegerKind.Covers (outer inner : IntegerKind) : Prop :=
  ∀ n, inner.Holds n → outer.Holds n

def NumericKind.within (inner outer : NumericKind) : Bool :=
  inner == outer || inner.widensTo outer

theorem IntegerKind.covers_iff_holds {outer inner : IntegerKind} :
    outer.Covers inner ↔ outer.Holds inner.least ∧ outer.Holds inner.greatest := by
  constructor
  · intro covers
    have ends : inner.Holds inner.least ∧ inner.Holds inner.greatest := by
      cases inner <;> decide
    exact ⟨covers _ ends.1, covers _ ends.2⟩
  · rintro ⟨low, high⟩ n ⟨least, greatest⟩
    exact ⟨Int.le_trans low.1 least, Int.le_trans greatest high.2⟩

/-- Integers widen to an integer kind exactly if it covers theirs. -/
theorem IntegerKind.covers_iff_within {outer inner : IntegerKind} :
    outer.Covers inner ↔ (NumericKind.integer inner).within (.integer outer) = true := by
  rw [covers_iff_holds]
  cases outer <;> cases inner <;> decide

namespace NumericKind

theorem integer_of_within {inner : NumericKind} {outer : IntegerKind}
    (inside : inner.within (.integer outer) = true) :
    ∃ kind, inner = .integer kind ∧ outer.Covers kind := by
  cases inner with
  | integer kind => exact ⟨kind, rfl, IntegerKind.covers_iff_within.mpr inside⟩
  | f32 | f64 | decimal => simp [within, widensTo, widenings] at inside

theorem within_of_not_integer (inner : IntegerKind) {outer : NumericKind}
    (fractional : outer.isInteger = false) : (integer inner).within outer = true := by
  cases outer with
  | integer _ => simp [isInteger] at fractional
  | f32 | f64 | decimal => cases inner <;> rfl

theorem not_integer_of_within {inner outer : NumericKind} (fractional : inner.isInteger = false)
    (inside : inner.within outer = true) : outer.isInteger = false := by
  cases outer with
  | integer kind =>
      obtain ⟨small, rfl, _⟩ := integer_of_within inside
      simp [isInteger] at fractional
  | f32 | f64 | decimal => rfl

theorem ne_decimal_of_within {inner outer : NumericKind} (notDecimal : outer ≠ .decimal)
    (inside : inner.within outer = true) : inner ≠ .decimal := by
  rintro rfl
  cases outer <;> simp [within, widensTo, widenings] at notDecimal inside

end NumericKind

/-! ### Numeric types -/

theorem Ty.underlying_number (optional : Bool) (kind : NumericKind) :
    (Ty.number optional kind).underlying = .numeric kind := by
  cases optional <;> rfl

theorem Ty.number_inj {a b : Bool} {j k : NumericKind} (same : Ty.number a j = .number b k) :
    a = b ∧ j = k := by
  cases a <;> cases b <;> simp_all [Ty.number]

theorem Ty.number_of_underlying {ty : Ty} {kind : NumericKind} (typed : ty.underlying = .numeric kind) :
    ty = .number ty.isNullable kind := by
  cases ty with
  | numeric _ => exact typed
  | nullable inner => exact congrArg Ty.nullable typed
  | _ => simp [Ty.underlying] at typed

theorem Ty.underlying_of_isIntegral {ty : Ty} (integral : ty.isIntegral = true) :
    ∃ kind, ty.underlying = .integer kind := by
  obtain ⟨kind, rfl | rfl⟩ := Ty.isIntegral_cases integral
  · exact ⟨kind, rfl⟩
  · exact ⟨kind, rfl⟩

namespace Conversion

theorem can_numeric (inner outer : NumericKind) :
    can true (.numeric inner) (.numeric outer) = inner.within outer := by
  have assigned : (Ty.numeric inner).assignable (.numeric outer) = (inner == outer) := by
    simp [Ty.assignable, Ty.beq_eq_same, Ty.same]
  simp only [can, plan?, fromBare?, direct?, assigned, NumericKind.within]
  cases inner == outer with
  | true => rfl
  | false => cases widening : inner.widensTo outer <;>
      simp [Ty.isNull, isPrimitive, primitive?, widens, toPrimitive?, widening]

/-- Null can be added on the way, but not taken away. -/
theorem can_number (a b : Bool) (inner outer : NumericKind) :
    can true (.number a inner) (.number b outer) = ((!a || b) && inner.within outer) := by
  have bare := can_numeric inner outer
  simp only [can, plan?, fromBare?] at bare
  have intoNull : (Ty.numeric inner).assignable (.nullable (.numeric outer)) = (inner == outer) := by
    simp [Ty.assignable, Ty.beq_eq_same, Ty.same]
  have lifted : (Ty.nullable (.numeric inner)).assignable (.nullable (.numeric outer)) =
      (inner == outer) := by
    simp [Ty.assignable, Ty.beq_eq_same, Ty.same]
  cases a <;> cases b
  · exact bare
  · simp only [Ty.number, can, plan?, fromBare?, intoNull]
    cases same : inner == outer <;> simp_all [NumericKind.within]
  · rfl
  · simp only [Ty.number, can, plan?, fromBare?, lifted]
    cases same : inner == outer <;> simp_all [NumericKind.within]

theorem can_bool_number (optional : Bool) (kind : NumericKind) :
    can true .bool (.number optional kind) = false := by
  cases optional <;> rfl

end Conversion

namespace Standard

theorem operand_cases {ty : Ty} (listed : rank ty < 25) :
    (∃ optional kind, ty = .number optional kind) ∨ ty = .string ∨ ty = .dateTime ∨ ty = .bool := by
  cases ty with
  | numeric kind => exact .inl ⟨false, kind, rfl⟩
  | nullable inner =>
      cases inner with
      | numeric kind => exact .inl ⟨true, kind, rfl⟩
      | _ => simp [rank] at listed
  | string | dateTime | bool => simp
  | _ => simp [rank] at listed

theorem isDefined_binary {op : BinaryOp} (numeric : op.isLogical = false) (kind : NumericKind) :
    (Operation.binary op numeric).isDefined (.numeric kind) = true := by
  cases op <;> first | rfl | simp [BinaryOp.isLogical] at numeric

theorem isDefined_f64 (operation : Operation) : operation.isDefined .f64 = true := by
  cases operation with
  | negation => rfl
  | binary op numeric => exact isDefined_binary numeric .f64

/-- Arithmetic is defined for numbers only. -/
theorem Takes.number {settings : FunctionSettings} {operation : Operation} {ty : Ty}
    (standard : settings.standardLibrary = true) (takes : Takes settings operation ty)
    (arithmetic : operation.isArithmetic = true) :
    ∃ optional kind, ty = .number optional kind ∧ operation.isDefined (.numeric kind) = true := by
  obtain ⟨_, defined⟩ := takes.isOperand
  have numeric : ty.underlying.numericKind? ≠ none := by
    intro plain
    cases operation with
    | negation => simp [Operation.isDefined, Expr.unaryDefined, plain] at defined
    | binary op _ =>
        have isArithmetic : op.isArithmetic = true := arithmetic
        simp [Operation.isDefined, Expr.binaryDefined, isArithmetic, plain] at defined
  rcases operand_cases (takes.rank_lt standard) with ⟨optional, kind, rfl⟩ | rfl | rfl | rfl
  · rw [operation.isDefined_number] at defined
    exact ⟨optional, kind, rfl, defined⟩
  all_goals exact absurd rfl numeric

end Standard

/-! ### Formulas of integers -/

namespace Formula

variable (compiler : Compiler) (target : Expr)

inductive OfIntegers : Formula → Prop
  | literal (n : Integer) : OfIntegers (.constant (.integer n))
  | field {path : String} {leaf : Expr} : compiler.resolvePath target path = .ok leaf →
      leaf.ty.isIntegral = true → OfIntegers (.field path)
  | call (operation : Standard.Operation) {args : List Formula} : args.length = operation.arity →
      (∀ arg ∈ args, OfIntegers arg) → OfIntegers (.call operation.symbol args)

inductive Optional : Formula → Prop
  | field {path : String} {leaf : Expr} : compiler.resolvePath target path = .ok leaf →
      leaf.ty.isNullable = true → Optional (.field path)
  | call {method : String} {args : List Formula} {arg : Formula} : arg ∈ args → Optional arg →
      Optional (.call method args)

/-- The kind has room for every value of the formula: for the literal, for each integer of the kind
that a field has, for each integer of a kind in which the operands can be combined. -/
inductive FitsIn : Formula → IntegerKind → Prop
  | literal {n : Integer} {kind : IntegerKind} : kind.Holds n.value →
      FitsIn (.constant (.integer n)) kind
  | field {path : String} {leaf : Expr} {inner kind : IntegerKind} :
      compiler.resolvePath target path = .ok leaf → leaf.ty.underlying = .integer inner →
      kind.Covers inner → FitsIn (.field path) kind
  | call {operation : Standard.Operation} {method : String} {args : List Formula}
      {inner kind : IntegerKind} : method = operation.symbol → args.length = operation.arity →
      operation.isArithmetic = true → operation.isDefined (.integer inner) = true →
      (∀ arg ∈ args, FitsIn arg inner) → kind.Covers inner → FitsIn (.call method args) kind

inductive LiteralFree : Formula → Prop
  | field (path : String) : LiteralFree (.field path)
  | call {method : String} {args : List Formula} : (∀ arg ∈ args, LiteralFree arg) →
      LiteralFree (.call method args)

variable {compiler} {target}

theorem FitsIn.mono {formula : Formula} {small wide : IntegerKind}
    (fits : formula.FitsIn compiler target small) (wider : wide.Covers small) :
    formula.FitsIn compiler target wide := by
  cases fits with
  | literal holds => exact .literal (wider _ holds)
  | field resolved typed covers => exact .field resolved typed fun n holds => wider n (covers n holds)
  | call named counted arithmetic defined fits covers =>
      exact .call named counted arithmetic defined fits fun n holds => wider n (covers n holds)

theorem FitsIn.operands {operation : Standard.Operation} {args : List Formula}
    (counted : args.length = operation.arity) {kind : IntegerKind}
    (fits : (Formula.call operation.symbol args).FitsIn compiler target kind) :
    operation.isArithmetic = true ∧ ∃ inner, operation.isDefined (.integer inner) = true ∧
      (∀ arg ∈ args, arg.FitsIn compiler target inner) ∧ kind.Covers inner := by
  cases fits with
  | call named counts arithmetic defined fits covers =>
      obtain rfl := Standard.Operation.eq_of_symbol named (counted.symm.trans counts)
      exact ⟨arithmetic, _, defined, fits, covers⟩

end Formula

/-! ### Literals and fields -/

namespace Value

/-- A constant that is not null fits a type with null as it fits the type without. -/
theorem fit?_nullable {value : Value} (present : value.isNull = false) (inner : Ty) :
    value.fit? (.nullable inner) = value.fit? inner := by
  rw [fit?.eq_def]
  split
  · rename_i conforms
    rcases conforms_nullable conforms with rfl | ⟨_, inside⟩
    · simp [isNull] at present
    · rw [fit?.eq_def, if_pos inside]
  · simp [present]

theorem fit?_number {value : Value} (present : value.isNull = false) (optional : Bool)
    (kind : NumericKind) : value.fit? (.number optional kind) = value.fit? (.numeric kind) := by
  cases optional with
  | false => rfl
  | true => exact fit?_nullable present (.numeric kind)

theorem fitNumeric?_eq_some {value fitted : Value} {kind : NumericKind}
    (fits : value.fitNumeric? kind = some fitted) :
    ∃ number, value.number? = some number ∧ ofNumber number kind = .ok fitted := by
  simp only [fitNumeric?, Option.bind_eq_bind, Option.bind_eq_some_iff, numeral?] at fits
  obtain ⟨number, read, fits⟩ := fits
  split at read
  · split at fits
    · simp at fits
    · exact ⟨number, read, Result.eq_ok_of_toOption fits⟩
  · simp at read

theorem numericKind_of_fit? {value fitted : Value} {kind : NumericKind}
    (fits : value.fit? (.numeric kind) = some fitted) : fitted.numericKind? = some kind := by
  rw [fit?.eq_def] at fits
  split at fits
  · rename_i conforms
    rw [← Option.some.inj fits]
    exact conforms_numeric conforms
  · split at fits
    · simp at fits
    · obtain ⟨number, _, made⟩ := fitNumeric?_eq_some fits
      exact (ofNumber_meets number kind).yields fitted made

theorem conforms_number {value : Value} {kind : NumericKind}
    (known : value.numericKind? = some kind) (optional : Bool) :
    value.conforms (.number optional kind) = true := by
  cases optional with
  | false => exact conforms_of_numericKind known
  | true =>
      cases value <;> simp [numericKind?] at known <;> subst known <;>
        simp [conforms, typeOf, Ty.number, Ty.assignable]

theorem fit?_integer_iff {n : Integer} {kind : IntegerKind} :
    (∃ fitted, (integer n).fit? (.integer kind) = some fitted) ↔ kind.Holds n.value := by
  constructor
  · rintro ⟨fitted, fits⟩
    have known := numericKind_of_fit? fits
    have same : (integer n).SameInteger fitted := fit?_integer rfl fits
    cases same with
    | @integer _ m sameValue =>
        simp only [numericKind?, Option.some.injEq, NumericKind.integer.injEq] at known
        rw [← sameValue, ← known]
        exact m.holds
  · intro holds
    rw [fit?.eq_def]
    split
    · exact ⟨_, rfl⟩
    · simp [isNull, fitNumeric?, numeral?, numericKind?, number?, Number.isWhole, ofNumber, ofInt,
        Integer.ofInt?, holds, Except.toOption]

end Value

namespace Compiler

variable {compiler : Compiler} {target : Expr}

theorem binds_literal_iff {n : Integer} {optional : Bool} {kind : NumericKind} :
    compiler.Binds target (.constant (.integer n)) (some (.number optional kind)) ↔
      ∃ fitted, (Value.integer n).fit? (.numeric kind) = some fitted := by
  have present : (Value.integer n).isNull = false := rfl
  have same := Value.fit?_number present optional kind
  simp only [Binds, binder, bindConstant, same, Except.ok.injEq]
  cases fits : (Value.integer n).fit? (.numeric kind) with
  | none => simp
  | some fitted =>
      have conforms := Value.conforms_number (Value.numericKind_of_fit? fits) optional
      simp [Expr.literalAs, conforms]

theorem binds_field_iff {path : String} {leaf : Expr}
    (resolved : compiler.resolvePath target path = .ok leaf) {expected : Option Ty} :
    compiler.Binds target (.field path) expected ↔ leaf.ty.Meets expected := by
  rw [← meet?_eq_some_iff]
  simp only [Binds, binder, bindField_expr, resolved, Except.ok.injEq, exists_eq_left']

theorem binds_integer_field_iff {path : String} {leaf : Expr}
    (resolved : compiler.resolvePath target path = .ok leaf) {inner : IntegerKind}
    (typed : leaf.ty.underlying = .integer inner) {optional : Bool} {kind : NumericKind} :
    compiler.Binds target (.field path) (some (.number optional kind)) ↔
      (leaf.ty.isNullable = true → optional = true) ∧
        (NumericKind.integer inner).within kind = true := by
  rw [binds_field_iff resolved, Ty.Meets, Ty.number_of_underlying typed, Conversion.can_number,
    ← Ty.number_of_underlying typed]
  cases leaf.ty.isNullable <;> simp

end Compiler

/-! ### Binding with a numeric type -/

open Standard

section

variable {settings : FunctionSettings} {compiler : Compiler} {target : Expr}
  (library : compiler.catalog = .ofSettings settings) (standard : settings.standardLibrary = true)

include library standard

/-- A call gives a number if all operands can be bound with one numeric type that its operator is
defined for, and which converts to the expected one. -/
theorem Compiler.binds_call_iff {operation : Operation} {args : List Formula}
    (counted : args.length = operation.arity) {optional : Bool} {kind : NumericKind} :
    compiler.Binds target (.call operation.symbol args) (some (.number optional kind)) ↔
      operation.isArithmetic = true ∧ ∃ lifted inner,
        operation.isDefined (.numeric inner) = true ∧ (lifted = true → optional = true) ∧
        inner.within kind = true ∧
        ∀ arg ∈ args, compiler.Binds target arg (some (.number lifted inner)) := by
  constructor
  · rintro ⟨expr, bound⟩
    obtain ⟨ty, operands, node, chosen, _⟩ := call_chosen library standard counted bound
    have meets := chosen.meets
    cases arithmetic : operation.isArithmetic with
    | false => simp [Operation.result, arithmetic, Ty.Meets, Conversion.can_bool_number] at meets
    | true =>
        obtain ⟨lifted, inner, rfl, defined⟩ := chosen.takes.number standard arithmetic
        simp only [Operation.result, arithmetic, if_true, Ty.Meets, Conversion.can_number,
          Bool.and_eq_true, Bool.or_eq_true, Bool.not_eq_true'] at meets
        refine ⟨rfl, lifted, inner, defined, ?_, meets.2, chosen.binds⟩
        intro isLifted
        simpa [isLifted] using meets.1
  · rintro ⟨arithmetic, lifted, inner, defined, lifts, inside, binds⟩
    refine call_binds library counted (takes_number standard lifted defined) binds ?_
    simp only [Operation.result, arithmetic, if_true, Ty.Meets, Conversion.can_number, inside]
    cases lifted <;> simp_all

namespace Formula

variable {formula : Formula}

theorem optional_of_binds (integers : formula.OfIntegers compiler target) {optional : Bool}
    {kind : NumericKind} (binds : compiler.Binds target formula (some (.number optional kind)))
    (nullable : formula.Optional compiler target) : optional = true := by
  induction integers generalizing optional kind with
  | literal n => cases nullable
  | field resolved integral =>
      cases nullable with
      | field again isNullable =>
          rw [resolved] at again
          obtain rfl := Except.ok.inj again
          obtain ⟨inner, typed⟩ := Ty.underlying_of_isIntegral integral
          exact ((Compiler.binds_integer_field_iff resolved typed).mp binds).1 isNullable
  | call operation counted _ ih =>
      cases nullable with
      | call inside nullable =>
          obtain ⟨_, lifted, inner, _, lifts, _, binds⟩ :=
            (Compiler.binds_call_iff library standard counted).mp binds
          exact lifts (ih _ inside (binds _ inside) nullable)

theorem fitsIn_of_binds (integers : formula.OfIntegers compiler target) {optional : Bool}
    {kind : IntegerKind}
    (binds : compiler.Binds target formula (some (.number optional (.integer kind)))) :
    formula.FitsIn compiler target kind := by
  induction integers generalizing optional kind with
  | literal n => exact .literal (Value.fit?_integer_iff.mp (Compiler.binds_literal_iff.mp binds))
  | field resolved integral =>
      obtain ⟨inner, typed⟩ := Ty.underlying_of_isIntegral integral
      obtain ⟨_, inside⟩ := (Compiler.binds_integer_field_iff resolved typed).mp binds
      exact .field resolved typed (IntegerKind.covers_iff_within.mpr inside)
  | call operation counted _ ih =>
      obtain ⟨arithmetic, lifted, inner, defined, _, inside, binds⟩ :=
        (Compiler.binds_call_iff library standard counted).mp binds
      obtain ⟨small, rfl, covers⟩ := NumericKind.integer_of_within inside
      exact .call rfl counted arithmetic defined (fun arg listed => ih arg listed (binds arg listed))
        covers

theorem FitsIn.binds {kind : IntegerKind} (fits : formula.FitsIn compiler target kind)
    {optional : Bool} (lifts : formula.Optional compiler target → optional = true) :
    compiler.Binds target formula (some (.number optional (.integer kind))) := by
  induction fits with
  | literal holds => exact Compiler.binds_literal_iff.mpr (Value.fit?_integer_iff.mpr holds)
  | field resolved typed covers =>
      exact (Compiler.binds_integer_field_iff resolved typed).mpr
        ⟨fun nullable => lifts (.field resolved nullable), IntegerKind.covers_iff_within.mp covers⟩
  | call named counted arithmetic defined _ covers ih =>
      subst named
      refine (Compiler.binds_call_iff library standard counted).mpr
        ⟨arithmetic, optional, .integer _, defined, id, IntegerKind.covers_iff_within.mp covers, ?_⟩
      exact fun arg inside => ih arg inside fun nullable => lifts (.call inside nullable)

/-- A formula that can be some number can be an integer of each kind that has room for it. -/
theorem FitsIn.binds_instead {common : IntegerKind} (fits : formula.FitsIn compiler target common)
    (integers : formula.OfIntegers compiler target) {optional : Bool} {kind : NumericKind}
    (binds : compiler.Binds target formula (some (.number optional kind))) :
    compiler.Binds target formula (some (.number optional (.integer common))) :=
  fits.binds library standard (optional_of_binds library standard integers binds)

theorem binds_f64 (integers : formula.OfIntegers compiler target) {optional : Bool}
    {kind : NumericKind} (binds : compiler.Binds target formula (some (.number optional kind))) :
    compiler.Binds target formula (some (.number optional .f64)) := by
  induction integers generalizing optional kind with
  | literal n =>
      rw [Compiler.binds_literal_iff, Value.fit?.eq_def]
      split
      · exact ⟨_, rfl⟩
      · exact ⟨.float64 (Float.ofInt n.value), rfl⟩
  | field resolved integral =>
      obtain ⟨inner, typed⟩ := Ty.underlying_of_isIntegral integral
      obtain ⟨lifts, _⟩ := (Compiler.binds_integer_field_iff resolved typed).mp binds
      exact (Compiler.binds_integer_field_iff resolved typed).mpr
        ⟨lifts, NumericKind.within_of_not_integer inner rfl⟩
  | call operation counted _ ih =>
      obtain ⟨arithmetic, lifted, inner, _, lifts, _, binds⟩ :=
        (Compiler.binds_call_iff library standard counted).mp binds
      exact (Compiler.binds_call_iff library standard counted).mpr ⟨arithmetic, lifted, .f64,
        isDefined_f64 operation, lifts, rfl, fun arg listed => ih arg listed (binds arg listed)⟩

/-- The operators on texts and date-times are not for integers. -/
theorem not_binds_other (integers : formula.OfIntegers compiler target) {ty : Ty}
    (other : ty = .string ∨ ty = .dateTime) : ¬ compiler.Binds target formula (some ty) := by
  have numbersApart (optional : Bool) (kind : NumericKind) :
      ¬ (Ty.number optional kind).Meets (some ty) := by
    rcases other with rfl | rfl <;> cases optional <;> exact Bool.false_ne_true
  have truthsApart : ¬ Ty.bool.Meets (some ty) := by
    rcases other with rfl | rfl <;> exact Bool.false_ne_true
  rintro ⟨expr, bound⟩
  cases integers with
  | literal n =>
      have unfit : (Value.integer n).fit? ty = none := by
        rw [Value.fit?.eq_def]
        rcases other with rfl | rfl <;> rfl
      simp [Compiler.binder, Compiler.bindConstant, unfit] at bound
  | field resolved integral =>
      obtain ⟨inner, typed⟩ := Ty.underlying_of_isIntegral integral
      have meets := (Compiler.binds_field_iff resolved).mp ⟨expr, bound⟩
      rw [Ty.number_of_underlying typed] at meets
      exact numbersApart _ _ meets
  | call operation counted _ =>
      obtain ⟨operand, _, _, chosen, _⟩ := call_chosen library standard counted bound
      have meets := chosen.meets
      cases arithmetic : operation.isArithmetic with
      | true =>
          obtain ⟨optional, kind, rfl, _⟩ := chosen.takes.number standard arithmetic
          simp only [Operation.result, arithmetic, if_true] at meets
          exact numbersApart optional kind meets
      | false =>
          simp only [Operation.result, arithmetic, Bool.false_eq_true, if_false] at meets
          exact truthsApart meets

theorem operand_of_binds (integers : formula.OfIntegers compiler target) {ty : Ty}
    (listed : rank ty < 25) (binds : compiler.Binds target formula (some ty)) :
    ty = .bool ∨ ∃ optional kind, ty = .number optional kind := by
  rcases operand_cases listed with number | text | date | truth
  · exact .inr number
  · exact absurd binds (not_binds_other library standard integers (.inl text))
  · exact absurd binds (not_binds_other library standard integers (.inr date))
  · exact .inl truth

end Formula

end

end RowQuery
