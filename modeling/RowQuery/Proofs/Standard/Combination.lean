import RowQuery.Proofs.Standard.Operands

/-!
The types in which operators combine integers. However deep a formula of integers is nested, each
operator in it works on operands of one integer kind that has room for all of them, if there is such a
kind. Only where there is none are the operands made binary numbers.
-/

namespace RowQuery

open Standard

/-! ### The order of the kinds -/

theorem rank_integer_lt (optional : Bool) (inner : IntegerKind) {kind : NumericKind}
    (fractional : kind.isInteger = false) :
    rank (.number optional (.integer inner)) < rank (.number optional kind) := by
  cases kind with
  | integer _ => simp [NumericKind.isInteger] at fractional
  | f32 | f64 | decimal => cases optional <;> cases inner <;> decide

namespace IntegerKind

/-- Of two kinds the later one covers the earlier one, unless only the later one is unsigned. -/
theorem covers_of_rank_le {first second : IntegerKind} (optional : Bool)
    (ordered : rank (.number optional (.integer first)) ≤ rank (.number optional (.integer second)))
    (signs : first.isUnsigned = true ∨ second.isUnsigned = false) : second.Covers first := by
  rw [covers_iff_within]
  revert ordered signs
  cases optional <;> cases first <;> cases second <;> decide

theorem covers_or_covers {a b : IntegerKind} (same : a.isUnsigned = b.isUnsigned) :
    a.Covers b ∨ b.Covers a := by
  rw [covers_iff_within, covers_iff_within]
  revert same
  cases a <;> cases b <;> decide

theorem isUnsigned_of_covers {outer inner : IntegerKind} (covers : outer.Covers inner)
    (unsigned : outer.isUnsigned = true) : inner.isUnsigned = true := by
  rw [covers_iff_within] at covers
  revert covers unsigned
  cases outer <;> cases inner <;> decide

theorem rank_lt_of_covers {outer inner : IntegerKind} (optional : Bool) (covers : outer.Covers inner)
    (signs : outer.isUnsigned ≠ inner.isUnsigned) :
    rank (.number optional (.integer inner)) < rank (.number optional (.integer outer)) := by
  rw [covers_iff_within] at covers
  revert covers signs
  cases optional <;> cases outer <;> cases inner <;> decide

/-- Two kinds within an unsigned kind have a least kind that covers both. -/
theorem unsigned_join {a b common : IntegerKind} (first : common.Covers a) (second : common.Covers b)
    (unsigned : common.isUnsigned = true) :
    ∃ join : IntegerKind, join.isUnsigned = true ∧ join.Covers a ∧ join.Covers b ∧
      ∀ outer : IntegerKind, outer.Covers a → outer.Covers b → outer.Covers join := by
  have aUnsigned := isUnsigned_of_covers first unsigned
  have bUnsigned := isUnsigned_of_covers second unsigned
  rcases covers_or_covers (aUnsigned.trans bUnsigned.symm) with wider | wider
  · exact ⟨a, aUnsigned, fun _ holds => holds, wider, fun _ outerFirst _ => outerFirst⟩
  · exact ⟨b, bUnsigned, wider, fun _ holds => holds, fun _ _ outerSecond => outerSecond⟩

end IntegerKind

theorem NumericKind.isFloat_of_not_integer {kind : NumericKind} (fractional : kind.isInteger = false)
    (notDecimal : kind ≠ .decimal) : kind.isFloat = true := by
  cases kind <;> simp_all [isInteger, isFloat]

/-! ### One call -/

/-- What may be expected of a formula of integers: nothing, a truth value, or a number that is not a
decimal. -/
inductive Ty.Asked : Option Ty → Prop
  | none : Asked none
  | truth : Asked (some .bool)
  | number (optional : Bool) {kind : NumericKind} : kind ≠ .decimal →
      Asked (some (.number optional kind))

namespace Compiler

/-- The type in which an operator combines its operands: truth values, an integer kind with room for
all of them, or a binary kind, if there is no such integer kind. -/
inductive Combines (compiler : Compiler) (target : Expr) (operation : Operation)
    (args : List Formula) : Ty → Prop
  | truths : Combines compiler target operation args .bool
  | integers (optional : Bool) {kind : IntegerKind} :
      operation.isDefined (.integer kind) = true →
      (∀ arg ∈ args, arg.FitsIn compiler target kind) →
      Combines compiler target operation args (.number optional (.integer kind))
  | floats (optional : Bool) {kind : NumericKind} : kind.isFloat = true →
      (∀ common : IntegerKind, operation.isDefined (.integer common) = true →
        ¬ ∀ arg ∈ args, arg.FitsIn compiler target common) →
      Combines compiler target operation args (.number optional kind)

/-- The type that a formula of integers has of itself. It is an integer type if there is an integer
kind with room for the formula. -/
inductive Ranges (compiler : Compiler) (target : Expr) (formula : Formula) : Ty → Prop
  | integer (optional : Bool) (kind : IntegerKind) :
      Ranges compiler target formula (.number optional (.integer kind))
  | truth : (∀ common, ¬ formula.FitsIn compiler target common) → Ranges compiler target formula .bool
  | float (optional : Bool) {kind : NumericKind} : kind.isFloat = true →
      (∀ common, ¬ formula.FitsIn compiler target common) →
      Ranges compiler target formula (.number optional kind)

section

variable {compiler : Compiler} {target : Expr} {operation : Operation} {args : List Formula}

theorem Combines.asked {ty : Ty} (combines : compiler.Combines target operation args ty) :
    Ty.Asked (some ty) := by
  cases combines with
  | truths => exact .truth
  | integers optional _ _ => exact .number optional (by simp)
  | floats optional isFloat _ =>
      refine .number optional ?_
      rintro rfl
      simp [NumericKind.isFloat] at isFloat

theorem Ranges.of_not_integer {formula : Formula} {optional : Bool} {kind : NumericKind}
    (ranges : compiler.Ranges target formula (.number optional kind))
    (fractional : kind.isInteger = false) :
    kind.isFloat = true ∧ ∀ common, ¬ formula.FitsIn compiler target common := by
  generalize same : Ty.number optional kind = ty at ranges
  cases ranges with
  | integer lifted inner =>
      obtain ⟨_, rfl⟩ := Ty.number_inj same
      simp [NumericKind.isInteger] at fractional
  | truth _ => cases optional <;> simp [Ty.number] at same
  | float lifted isFloat none =>
      obtain ⟨_, rfl⟩ := Ty.number_inj same
      exact ⟨isFloat, none⟩

/-- An operand type will do where another one does, if its kind widens to what the other's does. -/
theorem meets_of_within {expected : Option Ty} (asked : Ty.Asked expected) {optional : Bool}
    {kind other : NumericKind} (meets : (operation.result (.number optional kind)).Meets expected)
    (wider : ∀ outer, outer ≠ .decimal → kind.within outer = true → other.within outer = true) :
    (operation.result (.number optional other)).Meets expected := by
  cases arithmetic : operation.isArithmetic with
  | false => simpa only [Operation.result, arithmetic, Bool.false_eq_true, if_false] using meets
  | true =>
      simp only [Operation.result, arithmetic, if_true] at meets ⊢
      cases asked with
      | none => trivial
      | truth => cases optional <;> exact absurd meets Bool.false_ne_true
      | number lifted notDecimal =>
          rw [Ty.Meets, Conversion.can_number, Bool.and_eq_true] at meets ⊢
          exact ⟨meets.1, wider _ notDecimal meets.2⟩

theorem exists_arg (counted : args.length = operation.arity) : ∃ arg, arg ∈ args := by
  cases args with
  | nil => cases operation <;> simp [Operation.arity] at counted
  | cons arg rest => exact ⟨arg, List.mem_cons_self⟩

end

section

variable {settings : FunctionSettings} {compiler : Compiler} {target : Expr} {operation : Operation}
  {args : List Formula} (library : compiler.catalog = .ofSettings settings)
  (standard : settings.standardLibrary = true)

include library standard

theorem combines_of_chosen (counted : args.length = operation.arity)
    (integers : ∀ arg ∈ args, arg.OfIntegers compiler target)
    (ranges : ∀ arg ∈ args, ∀ natural,
      (compiler.binder target arg).bind none = .ok (.expr natural) →
        compiler.Ranges target arg natural.ty)
    {expected : Option Ty} (asked : Ty.Asked expected) {ty : Ty} {operands : List Expr} {node : Expr}
    (chosen : Chosen settings compiler target operation args expected ty operands node) :
    compiler.Combines target operation args ty := by
  obtain ⟨arg, inside⟩ := exists_arg counted
  obtain ⟨_, defined⟩ := chosen.takes.isOperand
  rcases Formula.operand_of_binds library standard (integers arg inside)
    (chosen.takes.rank_lt standard) (chosen.binds arg inside) with rfl | ⟨optional, kind, rfl⟩
  · exact .truths
  rw [operation.isDefined_number] at defined
  cases fractional : kind.isInteger with
  | true =>
      cases kind with
      | integer kind =>
          refine .integers optional defined fun other inside => ?_
          exact Formula.fitsIn_of_binds library standard (integers other inside)
            (chosen.binds other inside)
      | f32 | f64 | decimal => simp [NumericKind.isInteger] at fractional
  | false =>
      rcases chosen.first with exact | first
      -- The operands share a type of their own, and none of them has room in an integer kind.
      · obtain ⟨_, bound⟩ := chosen.binds arg inside
        obtain ⟨natural, bound⟩ := bind_none_of_some bound
        have known := ranges arg inside natural bound
        rw [exact arg inside natural bound] at known
        obtain ⟨isFloat, none⟩ := known.of_not_integer fractional
        exact .floats optional isFloat fun common _ fits => none common (fits arg inside)
      -- The type is the first with an offer, and all integer kinds come before it.
      · have notDecimal : kind ≠ .decimal := by
          rintro rfl
          have lower := first (.number optional .f64)
            (takes_number standard optional (isDefined_f64 operation))
            (fun other inside => Formula.binds_f64 library standard (integers other inside)
              (chosen.binds other inside))
            (meets_of_within asked chosen.meets fun outer notDecimal inside =>
              absurd rfl (NumericKind.ne_decimal_of_within notDecimal inside))
          cases optional <;> exact absurd lower (by decide)
        refine .floats optional (NumericKind.isFloat_of_not_integer fractional notDecimal) ?_
        intro common isDefined fits
        have lower := first (.number optional (.integer common))
          (takes_number standard optional isDefined)
          (fun other inside => (fits other inside).binds_instead library standard
            (integers other inside) (chosen.binds other inside))
          (meets_of_within asked chosen.meets fun outer _ inside =>
            NumericKind.within_of_not_integer common
              (NumericKind.not_integer_of_within fractional inside))
        exact absurd lower (Nat.not_le_of_lt (rank_integer_lt optional common fractional))

theorem ranges_of_bound {formula : Formula} (integers : formula.OfIntegers compiler target)
    {natural : Expr} (bound : (compiler.binder target formula).bind none = .ok (.expr natural)) :
    compiler.Ranges target formula natural.ty := by
  induction integers generalizing natural with
  | literal n =>
      simp only [binder, bindConstant, Except.ok.injEq, Built.expr.injEq] at bound
      rw [← bound]
      exact .integer false n.kind
  | field resolved integral =>
      simp only [binder, bindField_expr, resolved, Except.ok.injEq, exists_eq_left', meet?,
        Option.some.injEq] at bound
      obtain ⟨inner, typed⟩ := Ty.underlying_of_isIntegral integral
      rw [← bound, Ty.number_of_underlying typed]
      exact .integer _ inner
  | call operation counted integers ih =>
      obtain ⟨ty, operands, node, chosen, met⟩ := call_chosen library standard counted bound
      obtain rfl := Option.some.inj met
      rw [chosen.made.ty chosen.typed]
      have combines := combines_of_chosen library standard counted integers
        (fun arg inside natural bound => ih arg inside bound) .none chosen
      cases arithmetic : operation.isArithmetic with
      | false =>
          simp only [Operation.result, arithmetic, Bool.false_eq_true, if_false]
          refine .truth fun common fits => ?_
          simp [(fits.operands counted).1] at arithmetic
      | true =>
          simp only [Operation.result, arithmetic, if_true]
          cases combines with
          | truths =>
              obtain ⟨optional, kind, same, _⟩ := chosen.takes.number standard arithmetic
              cases optional <;> simp [Ty.number] at same
          | integers optional _ _ => exact .integer optional _
          | floats optional isFloat none =>
              refine .float optional isFloat fun common fits => ?_
              obtain ⟨_, inner, defined, fits, _⟩ := fits.operands counted
              exact none inner defined fits

end

/-! ### The whole expression -/

/-- What a formula of integers becomes: literals, fields and calls are converted without being asked,
and each operator combines its operands in one type. -/
inductive Translates (compiler : Compiler) (target : Expr) : Formula → Expr → Prop
  | literal {n : Integer} {expected : Option Ty} {expr : Expr} :
      bindConstant (.integer n) expected = .expr expr →
      Translates compiler target (.constant (.integer n)) expr
  | field {path : String} {leaf : Expr} : compiler.resolvePath target path = .ok leaf →
      Translates compiler target (.field path) leaf
  | call {operation : Operation} {args : List Formula} {operands : List Expr} {node : Expr} {ty : Ty} :
      List.Forall₂ (Translates compiler target) args operands →
      (∀ operand ∈ operands, operand.ty = ty) → compiler.Combines target operation args ty →
      operation.Makes operands node → Translates compiler target (.call operation.symbol args) node
  | convert {formula : Formula} {expr : Expr} {ty : Ty} {conversion : Conversion} :
      Translates compiler target formula expr → Conversion.plan? true expr.ty ty = some conversion →
      Translates compiler target formula (.convert expr ty conversion)

section

variable {settings : FunctionSettings} {compiler : Compiler} {target : Expr} {operation : Operation}
  {args : List Formula} {formula : Formula}

theorem Translates.meet {built expr : Expr} {expected : Option Ty}
    (translates : compiler.Translates target formula built) (met : meet? built expected = some expr) :
    compiler.Translates target formula expr := by
  cases expected with
  | none =>
      rw [← Option.some.inj met]
      exact translates
  | some ty =>
      rcases Expr.convertTo?_eq_some met with ⟨_, rfl⟩ | ⟨conversion, planned, rfl⟩
      · exact translates
      · exact .convert translates planned

theorem translates_of_bound (library : compiler.catalog = .ofSettings settings)
    (standard : settings.standardLibrary = true) (integers : formula.OfIntegers compiler target)
    {expected : Option Ty} (asked : Ty.Asked expected) {expr : Expr}
    (bound : (compiler.binder target formula).bind expected = .ok (.expr expr)) :
    compiler.Translates target formula expr := by
  induction integers generalizing expected expr with
  | literal n =>
      simp only [binder, Except.ok.injEq] at bound
      exact .literal bound
  | field resolved integral =>
      simp only [binder] at bound
      obtain ⟨leaf, found, met⟩ := bindField_expr.mp bound
      exact (Translates.field found).meet met
  | @call operation args counted integers ih =>
      obtain ⟨ty, operands, node, chosen, met⟩ := call_chosen library standard counted bound
      have combines := combines_of_chosen library standard counted integers
        (fun arg inside natural bound => ranges_of_bound library standard (integers arg inside) bound)
        asked chosen
      have translated : List.Forall₂ (compiler.Translates target) args operands := by
        refine ((List.forall₂_and_left args operands).mpr ⟨ih, chosen.bound⟩).imp ?_
        rintro arg operand ⟨translate, given, rfl | rfl, rebound⟩
        · exact translate .none rebound
        · exact translate combines.asked rebound
      exact (Translates.call translated chosen.typed combines chosen.made).meet met

/-! ### Formulas without literals -/

/-- If each operand has a least kind, then so have the operands together: the first kind that all of
them fit in. -/
theorem covers_of_first (counted : args.length = operation.arity)
    (own : ∀ arg ∈ args, ∃ small, arg.FitsIn compiler target small ∧
      ∀ wide, arg.FitsIn compiler target wide → wide.Covers small)
    (optional : Bool) {inner common : IntegerKind}
    (defined : operation.isDefined (.integer common) = true)
    (fitsInner : ∀ arg ∈ args, arg.FitsIn compiler target inner)
    (fitsCommon : ∀ arg ∈ args, arg.FitsIn compiler target common)
    (first : ∀ kind : IntegerKind, operation.isDefined (.integer kind) = true →
      (∀ arg ∈ args, arg.FitsIn compiler target kind) →
        rank (.number optional (.integer inner)) ≤ rank (.number optional (.integer kind))) :
    common.Covers inner := by
  by_cases signs : inner.isUnsigned = true ∨ common.isUnsigned = false
  · exact IntegerKind.covers_of_rank_le optional (first common defined fitsCommon) signs
  -- A signed kind is not the first one if the operands have an unsigned kind in common.
  · obtain ⟨signed, unsigned⟩ : inner.isUnsigned = false ∧ common.isUnsigned = true := by
      simpa using signs
    cases operation with
    | negation =>
        simp [Operation.isDefined, Expr.unaryDefined, Ty.underlying, Ty.numericKind?,
          NumericKind.isUnsigned, unsigned] at defined
    | binary op numeric =>
        obtain ⟨left, right, rfl⟩ := List.length_eq_two.mp counted
        simp only [List.forall_mem_cons, List.not_mem_nil, false_implies, implies_true, and_true]
          at own fitsInner fitsCommon first
        obtain ⟨⟨a, fitsA, leastA⟩, b, fitsB, leastB⟩ := own
        obtain ⟨join, joinUnsigned, overA, overB, least⟩ := IntegerKind.unsigned_join
          (leastA common fitsCommon.1) (leastB common fitsCommon.2) unsigned
        have ordered := first join (isDefined_binary numeric _) ⟨fitsA.mono overA, fitsB.mono overB⟩
        have smaller := IntegerKind.rank_lt_of_covers optional
          (least inner (leastA inner fitsInner.1) (leastB inner fitsInner.2))
          (by simp [signed, joinUnsigned])
        exact absurd ordered (Nat.not_le_of_lt smaller)

end

section

variable {settings : FunctionSettings} {compiler : Compiler} {target : Expr} {formula : Formula}
  (library : compiler.catalog = .ofSettings settings) (standard : settings.standardLibrary = true)

include library standard

theorem integer_of_fitsIn (integers : formula.OfIntegers compiler target) {natural : Expr}
    (bound : (compiler.binder target formula).bind none = .ok (.expr natural)) {kind : IntegerKind}
    (fits : formula.FitsIn compiler target kind) :
    ∃ optional inner, natural.ty = .number optional (.integer inner) := by
  have ranges := ranges_of_bound library standard integers bound
  generalize natural.ty = ty at ranges
  cases ranges with
  | integer optional inner => exact ⟨optional, inner, rfl⟩
  | truth none => exact absurd fits (none kind)
  | float optional _ none => exact absurd fits (none kind)

theorem fitsIn_natural (integers : formula.OfIntegers compiler target) {natural : Expr}
    (bound : (compiler.binder target formula).bind none = .ok (.expr natural)) {optional : Bool}
    {inner : IntegerKind} (typed : natural.ty = .number optional (.integer inner)) :
    formula.FitsIn compiler target inner := by
  have binds : compiler.Binds target formula (some (.number optional (.integer inner))) :=
    bind_some_of_natural bound (by rw [typed]; exact Ty.beq_self _)
  exact Formula.fitsIn_of_binds library standard integers binds

/-- A formula without literals fits only in kinds that cover the kind that it has of itself. -/
theorem covers_natural (integers : formula.OfIntegers compiler target) (free : formula.LiteralFree)
    {natural : Expr} (bound : (compiler.binder target formula).bind none = .ok (.expr natural))
    {optional : Bool} {inner kind : IntegerKind}
    (typed : natural.ty = .number optional (.integer inner))
    (fits : formula.FitsIn compiler target kind) : kind.Covers inner := by
  induction integers generalizing natural optional inner kind with
  | literal n => cases free
  | field resolved integral =>
      simp only [binder, bindField_expr, resolved, Except.ok.injEq, exists_eq_left', meet?,
        Option.some.injEq] at bound
      cases fits with
      | field again leafTyped covers =>
          rw [resolved, Except.ok.injEq] at again
          rw [← again, bound, typed, Ty.underlying_number] at leafTyped
          rw [NumericKind.integer.inj (Ty.numeric.inj leafTyped)]
          exact covers
  | @call operation args counted integers ih =>
      have argsFree : ∀ arg ∈ args, arg.LiteralFree := by
        cases free with
        | call free => exact free
      obtain ⟨arithmetic, common, defined, fits, covers⟩ := fits.operands counted
      obtain ⟨ty, operands, node, chosen, met⟩ := call_chosen library standard counted bound
      obtain rfl := Option.some.inj met
      rw [chosen.made.ty chosen.typed, Operation.result, if_pos arithmetic] at typed
      subst typed
      have natural (arg : Formula) (inside : arg ∈ args) :
          ∃ natural, (compiler.binder target arg).bind none = .ok (.expr natural) := by
        obtain ⟨_, bound⟩ := chosen.binds arg inside
        exact bind_none_of_some bound
      suffices within : common.Covers inner from fun n holds => covers n (within n holds)
      rcases chosen.first with exact | first
      · obtain ⟨arg, inside⟩ := exists_arg counted
        obtain ⟨own, bound⟩ := natural arg inside
        exact ih arg inside (argsFree arg inside) bound (exact arg inside own bound) (fits arg inside)
      · refine covers_of_first counted ?_ optional defined ?_ fits ?_
        · intro arg inside
          obtain ⟨own, bound⟩ := natural arg inside
          obtain ⟨lifted, small, typed⟩ :=
            integer_of_fitsIn library standard (integers arg inside) bound (fits arg inside)
          exact ⟨small, fitsIn_natural library standard (integers arg inside) bound typed,
            fun wide => ih arg inside (argsFree arg inside) bound typed⟩
        · intro arg inside
          exact Formula.fitsIn_of_binds library standard (integers arg inside)
            (chosen.binds arg inside)
        · intro kind isDefined fitsKind
          refine first (.number optional (.integer kind))
            (takes_number standard optional isDefined) ?_ trivial
          intro arg inside
          exact (fitsKind arg inside).binds_instead library standard (integers arg inside)
            (chosen.binds arg inside)

end

/-- With the operators of the standard library, a formula of integers that compiles, of itself or as a
truth value, becomes an expression in which each operator works on operands of one type. They are truth
values, or integers of one kind that has room for all of them. Only if no integer kind has are they made
binary numbers. For an operand without literals, the kinds with room are those that cover the kind that
the operand has of itself. -/
theorem integers_combined_in_common_kind {settings : FunctionSettings} {compiler : Compiler}
    (library : compiler.catalog = .ofSettings settings) (standard : settings.standardLibrary = true)
    {target : Expr} {formula : Formula} (integers : formula.OfIntegers compiler target)
    {expected : Option Ty} (asked : expected = none ∨ expected = some .bool) {expr : Expr}
    (built : compiler.buildFor target formula expected = .ok expr) :
    compiler.Translates target formula expr ∧
    (formula.LiteralFree → ∀ natural inner, compiler.build target formula = .ok natural →
      natural.ty.underlying = .integer inner →
        ∀ kind, formula.FitsIn compiler target kind ↔ kind.Covers inner) := by
  constructor
  · have may : Ty.Asked expected := by
      rcases asked with rfl | rfl
      · exact .none
      · exact .truth
    exact translates_of_bound library standard integers may (buildFor_eq_ok.mp built)
  · intro free natural inner compiled underlying kind
    have bound := build_eq_ok.mp compiled
    have typed := Ty.number_of_underlying underlying
    constructor
    · exact covers_natural library standard integers free bound typed
    · exact (fitsIn_natural library standard integers bound typed).mono

def parcel : RecordType :=
  ⟨"Parcel", none, [⟨"units", .integer .u8, .field, .shown, "Parcel"⟩,
    ⟨"fee", .nullable (.integer .u16), .field, .shown, "Parcel"⟩], []⟩

def parcelRow : Expr :=
  .target (.record parcel)

def balance : Formula :=
  .call "+" [.call "-" [.field "units"], .field "fee"]

theorem balance_ofIntegers : balance.OfIntegers (.ofCatalog .standard) parcelRow := by
  have units : (Formula.field "units").OfIntegers (.ofCatalog .standard) parcelRow :=
    .field rfl rfl
  have fee : (Formula.field "fee").OfIntegers (.ofCatalog .standard) parcelRow :=
    .field rfl rfl
  have opposite : (Formula.call "-" [.field "units"]).OfIntegers (.ofCatalog .standard) parcelRow :=
    .call .negation rfl (by simpa using units)
  exact .call (.binary .add rfl) rfl (by simp [opposite, fee])

theorem integers_combined_in_common_kind_balance :
    balance.OfIntegers (.ofCatalog .standard) parcelRow ∧ balance.LiteralFree ∧
    ∃ expr, (ofCatalog .standard).buildFor parcelRow balance none = .ok expr ∧
      expr.ty = .nullable .i32 ∧ (ofCatalog .standard).Translates parcelRow balance expr ∧
      balance.FitsIn (.ofCatalog .standard) parcelRow .i64 ∧
      ¬ balance.FitsIn (.ofCatalog .standard) parcelRow .u32 := by
  have free : balance.LiteralFree := by
    have opposite : (Formula.call "-" [.field "units"]).LiteralFree :=
      .call (by simpa using Formula.LiteralFree.field "units")
    exact .call (by simp [opposite, Formula.LiteralFree.field])
  have computed : ((ofCatalog .standard).buildFor parcelRow balance none).toOption.any
      (·.ty == .nullable .i32) = true := by decide +kernel
  obtain ⟨expr, found, same⟩ := (Option.any_eq_true _ _).mp computed
  have built := Result.eq_ok_of_toOption found
  have typed : expr.ty = .nullable .i32 := Standard.eq_of_beq_operand rfl same
  obtain ⟨translates, fits⟩ := integers_combined_in_common_kind rfl rfl balance_ofIntegers (.inl rfl)
    built
  have iff := fits free expr .i32 built (by rw [typed]; rfl)
  refine ⟨balance_ofIntegers, free, expr, built, typed, translates, (iff .i64).mpr ?_, ?_⟩
  · exact IntegerKind.covers_iff_within.mpr rfl
  · rw [iff .u32, IntegerKind.covers_iff_within]
    exact Bool.false_ne_true

def operandsOf : Expr → List Expr
  | .unary _ operand => [operand]
  | .binary _ left right => [left, right]
  | _ => []

def ledger : RecordType :=
  ⟨"Ledger", none, [⟨"owed", .integer .i64, .field, .shown, "Ledger"⟩,
    ⟨"paid", .integer .u64, .field, .shown, "Ledger"⟩], []⟩

def ledgerRow : Expr :=
  .target (.record ledger)

def settled : Formula :=
  .call "==" [.field "owed", .field "paid"]

def lastPage : Value :=
  .record ledger [.integer ⟨.i64, 9223372036854775807, by decide⟩,
    .integer ⟨.u64, 9223372036854775808, by decide⟩]

/-- No integer kind has room for all signed and unsigned integers of 64 bits. They are compared as
binary numbers of single precision, in which two different integers are equal. -/
theorem wide_integers_compared_as_binary :
    settled.OfIntegers (.ofCatalog .standard) ledgerRow ∧
    ∃ expr, (ofCatalog .standard).build ledgerRow settled = .ok expr ∧
      (operandsOf expr).length = 2 ∧ (∀ operand ∈ operandsOf expr, operand.ty = .numeric .f32) ∧
      expr.evaluate IntegerFormula.idle lastPage = .ok (.bool true) ∧
      ∃ owed paid : Integer,
        readField (.ofCatalog .standard) ledgerRow IntegerFormula.idle lastPage "owed" =
          .ok (.integer owed) ∧
        readField (.ofCatalog .standard) ledgerRow IntegerFormula.idle lastPage "paid" =
          .ok (.integer paid) ∧ owed.value ≠ paid.value := by
  have owed : (Formula.field "owed").OfIntegers (.ofCatalog .standard) ledgerRow := .field rfl rfl
  have paid : (Formula.field "paid").OfIntegers (.ofCatalog .standard) ledgerRow := .field rfl rfl
  have computed : ((ofCatalog .standard).build ledgerRow settled).toOption.any (fun expr =>
      (operandsOf expr).length == 2 && (operandsOf expr).all (·.ty == .numeric .f32) &&
        (expr.evaluate IntegerFormula.idle lastPage).toOption.any (·.bool? == some true)) = true := by
    decide +kernel
  obtain ⟨expr, found, checked⟩ := (Option.any_eq_true _ _).mp computed
  simp only [Bool.and_eq_true, beq_iff_eq, List.all_eq_true] at checked
  obtain ⟨⟨two, single⟩, evaluates⟩ := checked
  obtain ⟨value, reached, isTrue⟩ := (Option.any_eq_true _ _).mp evaluates
  refine ⟨.call (.binary .equal rfl) rfl (by simp [owed, paid]), expr,
    Result.eq_ok_of_toOption found, two, ?_, ?_, _, _, rfl, rfl, by decide⟩
  · exact fun operand inside => Ty.eq_of_beq_plain rfl (single operand inside)
  · rw [Result.eq_ok_of_toOption reached]
    cases value <;> simp_all [Value.bool?]

end Compiler

end RowQuery
