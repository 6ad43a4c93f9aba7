import RowQuery.Proofs.Compiler.Resolution

/-!
Catalogs that grow. An overload that is added can change the type that a formula has of itself, and
with it the overload of every call around the formula. What could be bound still can be: each argument
is bound again with the parameter type of the overload that was taken before.
-/

namespace RowQuery

/-- The overload declines every call that fits its parameters, or it accepts them all with results of
one type. -/
def Overload.Settled (overload : Overload) : Prop :=
  (∀ site : CallSite, site.Fits overload.parameters → overload.build site = .ok none) ∨
  ∃ result, ∀ site : CallSite, site.Fits overload.parameters →
    ∃ expr, overload.build site = .ok (some expr) ∧ expr.ty = result

theorem Overload.Settled.neverFails {overload : Overload} (settled : overload.Settled) :
    overload.NeverFails := by
  intro site fits
  rcases settled with declines | ⟨_, accepts⟩
  · exact ⟨none, declines site fits⟩
  · obtain ⟨expr, built, _⟩ := accepts site fits
    exact ⟨some expr, built⟩

/-- An overload that accepted one call accepts every call, and the result has the same type. -/
theorem Overload.Settled.accepts {overload : Overload} (settled : overload.Settled)
    {first second : CallSite} (fitsFirst : first.Fits overload.parameters)
    (fitsSecond : second.Fits overload.parameters) {built : Expr}
    (accepted : overload.build first = .ok (some built)) :
    ∃ expr, overload.build second = .ok (some expr) ∧ expr.ty = built.ty := by
  rcases settled with declines | ⟨result, accepts⟩
  · simp [declines first fitsFirst] at accepted
  · obtain ⟨expr, same, typed⟩ := accepts first fitsFirst
    obtain ⟨other, building, otherTyped⟩ := accepts second fitsSecond
    rw [accepted] at same
    simp only [Except.ok.injEq, Option.some.injEq] at same
    exact ⟨other, building, by rw [otherTyped, same, typed]⟩

theorem Definition.ofFunction_settled (method : String) (parameters : List Ty) (result : Ty)
    (invoke : Host → List Value → Result Value) (id : Nat) :
    ((ofFunction method parameters result invoke).numbered id).Settled :=
  .inr ⟨result, fun _ _ => ⟨_, rfl, rfl⟩⟩

theorem Definition.ofOperator_settled {op : BinaryOp} {ty : Ty}
    (operand : Standard.isOperand ty = true) (defined : Expr.binaryDefined op ty = true) (id : Nat) :
    ((ofOperator op ty).numbered id).Settled := by
  refine .inr ⟨if op.isArithmetic then ty else .bool, ?_⟩
  intro site fits
  obtain ⟨left, right, _, leftTyped, _, built⟩ := Standard.operator_accepts operand defined fits id
  exact ⟨_, built, by rw [Expr.ty, leftTyped]⟩

theorem Definition.ofUnary_settled {op : UnaryOp} {ty : Ty}
    (operand : Standard.isOperand ty = true) (defined : Expr.unaryDefined op ty = true) (id : Nat) :
    ((ofUnary op ty).numbered id).Settled := by
  refine .inr ⟨ty, ?_⟩
  intro site fits
  obtain ⟨arg, _, argTyped, built⟩ := Standard.unary_accepts operand defined fits id
  exact ⟨_, built, by rw [Expr.ty, argTyped]⟩

/-! ### Expected types -/

def Ty.Meets (ty : Ty) : Option Ty → Prop
  | none => True
  | some expected => Conversion.can true ty expected = true

theorem Conversion.can_of_beq {implicitOnly : Bool} {source target : Ty}
    (same : (source == target) = true) : can implicitOnly source target = true := by
  have assigned := Ty.assignable_of_beq same
  cases source with
  | nullable inner => simp [can, plan?, assigned]
  | _ => cases target <;> simp_all [can, plan?, fromBare?, direct?, Ty.beq_eq_same, Ty.same]

namespace Compiler

theorem meet?_eq_some_iff {built : Expr} {expected : Option Ty} :
    (∃ expr, meet? built expected = some expr) ↔ built.ty.Meets expected := by
  cases expected with
  | none => simp [meet?, Ty.Meets]
  | some ty =>
      rw [← Option.isSome_iff_exists, meet?, Expr.convertTo?, Ty.Meets]
      split
      · rename_i same
        simp [Conversion.can_of_beq same]
      · rw [Option.isSome_map, Conversion.can]

def Binds (compiler : Compiler) (target : Expr) (formula : Formula) (expected : Option Ty) : Prop :=
  ∃ expr, (compiler.binder target formula).bind expected = .ok (.expr expr)

/-! ### Arguments with the parameter types -/

def BindsAs (compiler : Compiler) (target : Expr) : List Formula → List Ty → Prop :=
  List.Forall₂ fun arg parameter => compiler.Binds target arg (some parameter)

section

variable {compiler : Compiler} {target : Expr} {args : List Formula} {naturals : List Expr}
  {parameters : List Ty}

/-- A formula that has a type can be bound with it. -/
theorem bind_some_of_natural {formula : Formula} {natural : Expr} {ty : Ty}
    (bound : (compiler.binder target formula).bind none = .ok (.expr natural))
    (typed : (natural.ty == ty) = true) : compiler.Binds target formula (some ty) := by
  have unconverted : natural.convertTo? ty true = some natural := by
    rw [Expr.convertTo?, if_pos typed]
  cases formula with
  | constant value =>
      simp only [binder, bindConstant, Except.ok.injEq, Built.expr.injEq] at bound
      subst bound
      have fits : value.conforms ty = true := Ty.assignable_of_beq typed
      have kept : value.fit? ty = some value := by rw [Value.fit?.eq_def, if_pos fits]
      exact ⟨.constant value ty, by simp [binder, bindConstant, kept, Expr.literalAs, fits]⟩
  | field path => exact ⟨natural, bind_some_of_convertTo rfl bound unconverted⟩
  | call method args => exact ⟨natural, bind_some_of_convertTo rfl bound unconverted⟩

theorem Coerced.bindsAs {coerced : List Expr}
    (made : Coerced (args.map (compiler.binder target)) naturals parameters coerced)
    (natural : Natural (args.map (compiler.binder target)) naturals) :
    compiler.BindsAs target args parameters := by
  induction args generalizing naturals parameters coerced with
  | nil =>
      cases made
      exact .nil
  | cons arg args ih =>
      rw [List.map_cons] at made natural
      obtain _ | ⟨bound, rest⟩ := natural
      cases made with
      | keep typed later => exact .cons (bind_some_of_natural bound typed) (ih later rest)
      | rebind _ rebound later => exact .cons ⟨_, rebound⟩ (ih later rest)

theorem BindsAs.mono {other : Compiler} (binds : compiler.BindsAs target args parameters)
    (again : ∀ arg ∈ args, ∀ ty, compiler.Binds target arg (some ty) →
      other.Binds target arg (some ty)) :
    other.BindsAs target args parameters := by
  induction binds with
  | nil => exact .nil
  | cons bound _ ih =>
      exact .cons (again _ List.mem_cons_self _ bound)
        (ih fun arg inside => again arg (List.mem_cons_of_mem _ inside))

theorem BindsAs.natural (binds : compiler.BindsAs target args parameters) :
    ∃ naturals, Natural (args.map (compiler.binder target)) naturals := by
  induction binds with
  | nil => exact ⟨[], .nil⟩
  | cons bound _ ih =>
      obtain ⟨expr, bound⟩ := bound
      obtain ⟨natural, first⟩ := bind_none_of_some bound
      obtain ⟨naturals, rest⟩ := ih
      exact ⟨natural :: naturals, .cons first rest⟩

theorem BindsAs.coerced (binds : compiler.BindsAs target args parameters)
    (natural : Natural (args.map (compiler.binder target)) naturals) :
    ∃ coerced, Coerced (args.map (compiler.binder target)) naturals parameters coerced := by
  induction binds generalizing naturals with
  | nil =>
      cases natural
      exact ⟨[], .nil⟩
  | @cons arg parameter args parameters bound _ ih =>
      obtain ⟨expr, bound⟩ := bound
      rw [List.map_cons] at natural ⊢
      obtain _ | @⟨_, first, _, _, _, rest⟩ := natural
      obtain ⟨coerced, made⟩ := ih rest
      cases typed : first.ty == parameter with
      | true => exact ⟨first :: coerced, .keep typed made⟩
      | false => exact ⟨expr :: coerced, .rebind typed bound made⟩

theorem buildFor_eq_ok {formula : Formula} {expected : Option Ty} {expr : Expr} :
    compiler.buildFor target formula expected = .ok expr ↔
      (compiler.binder target formula).bind expected = .ok (.expr expr) := by
  cases expected with
  | none => exact build_eq_ok
  | some ty => exact buildAs_eq_ok

/-- A call is bound if one of the overloads has an offer for it. -/
theorem bind_call_of_offers
    (steady : ∀ name, ∀ overload ∈ compiler.catalog.lookup name, overload.NeverFails)
    (natural : Natural (args.map (compiler.binder target)) naturals) {method : String}
    {expected : Option Ty} {overload : Overload}
    (listed : overload ∈ compiler.catalog.lookup method) {offer : Expr}
    (offers : compiler.Offers target method args naturals expected overload offer) :
    compiler.Binds target (.call method args) expected := by
  simp only [Binds, ← buildFor_eq_ok, buildFor_call steady natural, Built.get_eq_ok, settle_eq_expr]
  apply Option.ne_none_iff_exists'.mp
  intro missing
  exact (firstOffer?_eq_none natural).mp missing overload listed offer offers

theorem siteOf_fits_of_steady
    (steady : ∀ name, ∀ overload ∈ compiler.catalog.lookup name, overload.NeverFails)
    (natural : Natural (args.map (compiler.binder target)) naturals) {coerced : List Expr}
    (made : Coerced (args.map (compiler.binder target)) naturals parameters coerced)
    (view : CompilerView) (method : String) :
    (siteOf view target method args (args.map (compiler.binder target)) naturals coerced).Fits
      parameters := by
  refine siteOf_fits natural made ?_
  intro arg inside ty
  obtain ⟨expr, bound⟩ := natural.of_mem (List.mem_map_of_mem inside)
  exact bind_total steady bound (some ty)

end

/-! ### One compiler with the overloads of another -/

structure Extends (larger smaller : Compiler) : Prop where
  overrides : larger.overrides = smaller.overrides
  listed : ∀ method, ∀ overload ∈ smaller.catalog.lookup method,
    overload ∈ larger.catalog.lookup method

section

variable {larger smaller : Compiler}

theorem Extends.follow_eq (grown : larger.Extends smaller) (path : String) (owner : Expr)
    (names : List String) : larger.follow path owner names = smaller.follow path owner names := by
  induction names generalizing owner with
  | nil => rfl
  | cons name names ih =>
      rw [follow, follow]
      simp only [override?, grown.overrides, ih]

/-- What the smaller compiler can bind, the larger one can. -/
theorem Extends.bind (grown : larger.Extends smaller)
    (settled : ∀ method, ∀ overload ∈ larger.catalog.lookup method, overload.Settled)
    {target : Expr} {formula : Formula} {expected : Option Ty}
    (binds : smaller.Binds target formula expected) : larger.Binds target formula expected := by
  have steady : ∀ method, ∀ overload ∈ larger.catalog.lookup method, overload.NeverFails :=
    fun method overload listed => (settled method overload listed).neverFails
  have steadyBefore : ∀ method, ∀ overload ∈ smaller.catalog.lookup method, overload.NeverFails :=
    fun method overload listed => steady method overload (grown.listed method overload listed)
  obtain ⟨expr, bound⟩ := binds
  induction formula generalizing expected expr with
  | constant value => exact ⟨expr, bound⟩
  | field path =>
      refine ⟨expr, ?_⟩
      simp only [binder, bindField, resolvePath, grown.follow_eq] at bound ⊢
      exact bound
  | call method args ih =>
      rw [binder, binders_eq_map] at bound
      obtain ⟨naturals, overload, coerced, built, natural, listed, made, accepted, met⟩ :=
        callBinder_expr bound
      -- The arguments may have other types of their own now, but not other ones as parameters.
      have binds : larger.BindsAs target args overload.parameters := by
        refine (made.bindsAs natural).mono ?_
        rintro arg inside ty ⟨rebuilt, rebound⟩
        exact ih arg inside rebuilt rebound
      obtain ⟨newNaturals, newNatural⟩ := binds.natural
      obtain ⟨newCoerced, newMade⟩ := binds.coerced newNatural
      have inside := grown.listed method overload listed
      obtain ⟨newBuilt, newAccepted, typed⟩ := (settled method overload inside).accepts
        (siteOf_fits_of_steady steadyBefore natural made smaller.view method)
        (siteOf_fits_of_steady steady newNatural newMade larger.view method) accepted
      have meets := meet?_eq_some_iff.mp ⟨expr, met⟩
      rw [← typed] at meets
      obtain ⟨offer, newMet⟩ := meet?_eq_some_iff.mpr meets
      exact bind_call_of_offers steady newNatural inside
        ⟨newCoerced, newBuilt, newMade, newAccepted, newMet⟩

end

def define (compiler : Compiler) (definition : Definition) : Compiler :=
  { compiler with catalog := (compiler.catalog.add definition).1 }

theorem mem_lookup_define {compiler : Compiler} {definition : Definition}
    (fresh : ∀ overload ∈ compiler.catalog.lookup definition.method,
      (overload.parameters == definition.parameters) = false) {method : String} {overload : Overload}
    (listed : overload ∈ (compiler.define definition).catalog.lookup method) :
    overload ∈ compiler.catalog.lookup method ∨
      overload = definition.numbered compiler.catalog.issued := by
  rw [define, Catalog.lookup_add _ fresh] at listed
  split at listed
  · simpa using listed
  · exact .inl listed

theorem define_extends {compiler : Compiler} {definition : Definition}
    (fresh : ∀ overload ∈ compiler.catalog.lookup definition.method,
      (overload.parameters == definition.parameters) = false) :
    (compiler.define definition).Extends compiler where
  overrides := rfl
  listed := by
    intro method overload listed
    rw [define, Catalog.lookup_add _ fresh]
    split
    · exact List.mem_append_left _ listed
    · exact listed

/-- If each overload declines or accepts every call that fits it, with results of one type, then a
definition with new parameter types keeps every formula that could be bound: with the same expected
type, or without one, it can be bound afterwards. -/
theorem define_keeps_bound {compiler : Compiler} {definition : Definition}
    (settled : ∀ method, ∀ overload ∈ compiler.catalog.lookup method, overload.Settled)
    (newest : (definition.numbered compiler.catalog.issued).Settled)
    (fresh : ∀ overload ∈ compiler.catalog.lookup definition.method,
      (overload.parameters == definition.parameters) = false)
    (target : Expr) (formula : Formula) (expected : Option Ty) {expr : Expr}
    (built : compiler.buildFor target formula expected = .ok expr) :
    ∃ other, (compiler.define definition).buildFor target formula expected = .ok other ∧
      ∀ ty, expected = some ty → (other.ty == ty) = true := by
  have allSettled : ∀ method, ∀ overload ∈ (compiler.define definition).catalog.lookup method,
      overload.Settled := by
    intro method overload listed
    rcases mem_lookup_define fresh listed with older | rfl
    · exact settled method overload older
    · exact newest
  obtain ⟨other, bound⟩ := (define_extends fresh).bind allSettled ⟨expr, buildFor_eq_ok.mp built⟩
  refine ⟨other, buildFor_eq_ok.mpr bound, ?_⟩
  rintro ty rfl
  exact bind_ty bound

def wideOnly : Compiler :=
  ofCatalog (.addAll .empty [.ofOperator .add (.integer .i64), .ofUnary .negate (.integer .i64),
    .ofFunction "zero" [] (.integer .i64) fun _ _ => .ok (.integer ⟨.i64, 0, by decide⟩)])

theorem wideOnly_settled (method : String) :
    ∀ overload ∈ wideOnly.catalog.lookup method, overload.Settled := by
  intro overload listed
  obtain ⟨definition, member, id, _, rfl⟩ := Catalog.mem_lookup listed
  simp only [List.mem_cons, List.not_mem_nil, or_false] at member
  rcases member with rfl | rfl | rfl
  · exact Definition.ofOperator_settled rfl rfl id
  · exact Definition.ofUnary_settled rfl rfl id
  · exact Definition.ofFunction_settled _ _ _ _ id

def narrowSum : Definition :=
  .ofOperator .add .i32

theorem narrowSum_fresh : ∀ overload ∈ wideOnly.catalog.lookup narrowSum.method,
    (overload.parameters == narrowSum.parameters) = false := by
  have apart : (wideOnly.catalog.lookup narrowSum.method).all
      (fun overload => !(overload.parameters == narrowSum.parameters)) = true := by decide +kernel
  simpa using List.all_eq_true.mp apart

def doubled : Formula :=
  .call "+" [.field "n", .field "n"]

def opposite : Formula :=
  .call "+" [.call "-" [doubled], .call "zero" []]

/-- The narrow sum changes the type that the inner sum has of itself, and the negation, which is still
a wide one, can be had of it. -/
theorem define_keeps_bound_opposite :
    ∃ wide narrow other, wideOnly.buildFor tallyRow opposite (some (.integer .i64)) = .ok wide ∧
      (wideOnly.define narrowSum).buildFor tallyRow doubled none = .ok narrow ∧
      (narrow.ty == .i32) = true ∧
      (wideOnly.define narrowSum).buildFor tallyRow opposite (some (.integer .i64)) = .ok other ∧
      (other.ty == .integer .i64) = true := by
  have before : (wideOnly.buildFor tallyRow opposite
      (some (.integer .i64))).toOption.isSome = true := by decide +kernel
  have after : ((wideOnly.define narrowSum).buildFor tallyRow doubled none).toOption.any
      (·.ty == .i32) = true := by decide +kernel
  obtain ⟨wide, found⟩ := Option.isSome_iff_exists.mp before
  obtain ⟨narrow, foundAfter, isNarrow⟩ := (Option.any_eq_true _ _).mp after
  have built := Result.eq_ok_of_toOption found
  obtain ⟨other, rebuilt, typed⟩ := define_keeps_bound wideOnly_settled
    (Definition.ofOperator_settled rfl rfl _) narrowSum_fresh tallyRow opposite _ built
  exact ⟨wide, narrow, other, built, Result.eq_ok_of_toOption foundAfter, isNarrow, rebuilt,
    typed _ rfl⟩

end Compiler

end RowQuery
