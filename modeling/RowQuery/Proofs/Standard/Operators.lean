import RowQuery.Proofs.Compiler.Extension
import RowQuery.Proofs.Standard.Integers

/-!
Calls of the operators for numbers. Which overload such a call gets is a matter of one type, which all
operands are bound with: the type that they have of themselves if they share one, else the first type,
in the order of definition, that each of them can be bound with.
-/

namespace RowQuery

/-! ### Any call -/

namespace Compiler

variable {compiler : Compiler} {target : Expr} {method : String} {args : List Formula}
  {naturals : List Expr} {expected : Option Ty}

/-- A call that is bound has the offer of an overload that its arguments fit exactly, or that of the
first overload with an offer. -/
theorem bound_offer
    (steady : ∀ name, ∀ overload ∈ compiler.catalog.lookup name, overload.NeverFails)
    (unambiguous : Catalog.Unambiguous (compiler.catalog.lookup method))
    (natural : Natural (args.map (compiler.binder target)) naturals) {expr : Expr}
    (bound : (compiler.binder target (.call method args)).bind expected = .ok (.expr expr)) :
    ∃ before overload after, compiler.catalog.lookup method = before ++ overload :: after ∧
      compiler.Offers target method args naturals expected overload expr ∧
      ((naturals.map (·.ty) == overload.parameters) = true ∨
        ∀ earlier ∈ before, ∀ other,
          ¬ compiler.Offers target method args naturals expected earlier other) := by
  have taken : compiler.firstOffer? target method args naturals expected = some expr := by
    rw [← buildFor_eq_ok, buildFor_call steady natural, Built.get_eq_ok, settle_eq_expr] at bound
    exact bound
  by_cases exact : ∃ overload ∈ compiler.catalog.lookup method,
      (naturals.map (·.ty) == overload.parameters) = true ∧
        ∃ other, compiler.Offers target method args naturals expected overload other
  · obtain ⟨overload, listed, isExact, other, coerced, built, made, accepted, met⟩ := exact
    have unchanged : coerced = naturals := by
      have first := coerce_of_coerced made
      rw [coerce_of_coerced (coerced_self natural.length_eq isExact)] at first
      simp only [Except.ok.injEq, Option.some.injEq, Prod.mk.injEq, and_true] at first
      exact first.symm
    subst unchanged
    have same := firstOffer?_exact unambiguous natural listed isExact accepted met
    rw [taken] at same
    obtain rfl := Option.some.inj same
    obtain ⟨before, after, split⟩ := List.append_of_mem listed
    exact ⟨before, overload, after, split, ⟨coerced, built, made, accepted, met⟩, .inl isExact⟩
  · have noExact : ∀ overload ∈ compiler.catalog.lookup method,
        (naturals.map (·.ty) == overload.parameters) = true → ∀ other,
          ¬ compiler.Offers target method args naturals expected overload other :=
      fun overload listed isExact other offers => exact ⟨overload, listed, isExact, other, offers⟩
    rw [firstOffer?_partial natural noExact, List.findSome?_eq_some_iff] at taken
    obtain ⟨before, overload, after, split, offers, none⟩ := taken
    exact ⟨before, overload, after, split, (offers_iff natural).mpr offers,
      .inr fun earlier inside => (not_offers_iff natural).mpr (none earlier inside)⟩

/-- What holds of the natural arguments holds of each argument without an expected type. -/
theorem Natural.forall_of (natural : Natural (args.map (compiler.binder target)) naturals)
    {holds : Expr → Prop} (all : ∀ expr ∈ naturals, holds expr) :
    ∀ arg ∈ args, ∀ expr, (compiler.binder target arg).bind none = .ok (.expr expr) → holds expr := by
  induction args generalizing naturals with
  | nil => simp
  | cons arg args ih =>
      rw [List.map_cons] at natural
      obtain _ | ⟨bound, rest⟩ := natural
      obtain ⟨first, later⟩ := List.forall_mem_cons.mp all
      refine List.forall_mem_cons.mpr ⟨?_, ih rest later⟩
      intro expr again
      rw [bound, Except.ok.injEq, Built.expr.injEq] at again
      rw [← again]
      exact first

theorem bindsAs_replicate {count : Nat} {ty : Ty} :
    compiler.BindsAs target args (List.replicate count ty) ↔
      args.length = count ∧ ∀ arg ∈ args, compiler.Binds target arg (some ty) := by
  induction args generalizing count with
  | nil => cases count <;> simp [BindsAs]
  | cons arg args ih =>
      cases count with
      | zero => simp [BindsAs]
      | succ count =>
          rw [List.replicate_succ, BindsAs, List.forall₂_cons, ← BindsAs, ih, List.length_cons,
            Nat.add_right_cancel_iff, List.forall_mem_cons, Binds]
          exact and_left_comm

end Compiler

def Ty.number : Bool → NumericKind → Ty
  | false, kind => .numeric kind
  | true, kind => .nullable (.numeric kind)

namespace Standard

/-! ### The operators and their overloads -/

inductive Operation where
  | negation
  | binary (op : BinaryOp) (numeric : op.isLogical = false)

namespace Operation

def symbol : Operation → String
  | negation => UnaryOp.negate.symbol
  | binary op _ => op.symbol

def arity : Operation → Nat
  | negation => 1
  | binary _ _ => 2

def isArithmetic : Operation → Bool
  | negation => true
  | binary op _ => op.isArithmetic

def isDefined : Operation → Ty → Bool
  | negation, ty => Expr.unaryDefined .negate ty
  | binary op _, ty => Expr.binaryDefined op ty

def result (operation : Operation) (operand : Ty) : Ty :=
  if operation.isArithmetic then operand else .bool

def definition : Operation → Ty → Definition
  | negation, ty => .ofUnary .negate ty
  | binary op _, ty => .ofOperator op ty

inductive Makes : Operation → List Expr → Expr → Prop
  | negation {operand : Expr} : Makes .negation [operand] (.unary .negate operand)
  | binary {op : BinaryOp} {numeric : op.isLogical = false} {left right : Expr} :
      Makes (.binary op numeric) [left, right] (.binary op left right)

theorem Makes.ty {operation : Operation} {operands : List Expr} {node : Expr} {ty : Ty}
    (made : operation.Makes operands node) (typed : ∀ operand ∈ operands, operand.ty = ty) :
    node.ty = operation.result ty := by
  cases made with
  | negation => simpa [Expr.ty, result, isArithmetic] using typed
  | @binary op =>
      obtain ⟨left, _⟩ := List.forall_mem_cons.mp typed
      rw [Expr.ty, result, isArithmetic, left]

theorem parameters_eq (operation : Operation) (ty : Ty) (id : Nat) :
    ((operation.definition ty).numbered id).parameters = List.replicate operation.arity ty := by
  cases operation <;> rfl

/-- Null among the operands makes no difference. -/
theorem isDefined_number (operation : Operation) (optional : Bool) (kind : NumericKind) :
    operation.isDefined (.number optional kind) = operation.isDefined (.numeric kind) := by
  cases operation <;> cases optional <;> rfl

theorem eq_of_symbol {a b : Operation} (symbol : a.symbol = b.symbol) (arity : a.arity = b.arity) :
    a = b := by
  cases a with
  | negation =>
      cases b with
      | negation => rfl
      | binary _ _ => simp [Operation.arity] at arity
  | binary op _ =>
      cases b with
      | negation => simp [Operation.arity] at arity
      | binary other _ =>
          have same : op = other := symbol_inj symbol
          subst same
          rfl

/-- The overloads of an operator are its definitions for operand types. -/
theorem of_mem_lookup {settings : FunctionSettings} {operation : Operation} {overload : Overload}
    (listed : overload ∈ (Catalog.ofSettings settings).lookup operation.symbol)
    (arity : overload.parameters.length = operation.arity) :
    ∃ ty id, isOperand ty = true ∧ operation.isDefined ty = true ∧
      overload = (operation.definition ty).numbered id := by
  cases operation with
  | negation => exact negation_overload listed arity
  | binary op numeric => exact operator_overload listed arity

theorem accepts {operation : Operation} {ty : Ty} (operand : isOperand ty = true)
    (defined : operation.isDefined ty = true) {site : CallSite}
    (fits : site.Fits (List.replicate operation.arity ty)) (id : Nat) :
    ∃ node, operation.Makes site.args node ∧ (∀ arg ∈ site.args, arg.ty = ty) ∧
      ((operation.definition ty).numbered id).build site = .ok (some node) := by
  cases operation with
  | negation =>
      have negatable : Expr.unaryDefined .negate ty = true := defined
      obtain ⟨arg, args, typed, built⟩ := unary_accepts operand negatable fits id
      exact ⟨_, by rw [args]; exact .negation, by simpa [args] using typed, built⟩
  | binary op numeric =>
      obtain ⟨left, right, args, leftTyped, rightTyped, built⟩ :=
        operator_accepts operand defined fits id
      exact ⟨_, by rw [args]; exact .binary, by simp [args, leftTyped, rightTyped], built⟩

def all : List Operation :=
  [negation, binary .add rfl, binary .subtract rfl, binary .multiply rfl, binary .divide rfl,
    binary .modulo rfl, binary .equal rfl, binary .notEqual rfl, binary .lessThan rfl,
    binary .lessThanOrEqual rfl, binary .greaterThan rfl, binary .greaterThanOrEqual rfl]

theorem mem_all (operation : Operation) : operation ∈ all := by
  cases operation with
  | negation => simp [all]
  | binary op numeric => cases op <;> simp [BinaryOp.isLogical] at numeric <;> simp [all]

end Operation

/-! ### The order of the overloads -/

def operandTypes : List Ty :=
  NumericKind.all.flatMap (fun kind => [.number false kind, .number true kind]) ++
    [.string, .dateTime, .bool]

def rank : Ty → Nat
  | .numeric kind => 2 * NumericKind.all.idxOf kind
  | .nullable (.numeric kind) => 2 * NumericKind.all.idxOf kind + 1
  | .string => 22
  | .dateTime => 23
  | .bool => 24
  | _ => 25

theorem operandTypes_rank {ty : Ty} (listed : rank ty < 25) : operandTypes[rank ty]? = some ty := by
  have number (optional : Bool) (kind : NumericKind) :
      operandTypes[rank (.number optional kind)]? = some (.number optional kind) := by
    cases optional <;> cases kind with
    | integer kind => cases kind <;> rfl
    | f32 | f64 | decimal => rfl
  cases ty with
  | numeric kind => exact number false kind
  | nullable inner =>
      cases inner with
      | numeric kind => exact number true kind
      | _ => simp [rank] at listed
  | string | dateTime | bool => rfl
  | _ => simp [rank] at listed

theorem rank_inj {a b : Ty} (listed : rank b < 25) (same : rank a = rank b) : a = b := by
  have first := operandTypes_rank (same.symm ▸ listed)
  rw [same, operandTypes_rank listed] at first
  exact (Option.some.inj first).symm

def operandRank (overload : Overload) : Nat :=
  (overload.parameters.head?.map rank).getD 25

def ranks (overloads : List Overload) (arity : Nat) : List Nat :=
  (overloads.filter (·.parameters.length == arity)).map operandRank

/-- The overloads of an operator follow the order of the operand types, and no numeric type is left
out for which the operator is defined. -/
def inOrder (operation : Operation) (ranks : List Nat) : Bool :=
  decide (ranks.Pairwise (· < ·)) && ranks.all (· < 25) &&
    NumericKind.all.all fun kind => [false, true].all fun optional =>
      !operation.isDefined (.numeric kind) || ranks.contains (rank (.number optional kind))

theorem library_inOrder (includeBoolean : Bool) : Operation.all.all (fun operation =>
    inOrder operation (ranks ((Catalog.ofSettings ⟨true, includeBoolean⟩).lookup operation.symbol)
      operation.arity)) = true := by
  cases includeBoolean <;> decide +kernel

def Takes (settings : FunctionSettings) (operation : Operation) (ty : Ty) : Prop :=
  ∃ id, (operation.definition ty).numbered id ∈
    (Catalog.ofSettings settings).lookup operation.symbol

section

variable {settings : FunctionSettings} {operation : Operation}

theorem operandRank_eq (operation : Operation) (ty : Ty) (id : Nat) :
    operandRank ((operation.definition ty).numbered id) = rank ty := by
  cases operation <;> rfl

theorem mem_ranks {arity rank : Nat} {overloads : List Overload} :
    rank ∈ ranks overloads arity ↔
      ∃ overload ∈ overloads, overload.parameters.length = arity ∧ operandRank overload = rank := by
  simp [ranks, and_assoc]

theorem Takes.mem_ranks {ty : Ty} (takes : Takes settings operation ty) :
    rank ty ∈ ranks ((Catalog.ofSettings settings).lookup operation.symbol) operation.arity := by
  obtain ⟨id, listed⟩ := takes
  exact Standard.mem_ranks.mpr ⟨_, listed, by rw [operation.parameters_eq, List.length_replicate],
    operandRank_eq operation ty id⟩

theorem Takes.isOperand {ty : Ty} (takes : Takes settings operation ty) :
    isOperand ty = true ∧ operation.isDefined ty = true := by
  obtain ⟨id, listed⟩ := takes
  obtain ⟨other, otherId, operand, defined, same⟩ := Operation.of_mem_lookup listed
    (by rw [operation.parameters_eq, List.length_replicate])
  have parameters := congrArg Overload.parameters same
  rw [operation.parameters_eq, operation.parameters_eq] at parameters
  have typed : ty = other := by
    cases operation <;> exact (List.cons.inj parameters).1
  rw [typed]
  exact ⟨operand, defined⟩

theorem inOrder_lookup (standard : settings.standardLibrary = true) (operation : Operation) :
    inOrder operation (ranks ((Catalog.ofSettings settings).lookup operation.symbol)
      operation.arity) = true := by
  obtain ⟨library, includeBoolean⟩ := settings
  obtain rfl : library = true := standard
  exact List.all_eq_true.mp (library_inOrder includeBoolean) operation operation.mem_all

theorem Takes.rank_lt (standard : settings.standardLibrary = true) {ty : Ty}
    (takes : Takes settings operation ty) : rank ty < 25 := by
  have checked := inOrder_lookup standard operation
  simp only [inOrder, Bool.and_eq_true, List.all_eq_true, decide_eq_true_eq] at checked
  exact checked.1.2 _ takes.mem_ranks

theorem rank_number_lt (optional : Bool) (kind : NumericKind) : rank (.number optional kind) < 25 := by
  cases optional <;> cases kind with
  | integer kind => cases kind <;> decide
  | f32 | f64 | decimal => decide

theorem takes_number (standard : settings.standardLibrary = true) (optional : Bool)
    {kind : NumericKind} (defined : operation.isDefined (.numeric kind) = true) :
    Takes settings operation (.number optional kind) := by
  have checked := inOrder_lookup standard operation
  simp only [inOrder, Bool.and_eq_true, List.all_eq_true, Bool.or_eq_true, Bool.not_eq_true',
    List.contains_iff_mem] at checked
  have isKind : kind ∈ NumericKind.all := by
    cases kind with
    | integer kind => cases kind <;> decide
    | f32 | f64 | decimal => decide
  have isListed := checked.2 kind isKind optional (by cases optional <;> simp)
  rw [defined] at isListed
  simp only [Bool.true_eq_false, false_or] at isListed
  obtain ⟨overload, listed, arity, ranked⟩ := mem_ranks.mp isListed
  obtain ⟨ty, id, _, _, rfl⟩ := Operation.of_mem_lookup listed arity
  rw [operandRank_eq] at ranked
  rw [← rank_inj (rank_number_lt optional kind) ranked]
  exact ⟨id, listed⟩

/-- Of two overloads the one that was defined first has the operand type of the lower rank. -/
theorem rank_le_of_later (standard : settings.standardLibrary = true) {first second : Ty}
    {id : Nat} {before after : List Overload}
    (split : (Catalog.ofSettings settings).lookup operation.symbol =
      before ++ (operation.definition first).numbered id :: after)
    (takes : Takes settings operation second)
    (later : ∀ id, (operation.definition second).numbered id ∉ before) : rank first ≤ rank second := by
  have checked := inOrder_lookup standard operation
  simp only [inOrder, Bool.and_eq_true, decide_eq_true_eq, ranks, List.pairwise_map,
    List.pairwise_filter, split] at checked
  obtain ⟨_, ordered, _⟩ := List.pairwise_append.mp checked.1.1
  obtain ⟨otherId, listed⟩ := takes
  rw [split] at listed
  rcases List.mem_append.mp listed with inBefore | fromFirst
  · exact absurd inBefore (later otherId)
  rcases List.mem_cons.mp fromFirst with same | inAfter
  · have ranked := operandRank_eq operation second otherId
    rw [same, operandRank_eq] at ranked
    exact Nat.le_of_eq ranked
  · have lower := List.rel_of_pairwise_cons ordered inAfter
      (by simp [operation.parameters_eq]) (by simp [operation.parameters_eq])
    rw [operandRank_eq, operandRank_eq] at lower
    exact Nat.le_of_lt lower

end

/-! ### Calls of operators -/

section

variable {settings : FunctionSettings} {compiler : Compiler} {target : Expr} {operation : Operation}
  {args : List Formula} {expected : Option Ty}

/-- A type that all operands can be bound with has an offer for the call. -/
theorem offers_of_binds (library : compiler.catalog = .ofSettings settings)
    (counted : args.length = operation.arity) {ty : Ty} (takes : Takes settings operation ty)
    (binds : ∀ arg ∈ args, compiler.Binds target arg (some ty))
    (meets : (operation.result ty).Meets expected) {naturals : List Expr}
    (natural : Compiler.Natural (args.map (compiler.binder target)) naturals) (id : Nat) :
    ∃ offer, compiler.Offers target operation.symbol args naturals expected
      ((operation.definition ty).numbered id) offer := by
  obtain ⟨coerced, made⟩ := (Compiler.bindsAs_replicate.mpr ⟨counted, binds⟩).coerced natural
  obtain ⟨operand, defined⟩ := takes.isOperand
  have fits := Compiler.siteOf_fits_of_steady (compiler_neverFails library) natural made
    compiler.view operation.symbol
  obtain ⟨node, makes, typed, accepted⟩ := Operation.accepts operand defined fits id
  rw [← makes.ty typed] at meets
  obtain ⟨offer, met⟩ := Compiler.meet?_eq_some_iff.mpr meets
  refine ⟨offer, coerced, node, ?_, accepted, met⟩
  rw [operation.parameters_eq]
  exact made

theorem call_binds (library : compiler.catalog = .ofSettings settings)
    (counted : args.length = operation.arity) {ty : Ty} (takes : Takes settings operation ty)
    (binds : ∀ arg ∈ args, compiler.Binds target arg (some ty))
    (meets : (operation.result ty).Meets expected) :
    compiler.Binds target (.call operation.symbol args) expected := by
  obtain ⟨naturals, natural⟩ :=
    (Compiler.bindsAs_replicate.mpr ⟨counted, binds⟩).natural
  obtain ⟨id, listed⟩ := takes
  obtain ⟨offer, offers⟩ := offers_of_binds library counted ⟨id, listed⟩ binds meets natural id
  rw [← library] at listed
  exact Compiler.bind_call_of_offers (compiler_neverFails library) natural listed offers

/-- How a call of an operator was bound: with operands of the type `ty`, which is the one that they
have of themselves, or the first that has an offer. -/
structure Chosen (settings : FunctionSettings) (compiler : Compiler) (target : Expr)
    (operation : Operation) (args : List Formula) (expected : Option Ty) (ty : Ty)
    (operands : List Expr) (node : Expr) : Prop where
  takes : Takes settings operation ty
  binds : ∀ arg ∈ args, compiler.Binds target arg (some ty)
  bound : List.Forall₂ (fun arg operand => ∃ given, (given = none ∨ given = some ty) ∧
    (compiler.binder target arg).bind given = .ok (.expr operand)) args operands
  typed : ∀ operand ∈ operands, operand.ty = ty
  made : operation.Makes operands node
  meets : (operation.result ty).Meets expected
  first : (∀ arg ∈ args, ∀ natural, (compiler.binder target arg).bind none = .ok (.expr natural) →
      natural.ty = ty) ∨
    ∀ other, Takes settings operation other →
      (∀ arg ∈ args, compiler.Binds target arg (some other)) →
      (operation.result other).Meets expected → rank ty ≤ rank other

theorem eq_of_exact {naturals : List Expr} {count : Nat} {ty : Ty} (operand : isOperand ty = true)
    (exact : (naturals.map (·.ty) == List.replicate count ty) = true) :
    ∀ natural ∈ naturals, natural.ty = ty := by
  induction naturals generalizing count with
  | nil => simp
  | cons natural naturals ih =>
      cases count with
      | zero => simp at exact
      | succ count =>
          rw [List.map_cons, List.replicate_succ, List.cons_beq_cons, Bool.and_eq_true] at exact
          exact List.forall_mem_cons.mpr ⟨eq_of_beq_operand operand exact.1, ih exact.2⟩

theorem call_chosen (library : compiler.catalog = .ofSettings settings)
    (standard : settings.standardLibrary = true) (counted : args.length = operation.arity)
    {expr : Expr} (bound : (compiler.binder target (.call operation.symbol args)).bind expected =
      .ok (.expr expr)) :
    ∃ ty operands node, Chosen settings compiler target operation args expected ty operands node ∧
      Compiler.meet? node expected = some expr := by
  have steady := compiler_neverFails library
  have unambiguous : Catalog.Unambiguous (compiler.catalog.lookup operation.symbol) := by
    rw [library]
    exact (Catalog.Reachable.addAll .empty _).unambiguous_lookup _
  obtain ⟨naturals, natural⟩ : ∃ naturals,
      Compiler.Natural (args.map (compiler.binder target)) naturals := by
    rw [Compiler.binder, Compiler.binders_eq_map] at bound
    obtain ⟨naturals, _, _, _, natural, _⟩ := Compiler.callBinder_expr bound
    exact ⟨naturals, natural⟩
  obtain ⟨before, overload, after, split, ⟨operands, node, made, accepted, met⟩, first⟩ :=
    Compiler.bound_offer steady unambiguous natural bound
  rw [library] at split
  have listed : overload ∈ (Catalog.ofSettings settings).lookup operation.symbol := by
    simp [split]
  obtain ⟨ty, id, operand, defined, rfl⟩ := Operation.of_mem_lookup listed (by
    rw [← made.length_eq, List.length_map, counted])
  rw [operation.parameters_eq] at made first
  have fits := Compiler.siteOf_fits_of_steady steady natural made compiler.view
    operation.symbol
  obtain ⟨built, makes, typed, building⟩ := Operation.accepts operand defined fits id
  rw [building] at accepted
  obtain rfl : built = node := by simpa using accepted
  have replicated : ∀ parameter ∈ List.replicate operation.arity ty,
      some parameter = none ∨ some parameter = some ty := by
    intro parameter inside
    exact .inr (congrArg some (List.eq_of_mem_replicate inside))
  refine ⟨ty, operands, built, ⟨⟨id, listed⟩, ?_, ?_, typed, makes, ?_, ?_⟩, met⟩
  · exact (Compiler.bindsAs_replicate.mp (made.bindsAs natural)).2
  · exact List.forall₂_map_left_iff.mp (made.bound_with natural _ (.inl rfl) replicated)
  · rw [← makes.ty typed]
    exact Compiler.meet?_eq_some_iff.mp ⟨expr, met⟩
  · rcases first with exact | none
    · exact .inl (natural.forall_of (eq_of_exact operand exact))
    · refine .inr fun other takes binds meets => rank_le_of_later standard split takes ?_
      intro otherId inside
      obtain ⟨offer, offers⟩ := offers_of_binds library counted takes binds meets natural otherId
      exact none _ inside offer offers

end

end Standard

end RowQuery
