import RowQuery.Proofs.Compiler.Resolution

/-!
Calls of the functions of the standard library with arguments of exactly their parameter types. Such
a call is bound to the function and answers what the function makes of the answers to the arguments.
-/

namespace RowQuery

abbrev I32 := { n : Int // IntegerKind.i32.Holds n }

theorem IntegerKind.holds_i32 {n : Int} :
    IntegerKind.i32.Holds n ↔ -2147483648 ≤ n ∧ n ≤ 2147483647 := Iff.rfl

namespace I32

def zero : I32 :=
  ⟨0, IntegerKind.holds_zero .i32⟩

def one : I32 :=
  ⟨1, by decide⟩

def value (n : I32) : Value :=
  .integer ⟨.i32, n.1, n.2⟩

end I32

def Formula.ofI32 (n : I32) : Formula :=
  .constant n.value

namespace Compiler

def answer (compiler : Compiler) (target : Expr) (host : Host) (row : Value) (formula : Formula) :
    Result Value := do
  (← compiler.build target formula).evaluate host row

def Types (compiler : Compiler) (target : Expr) (formula : Formula) (ty : Ty) : Prop :=
  ∃ expr, compiler.build target formula = .ok expr ∧ expr.ty = ty

variable {compiler : Compiler} {target : Expr} {host : Host} {row : Value}

theorem types_constant (value : Value) : compiler.Types target (.constant value) value.typeOf :=
  ⟨.literal value, rfl, rfl⟩

@[simp] theorem answer_constant (value : Value) :
    compiler.answer target host row (.constant value) = .ok value := rfl

theorem types_constants (values : List Value) :
    List.Forall₂ (compiler.Types target) (values.map .constant) (values.map (·.typeOf)) := by
  induction values with
  | nil => exact .nil
  | cons value values ih => exact .cons (types_constant value) ih

theorem mapM_answer_constants (values : List Value) :
    (values.map .constant).mapM (compiler.answer target host row) = .ok values := by
  induction values with
  | nil => rfl
  | cons value values ih =>
      rw [List.map_cons, List.mapM_cons, ih, answer_constant]
      rfl

theorem answer_of_build {formula : Formula} {expr : Expr}
    (built : compiler.build target formula = .ok expr) :
    compiler.answer target host row formula = expr.evaluate host row := by
  rw [answer, built, Result.ok_bind]

theorem mapM_answer {args : List Formula} {exprs : List Expr}
    (built : List.Forall₂ (fun arg expr => compiler.build target arg = .ok expr) args exprs) :
    args.mapM (compiler.answer target host row) = Expr.evaluateAll host row exprs := by
  induction built with
  | nil => rfl
  | cons first _ ih => rw [List.mapM_cons, answer_of_build first, ih, Expr.evaluateAll]

theorem build_of_types {args : List Formula} {types : List Ty}
    (typed : List.Forall₂ (compiler.Types target) args types) :
    ∃ exprs, List.Forall₂ (fun arg expr => compiler.build target arg = .ok expr) args exprs ∧
      exprs.map (·.ty) = types := by
  induction typed with
  | nil => exact ⟨[], .nil, rfl⟩
  | cons first _ ih =>
      obtain ⟨expr, built, rfl⟩ := first
      obtain ⟨exprs, others, rfl⟩ := ih
      exact ⟨expr :: exprs, .cons built others, rfl⟩

end Compiler

namespace Standard

/-! ### Arguments -/

section

variable {args : List Value} {index : Nat}

theorem textArg_eq {s : String} (present : args[index]? = some (.string s)) (method : String) :
    textArg method args index = .ok s := by
  rw [textArg, present]
  rfl

theorem dateArg_eq {t : DateTime} (present : args[index]? = some (.dateTime t)) (method : String) :
    dateArg method args index = .ok t := by
  rw [dateArg, present]
  rfl

theorem indexArg_eq {n : I32} (present : args[index]? = some n.value) (method : String) :
    indexArg method args index = .ok n.1 := by
  rw [indexArg, present]
  rfl

end

/-! ### Calls -/

theorem signatures_apart : (strings ++ sequences ++ calendar ++ conditional ++ boolean).Pairwise
    fun a b => (a.parameters == b.parameters && Catalog.key a.method == Catalog.key b.method) =
      false := by
  decide +kernel

/-- Nothing that is defined later takes the place of a function on texts or date-times. -/
theorem provided {settings : FunctionSettings} (standard : settings.standardLibrary = true)
    {definition : Definition} (member : definition ∈ strings ++ calendar) :
    ∃ id, definition.numbered id ∈ (Catalog.ofSettings settings).lookup definition.method := by
  obtain ⟨_, includeBoolean⟩ := settings
  obtain rfl := standard
  have listed : definitions ⟨true, includeBoolean⟩ = NumericKind.all.flatMap math ++
      (strings ++ sequences ++ calendar ++ conditional ++
        if includeBoolean then boolean else []) := by
    simp [definitions]
  rw [Catalog.ofSettings, listed, Catalog.addAll, List.foldl_append]
  refine Catalog.mem_lookup_of_apart _ (signatures_apart.sublist ?_) ?_
  · cases includeBoolean <;> simp
  · simp only [List.mem_append] at member ⊢
    tauto

section

variable {compiler : Compiler} {settings : FunctionSettings} {target : Expr} {method : String}
  {parameters : List Ty} {result : Ty} {invoke : Host → List Value → Result Value}
  {args : List Formula} (library : compiler.catalog = .ofSettings settings)
  (standard : settings.standardLibrary = true)
  (member : Definition.ofFunction method parameters result invoke ∈ strings ++ calendar)
  (typed : List.Forall₂ (compiler.Types target) args parameters)

include library standard member typed

theorem build_call : ∃ id exprs,
    List.Forall₂ (fun arg expr => compiler.build target arg = .ok expr) args exprs ∧
      compiler.build target (.call method args) =
        .ok (.call ⟨method, .overload id, invoke⟩ exprs result) := by
  obtain ⟨id, listed⟩ := provided standard member
  obtain ⟨exprs, built, types⟩ := Compiler.build_of_types typed
  have natural := Compiler.natural_of_build built
  have reached : compiler.catalog.Reachable := by
    rw [library]
    exact .addAll .empty _
  have exact : (exprs.map (·.ty) == parameters) = true := by
    rw [types]
    have reflexive : ReflBEq Ty := ⟨Ty.beq_self _⟩
    exact beq_self_eq_true parameters
  have call := Compiler.buildFor_call (compiler_neverFails library) natural method none
  rw [Compiler.firstOffer?_exact (reached.unambiguous_lookup method) natural
    (library ▸ listed) exact rfl rfl] at call
  exact ⟨id, exprs, built, call⟩

theorem types_call : compiler.Types target (.call method args) result := by
  obtain ⟨_, _, _, call⟩ := build_call library standard member typed
  exact ⟨_, call, rfl⟩

theorem answer_call (host : Host) (row : Value) :
    compiler.answer target host row (.call method args) =
      args.mapM (compiler.answer target host row) >>= invoke host := by
  obtain ⟨_, _, built, call⟩ := build_call library standard member typed
  rw [Compiler.answer_of_build call, Compiler.mapM_answer built, Expr.evaluate]

end

theorem answer_values {compiler : Compiler} {settings : FunctionSettings} {target : Expr}
    {method : String} {parameters : List Ty} {result : Ty}
    {invoke : Host → List Value → Result Value} (library : compiler.catalog = .ofSettings settings)
    (standard : settings.standardLibrary = true)
    (member : Definition.ofFunction method parameters result invoke ∈ strings ++ calendar)
    (values : List Value) (typed : values.map (·.typeOf) = parameters) (host : Host) (row : Value) :
    compiler.answer target host row (.call method (values.map .constant)) = invoke host values := by
  subst typed
  rw [answer_call library standard member (Compiler.types_constants values),
    Compiler.mapM_answer_constants, Result.ok_bind]

theorem standard_library :
    (Compiler.ofCatalog .standard).catalog = .ofSettings Settings.standard.functions := by
  rw [Compiler.ofCatalog, Catalog.standard]

def rowless : Formula → Result Value :=
  (Compiler.ofCatalog .standard).answer (.target .null)
    ⟨fun _ _ => .error (.typeError "no conversion"), .epoch⟩ .null

end Standard

end RowQuery
