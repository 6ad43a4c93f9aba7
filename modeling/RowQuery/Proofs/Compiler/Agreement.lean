import RowQuery.Proofs.Compiler.Binding
import RowQuery.Proofs.Standard.Library

/-!
Binding with an expected type agrees with binding without one: it succeeds only where the formula has
a type of its own, gives the conversion of what the formula is of itself, and declines instead of
failing when no overload fails.
-/

namespace RowQuery

theorem Expr.convertTo?_self (expr : Expr) (implicitOnly : Bool) :
    expr.convertTo? expr.ty implicitOnly = some expr := by
  simp [convertTo?]

/-- A call as an overload with these parameter types gets to see it: the arguments have the types,
and each can be bound again, with a result of the type that is asked for if there is one. -/
structure CallSite.Fits (site : CallSite) (parameters : List Ty) : Prop where
  args : List.Forall₂ (fun arg parameter => (arg.ty == parameter) = true) site.args parameters
  naturals : site.natural.length = parameters.length
  rebuilds : site.rebuild.length = parameters.length
  rebuild : ∀ rebuild ∈ site.rebuild, ∀ ty, ∃ built, rebuild ty = .ok built ∧
    ∀ expr, built = .expr expr → (expr.ty == ty) = true

def Overload.NeverFails (overload : Overload) : Prop :=
  ∀ site : CallSite, site.Fits overload.parameters → ∃ outcome, overload.build site = .ok outcome

/-- The overload makes the same of a call whichever of the two compilers it is shown. -/
def Overload.Indifferent (overload : Overload) (first second : CompilerView) : Prop :=
  ∀ site : CallSite,
    overload.build { site with compiler := first } = overload.build { site with compiler := second }

namespace Compiler

variable {compiler : Compiler} {target : Expr} {formula : Formula} {ty : Ty}

/-- Overloads that do not look at the compiler choose the same way for another one. -/
theorem firstAccepted_view {method : String} {args : List Formula} {binders : List Binder}
    {naturals : List Expr} {first second : CompilerView} {overloads : List Overload}
    (indifferent : ∀ overload ∈ overloads, overload.Indifferent first second)
    (expected : Option Ty) {found : List Candidate}
    (listed : ∀ candidate ∈ found, candidate.overload ∈ overloads) :
    firstAccepted (siteOf first target method args binders naturals) expected found =
      firstAccepted (siteOf second target method args binders naturals) expected found := by
  refine firstAccepted_congr ?_ expected
  intro candidate member
  exact indifferent candidate.overload (listed candidate member)
    (siteOf first target method args binders naturals candidate.args)

theorem callBinder_view {first second : Compiler} {method : String} {args : List Formula}
    {binders : List Binder}
    (listed : first.catalog.lookup method = second.catalog.lookup method)
    (indifferent : ∀ overload ∈ second.catalog.lookup method,
      overload.Indifferent first.view second.view) :
    first.callBinder target method args binders = second.callBinder target method args binders := by
  simp only [callBinder, listed]
  congr 1
  funext expected
  cases resolved : resolve binders (second.catalog.lookup method) with
  | error fault => rfl
  | ok outcome =>
      obtain ⟨naturals, found⟩ := outcome
      have same : firstAccepted (siteOf first.view target method args binders naturals) expected
            found =
          firstAccepted (siteOf second.view target method args binders naturals) expected found :=
        firstAccepted_view indifferent expected
          fun candidate member => ((resolve_ok resolved).2 candidate member).1
      unfold siteOf at same
      simp only [Result.ok_bind, same]

/-- What can be bound with an expected type can be bound without one. -/
theorem bind_none_of_some {expr : Expr}
    (bound : (compiler.binder target formula).bind (some ty) = .ok (.expr expr)) :
    ∃ natural, (compiler.binder target formula).bind none = .ok (.expr natural) := by
  cases formula with
  | constant value => exact ⟨.literal value, rfl⟩
  | field path =>
      simp only [binder] at bound ⊢
      obtain ⟨resolved, reached, _⟩ := bindField_expr.mp bound
      exact ⟨resolved, bindField_expr.mpr ⟨resolved, reached, rfl⟩⟩
  | call method args =>
      rw [binder] at bound ⊢
      obtain ⟨naturals, found, resolved, outcome, accepted, iff⟩ := callBinder_ok bound
      rw [(iff expr).mp rfl] at accepted
      obtain ⟨natural, accepted⟩ := firstAccepted_natural accepted
      obtain ⟨built, bound, iff⟩ := callBinder_of_accepted resolved accepted
      exact ⟨natural, by rw [bound, (iff natural).mpr rfl]⟩

/-- A formula that is not a constant is bound with an expected type to the conversion of what it is
of itself. -/
theorem bind_some_of_convertTo {natural converted : Expr} (computed : formula.isConstant = false)
    (bound : (compiler.binder target formula).bind none = .ok (.expr natural))
    (met : natural.convertTo? ty true = some converted) :
    (compiler.binder target formula).bind (some ty) = .ok (.expr converted) := by
  cases formula with
  | constant value => simp [Formula.isConstant] at computed
  | field path =>
      simp only [binder] at bound ⊢
      obtain ⟨resolved, reached, taken⟩ := bindField_expr.mp bound
      rw [Option.some.inj taken] at reached
      exact bindField_expr.mpr ⟨natural, reached, met⟩
  | call method args =>
      rw [binder] at bound ⊢
      obtain ⟨naturals, found, resolved, outcome, accepted, iff⟩ := callBinder_ok bound
      rw [(iff natural).mp rfl] at accepted
      obtain ⟨built, bound, iff⟩ := callBinder_of_accepted resolved (firstAccepted_meet accepted met)
      rw [bound, (iff converted).mpr rfl]

/-! Overloads that never fail. -/

theorem Natural.of_mem {binders : List Binder} {exprs : List Expr}
    (natural : Natural binders exprs) {binder : Binder} (member : binder ∈ binders) :
    ∃ expr, binder.bind none = .ok (.expr expr) := by
  induction natural with
  | nil => simp at member
  | cons bound _ ih =>
      rcases List.mem_cons.mp member with rfl | later
      · exact ⟨_, bound⟩
      · exact ih later

theorem siteOf_fits {view : CompilerView} {method : String} {args : List Formula}
    {naturals coerced : List Expr} {parameters : List Ty}
    (natural : Natural (args.map (compiler.binder target)) naturals)
    (made : Coerced (args.map (compiler.binder target)) naturals parameters coerced)
    (again : ∀ arg ∈ args, ∀ ty, ∃ built, (compiler.binder target arg).bind (some ty) = .ok built) :
    (siteOf view target method args (args.map (compiler.binder target)) naturals coerced).Fits
      parameters where
  args := made.types
  naturals := by
    have known := made.length_eq
    rw [natural.length_eq] at known
    exact known
  rebuilds := by
    have known := made.length_eq
    simpa [siteOf] using known
  rebuild := by
    intro rebuild member ty
    simp only [siteOf, List.map_map, List.mem_map, Function.comp_apply] at member
    obtain ⟨arg, inside, rfl⟩ := member
    obtain ⟨built, bound⟩ := again arg inside ty
    refine ⟨built, bound, ?_⟩
    intro expr same
    rw [same] at bound
    exact bind_ty bound

/-- If no overload fails, a formula with a type of its own is bound or declined with every expected
type. -/
theorem bind_total
    (steady : ∀ method, ∀ overload ∈ compiler.catalog.lookup method, overload.NeverFails)
    {natural : Expr} (bound : (compiler.binder target formula).bind none = .ok (.expr natural))
    (expected : Option Ty) : ∃ built, (compiler.binder target formula).bind expected = .ok built := by
  induction formula generalizing natural expected with
  | constant value => exact ⟨_, rfl⟩
  | field path =>
      simp only [binder, bindField] at bound ⊢
      obtain ⟨resolved, reached, _⟩ := Result.bind_eq_ok.mp bound
      rw [reached, Result.ok_bind]
      split
      · exact ⟨_, rfl⟩
      · split
        · exact ⟨_, rfl⟩
        · exact ⟨_, rfl⟩
  | call method args ih =>
      rw [binder, binders_eq_map] at bound ⊢
      obtain ⟨naturals, found, resolved, _⟩ := callBinder_ok bound
      obtain ⟨natural, fitting⟩ := resolve_ok resolved
      have again (arg : Formula) (inside : arg ∈ args) (ty : Ty) :
          ∃ built, (compiler.binder target arg).bind (some ty) = .ok built := by
        obtain ⟨expr, first⟩ := natural.of_mem (List.mem_map_of_mem inside)
        exact ih arg inside first (some ty)
      obtain ⟨outcome, accepted⟩ : ∃ outcome,
          firstAccepted
            (siteOf compiler.view target method args (args.map (compiler.binder target)) naturals)
            expected found = .ok outcome := by
        apply firstAccepted_ok
        intro candidate member
        obtain ⟨listed, made⟩ := fitting candidate member
        exact steady method candidate.overload listed _ (siteOf_fits natural made again)
      obtain ⟨built, bound, _⟩ := callBinder_of_accepted resolved accepted
      exact ⟨built, bound⟩

end Compiler

/-! No overload of the standard library fails. -/

namespace Standard

theorem argumentAs_ok {site : CallSite} {parameters : List Ty} (fits : site.Fits parameters)
    {index : Nat} (bound : index < parameters.length) (ty : Ty) :
    ∃ outcome, site.argumentAs? index ty = .ok outcome ∧
      ∀ expr, outcome = some expr → (expr.ty == ty) = true := by
  have inside : index < site.rebuild.length := by
    rw [fits.rebuilds]
    exact bound
  have listed := List.getElem?_eq_getElem inside
  obtain ⟨built, rebound, typed⟩ := fits.rebuild _ (List.mem_of_getElem? listed) ty
  refine ⟨built.expr?, ?_, ?_⟩
  · rw [CallSite.argumentAs?, CallSite.rebuildAt, listed]
    simp only [rebound]
    rfl
  · intro expr found
    exact typed expr (Built.expr?_eq_some.mp found)

theorem choose_ok {test ifTrue ifFalse : Expr} (isBool : (test.ty == .bool) = true)
    (shared : (ifTrue.ty == ifFalse.ty) = true) :
    ∃ outcome, (Expr.choose test ifTrue ifFalse).map some = .ok outcome := by
  simp [Expr.choose, bne, isBool, shared, Except.map]

theorem choice_ok {site : CallSite} (fits : site.Fits [.bool, .any, .any]) :
    ∃ outcome, choice site = .ok outcome := by
  unfold choice
  split
  · rename_i test _ _ _ a b args natural
    have isBool : (test.ty == .bool) = true := by
      have types := fits.args
      rw [args] at types
      cases types with
      | cons first _ => exact first
    split
    · rename_i same
      exact choose_ok isBool same
    · obtain ⟨second, rebound, secondTyped⟩ := argumentAs_ok fits (by decide : 2 < 3) a.ty
      rw [rebound, Result.ok_bind]
      obtain _ | second := second
      · obtain ⟨first, rebound, firstTyped⟩ := argumentAs_ok fits (by decide : 1 < 3) b.ty
        simp only
        rw [rebound, Result.ok_bind]
        obtain _ | first := first
        · simp only
          split
          · exact ⟨none, rfl⟩
          · rename_i common _
            obtain ⟨first, rebound, firstTyped⟩ := argumentAs_ok fits (by decide : 1 < 3) common
            rw [rebound, Result.ok_bind]
            obtain ⟨second, rebound, secondTyped⟩ := argumentAs_ok fits (by decide : 2 < 3) common
            rw [rebound, Result.ok_bind]
            split
            · exact choose_ok isBool
                (Ty.same_trans (firstTyped _ rfl) (Ty.same_symm (secondTyped _ rfl)))
            · exact ⟨none, rfl⟩
        · exact choose_ok isBool (firstTyped first rfl)
      · exact choose_ok isBool (Ty.same_symm (secondTyped second rfl))
  · exact ⟨none, rfl⟩

theorem membership_ok {site : CallSite} (fits : site.Fits [.enumerable, .any]) :
    ∃ outcome, membership site = .ok outcome := by
  unfold membership
  split
  · exact ⟨none, rfl⟩
  · split
    · exact ⟨none, rfl⟩
    · rename_i element _
      obtain ⟨item, rebound, _⟩ := argumentAs_ok fits (by decide : 1 < 2) element
      rw [rebound, Result.ok_bind]
      obtain _ | item := item
      · exact ⟨none, rfl⟩
      · exact ⟨_, rfl⟩

theorem counting_ok (site : CallSite) : ∃ outcome, counting site = .ok outcome := by
  unfold counting
  split
  · exact ⟨none, rfl⟩
  · split
    · exact ⟨none, rfl⟩
    · exact ⟨_, rfl⟩

/-- An operator accepts each call that fits its operand types. -/
theorem operator_accepts {op : BinaryOp} {ty : Ty} (operand : isOperand ty = true)
    (defined : Expr.binaryDefined op ty = true) {site : CallSite} (fits : site.Fits [ty, ty])
    (id : Nat) :
    ∃ left right, site.args = [left, right] ∧ left.ty = ty ∧ right.ty = ty ∧
      ((Definition.ofOperator op ty).numbered id).build site = .ok (some (.binary op left right)) := by
  obtain ⟨view, target, method, arguments, natural, args, rebuild⟩ := site
  cases fits.args with
  | @cons left _ _ _ leftTyped rest =>
      cases rest with
      | @cons right _ _ _ rightTyped rest =>
          cases rest
          have leftTy := eq_of_beq_operand operand leftTyped
          have rightTy := eq_of_beq_operand operand rightTyped
          refine ⟨left, right, rfl, leftTy, rightTy, ?_⟩
          simp [Definition.numbered, Definition.ofOperator, Definition.ofArgs, Expr.applyBinary,
            bne, leftTy, rightTy, defined, Except.map]

theorem unary_accepts {op : UnaryOp} {ty : Ty} (operand : isOperand ty = true)
    (defined : Expr.unaryDefined op ty = true) {site : CallSite} (fits : site.Fits [ty]) (id : Nat) :
    ∃ arg, site.args = [arg] ∧ arg.ty = ty ∧
      ((Definition.ofUnary op ty).numbered id).build site = .ok (some (.unary op arg)) := by
  obtain ⟨view, target, method, arguments, natural, args, rebuild⟩ := site
  cases fits.args with
  | @cons arg _ _ _ argTyped rest =>
      cases rest
      have argTy := eq_of_beq_operand operand argTyped
      refine ⟨arg, rfl, argTy, ?_⟩
      simp [Definition.numbered, Definition.ofUnary, Definition.ofArgs, Expr.applyUnary, argTy,
        defined, Except.map]

theorem Form.neverFails {definition : Definition} (form : Form definition) (id : Nat) :
    (definition.numbered id).NeverFails := by
  intro site fits
  cases form with
  | operator op operand defined =>
      obtain ⟨left, right, _, _, _, built⟩ := operator_accepts operand defined fits id
      exact ⟨_, built⟩
  | unary op operand defined =>
      obtain ⟨arg, _, _, built⟩ := unary_accepts operand defined fits id
      exact ⟨_, built⟩
  | function invoke _ _ _ => exact ⟨_, rfl⟩
  | choice => exact choice_ok fits
  | membership => exact membership_ok fits
  | counting => exact counting_ok site

theorem neverFails {definitions : List Definition} (forms : ∀ definition ∈ definitions, Form definition)
    {method : String} {overload : Overload}
    (listed : overload ∈ (Catalog.empty.addAll definitions).lookup method) : overload.NeverFails := by
  obtain ⟨definition, member, id, _, rfl⟩ := Catalog.mem_lookup listed
  exact (forms definition member).neverFails id

theorem compiler_neverFails {compiler : Compiler} {settings : FunctionSettings}
    (library : compiler.catalog = .ofSettings settings) (name : String) :
    ∀ overload ∈ compiler.catalog.lookup name, overload.NeverFails := by
  intro overload listed
  rw [library] at listed
  exact neverFails (definitions_form settings) listed

/-- No definition of the library looks at the compiler. -/
theorem Form.indifferent {definition : Definition} (form : Form definition) (id : Nat)
    (first second : CompilerView) : (definition.numbered id).Indifferent first second := by
  intro site
  cases form <;> rfl

theorem compiler_indifferent {compiler : Compiler} {settings : FunctionSettings}
    (library : compiler.catalog = .ofSettings settings) (first second : CompilerView)
    (method : String) :
    ∀ overload ∈ compiler.catalog.lookup method, overload.Indifferent first second := by
  intro overload listed
  rw [library] at listed
  obtain ⟨definition, member, id, _, rfl⟩ := Catalog.mem_lookup listed
  exact (definitions_form settings definition member).indifferent id first second

end Standard

/-! Both ways of binding. -/

namespace Compiler

/-- A formula that is bound to a type has it and can be bound without it. If it is not a constant, it
is bound to the conversion of what it is of itself wherever that can be converted. If no overload
fails, it is bound to each type or declined. -/
theorem build_agrees_with_buildAs (compiler : Compiler) (target : Expr) (formula : Formula)
    (ty : Ty) :
    (∀ expr, compiler.buildAs target formula ty = .ok expr →
      (expr.ty == ty) = true ∧ ∃ natural, compiler.build target formula = .ok natural) ∧
    (formula.isConstant = false → ∀ natural, compiler.build target formula = .ok natural →
      compiler.buildAs target formula natural.ty = .ok natural ∧
      ∀ converted, natural.convertTo? ty true = some converted →
        compiler.buildAs target formula ty = .ok converted) ∧
    ((∀ method, ∀ overload ∈ compiler.catalog.lookup method, overload.NeverFails) →
      ∀ natural, compiler.build target formula = .ok natural →
        ∃ outcome, compiler.buildAs? target formula ty = .ok outcome) := by
  simp only [build_eq_ok, buildAs_eq_ok]
  refine ⟨?_, ?_, ?_⟩
  · intro expr bound
    exact ⟨bind_ty bound, bind_none_of_some bound⟩
  · intro computed natural bound
    exact ⟨bind_some_of_convertTo computed bound (natural.convertTo?_self true),
      fun converted met => bind_some_of_convertTo computed bound met⟩
  · intro steady natural bound
    obtain ⟨built, rebound⟩ := bind_total steady bound (some ty)
    refine ⟨built.expr?, ?_⟩
    rw [buildAs?, bind, rebound]
    rfl

def summing : Compiler :=
  ofCatalog (.addAll .empty (Standard.operators (.integer .i32) .i32 ++
    Standard.operators (.integer .i64) (.integer .i64) ++ Standard.conditional))

theorem summing_neverFails (method : String) :
    ∀ overload ∈ summing.catalog.lookup method, overload.NeverFails := by
  intro overload listed
  refine Standard.neverFails ?_ listed
  intro definition member
  simp only [Standard.conditional, List.mem_append, List.mem_singleton] at member
  rcases member with (narrow | wide) | rfl
  · exact Standard.operators_form rfl rfl definition narrow
  · exact Standard.operators_form rfl rfl definition wide
  · exact .choice

def accountRow : Expr :=
  .target (.record ⟨"Account", none, [⟨"open", .bool, .field, .shown, "Account"⟩,
    ⟨"balance", .i32, .field, .shown, "Account"⟩], []⟩)

def raised : Formula :=
  .call "if" [.field "open",
    .call "+" [.field "balance", .constant (.integer ⟨.i64, 1, by decide⟩)], .constant .null]

theorem build_agrees_with_buildAs_raised :
    ∃ natural converted, summing.build accountRow raised = .ok natural ∧
      natural.convertTo? .any true = some converted ∧
      summing.buildAs accountRow raised natural.ty = .ok natural ∧
      summing.buildAs accountRow raised .any = .ok converted ∧ (converted.ty == .any) = true ∧
      ∃ outcome, summing.buildAs? accountRow raised .any = .ok outcome := by
  have compiled : (summing.build accountRow raised).toOption.any
      (fun natural => (natural.convertTo? .any true).isSome) = true := by decide +kernel
  obtain ⟨natural, built, convertible⟩ := (Option.any_eq_true _ _).mp compiled
  obtain ⟨converted, met⟩ := Option.isSome_iff_exists.mp convertible
  have bound := Result.eq_ok_of_toOption built
  obtain ⟨typed, agreed, total⟩ := build_agrees_with_buildAs summing accountRow raised .any
  obtain ⟨same, forAny⟩ := agreed rfl natural bound
  have asAny := forAny converted met
  exact ⟨natural, converted, bound, met, same, asAny, (typed converted asAny).1,
    total summing_neverFails natural bound⟩

end Compiler

end RowQuery
