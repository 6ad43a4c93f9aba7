import Mathlib.Data.List.Forall2
import RowQuery.Compiler
import RowQuery.Proofs.Expr.Typing

/-!
How a formula is bound. What a bound call consists of is said once, for every expected type: natural
arguments, an overload with arguments of its parameter types, and what the overload built. From it
follows that binding with an expected type and binding without one agree.
-/

namespace RowQuery

@[elab_as_elim, induction_eliminator]
theorem Formula.induct {motive : Formula → Prop} (constant : ∀ value, motive (.constant value))
    (field : ∀ path, motive (.field path))
    (call : ∀ method args, (∀ arg ∈ args, motive arg) → motive (.call method args)) :
    (formula : Formula) → motive formula
  | .constant value => constant value
  | .field path => field path
  | .call method args => call method args fun arg _ => Formula.induct constant field call arg

theorem Built.get_eq_ok {built : Built} {expr : Expr} : built.get = .ok expr ↔ built = .expr expr := by
  cases built <;> simp [Built.get]

theorem Built.expr?_eq_some {built : Built} {expr : Expr} :
    built.expr? = some expr ↔ built = .expr expr := by
  cases built <;> simp [Built.expr?]

theorem Expr.convertTo?_ty {operand expr : Expr} {ty : Ty} {implicitOnly : Bool}
    (made : operand.convertTo? ty implicitOnly = some expr) : (expr.ty == ty) = true := by
  rcases convertTo?_eq_some made with ⟨equal, rfl⟩ | ⟨conversion, _, rfl⟩
  · exact equal
  · exact Ty.beq_self ty

namespace Compiler

/-! Natural arguments. -/

inductive Natural : List Binder → List Expr → Prop
  | nil : Natural [] []
  | cons {binder expr binders exprs} : binder.bind none = .ok (.expr expr) →
      Natural binders exprs → Natural (binder :: binders) (expr :: exprs)

theorem natural_of_bindNatural {binders : List Binder} {exprs : List Expr}
    (bound : bindNatural binders = .ok exprs) : Natural binders exprs := by
  induction binders generalizing exprs with
  | nil =>
      simp only [bindNatural, Except.ok.injEq] at bound
      subst bound
      exact .nil
  | cons binder binders ih =>
      simp only [bindNatural, Result.bind_eq_ok, Result.pure_eq_ok] at bound
      obtain ⟨built, first, expr, got, rest, later, rfl⟩ := bound
      rw [Built.get_eq_ok] at got
      subst got
      exact .cons first (ih later)

theorem Natural.length_eq {binders : List Binder} {exprs : List Expr}
    (natural : Natural binders exprs) : binders.length = exprs.length := by
  induction natural with
  | nil => rfl
  | cons _ _ ih => simp [ih]

/-- What binders give of themselves is true of the natural arguments. -/
theorem Natural.all {binders : List Binder} {exprs : List Expr} (natural : Natural binders exprs)
    {holds : Expr → Prop}
    (own : ∀ binder ∈ binders, ∀ expr, binder.bind none = .ok (.expr expr) → holds expr) :
    ∀ expr ∈ exprs, holds expr := by
  induction natural with
  | nil => simp
  | cons bound _ ih =>
      rw [List.forall_mem_cons] at own ⊢
      exact ⟨own.1 _ bound, ih own.2⟩

/-! Arguments of the parameter types. -/

/-- What an argument becomes for a parameter: it stays if it has the type, and is bound again with the
type as the expected one if not. -/
inductive Coerced : List Binder → List Expr → List Ty → List Expr → Prop
  | nil : Coerced [] [] [] []
  | keep {binder natural parameter binders naturals parameters exprs} :
      (natural.ty == parameter) = true → Coerced binders naturals parameters exprs →
      Coerced (binder :: binders) (natural :: naturals) (parameter :: parameters) (natural :: exprs)
  | rebind {binder natural parameter converted binders naturals parameters exprs} :
      (natural.ty == parameter) = false → binder.bind (some parameter) = .ok (.expr converted) →
      Coerced binders naturals parameters exprs →
      Coerced (binder :: binders) (natural :: naturals) (parameter :: parameters)
        (converted :: exprs)

theorem coerced_of_coerce {binders : List Binder} {naturals : List Expr} {parameters : List Ty}
    (sameLength : parameters.length = naturals.length)
    (known : binders.length = naturals.length) {exprs : List Expr} {exact : Bool}
    (coerced : coerce (binders.zip naturals) parameters = .ok (some (exprs, exact))) :
    Coerced binders naturals parameters exprs := by
  induction naturals generalizing binders parameters exprs exact with
  | nil =>
      cases binders <;> simp at known
      cases parameters <;> simp at sameLength
      simp only [List.zip_nil_left, coerce, Except.ok.injEq, Option.some.injEq, Prod.mk.injEq]
        at coerced
      rw [← coerced.1]
      exact .nil
  | cons natural naturals ih =>
      obtain _ | ⟨binder, binders⟩ := binders <;> simp only [List.length_cons, List.length_nil,
        Nat.add_right_cancel_iff, reduceCtorEq] at known
      obtain _ | ⟨parameter, parameters⟩ := parameters <;> simp only [List.length_cons,
        List.length_nil, Nat.add_right_cancel_iff, reduceCtorEq] at sameLength
      simp only [List.zip_cons_cons, coerce] at coerced
      split at coerced
      · rename_i equal
        obtain ⟨rest, later, taken⟩ := Result.bind_eq_ok.mp coerced
        obtain _ | ⟨others, allExact⟩ := rest
        · simp [Result.pure_eq_ok] at taken
        · simp only [Result.pure_eq_ok, Option.some.injEq, Prod.mk.injEq] at taken
          rw [← taken.1]
          exact .keep equal (ih sameLength known later)
      · rename_i different
        obtain ⟨built, bound, taken⟩ := Result.bind_eq_ok.mp coerced
        cases built with
        | declined reason => simp [Result.pure_eq_ok] at taken
        | expr converted =>
            obtain ⟨rest, later, taken⟩ := Result.bind_eq_ok.mp taken
            obtain _ | ⟨others, allExact⟩ := rest
            · simp [Result.pure_eq_ok] at taken
            · simp only [Result.pure_eq_ok, Option.some.injEq, Prod.mk.injEq] at taken
              rw [← taken.1]
              exact .rebind (by simpa using different) bound (ih sameLength known later)

theorem Coerced.length_eq {binders : List Binder} {naturals coerced : List Expr}
    {parameters : List Ty} (made : Coerced binders naturals parameters coerced) :
    binders.length = parameters.length := by
  induction made with
  | nil => rfl
  | keep _ _ ih => simp [ih]
  | rebind _ _ _ ih => simp [ih]

theorem Coerced.all {binders : List Binder} {naturals coerced : List Expr} {parameters : List Ty}
    (fitted : Coerced binders naturals parameters coerced) {holds : Expr → Prop}
    (own : ∀ expr ∈ naturals, holds expr)
    (again : ∀ binder ∈ binders, ∀ parameter ∈ parameters, ∀ expr,
      binder.bind (some parameter) = .ok (.expr expr) → holds expr) :
    ∀ expr ∈ coerced, holds expr := by
  induction fitted with
  | nil => simp
  | keep _ _ ih =>
      rw [List.forall_mem_cons] at own ⊢
      refine ⟨own.1, ih own.2 ?_⟩
      exact fun binder inside parameter listed =>
        again binder (List.mem_cons_of_mem _ inside) parameter (List.mem_cons_of_mem _ listed)
  | rebind _ bound _ ih =>
      rw [List.forall_mem_cons] at own ⊢
      refine ⟨again _ List.mem_cons_self _ List.mem_cons_self _ bound, ih own.2 ?_⟩
      exact fun binder inside parameter listed =>
        again binder (List.mem_cons_of_mem _ inside) parameter (List.mem_cons_of_mem _ listed)

/-- Each argument is bound as it is or with the type of a parameter. -/
theorem Coerced.bound_with {binders : List Binder} {naturals coerced : List Expr}
    {parameters : List Ty} (fitted : Coerced binders naturals parameters coerced)
    (natural : Natural binders naturals) (asked : Option Ty → Prop) (own : asked none)
    (given : ∀ parameter ∈ parameters, asked (some parameter)) :
    List.Forall₂ (fun binder expr => ∃ expected, asked expected ∧
      binder.bind expected = .ok (.expr expr)) binders coerced := by
  induction fitted with
  | nil => exact .nil
  | keep _ _ ih =>
      cases natural with
      | cons bound rest =>
          exact .cons ⟨none, own, bound⟩ (ih rest (List.forall_mem_cons.mp given).2)
  | rebind _ bound _ ih =>
      cases natural with
      | cons _ rest =>
          obtain ⟨first, later⟩ := List.forall_mem_cons.mp given
          exact .cons ⟨_, first, bound⟩ (ih rest later)

theorem Coerced.bound {binders : List Binder} {naturals coerced : List Expr} {parameters : List Ty}
    (fitted : Coerced binders naturals parameters coerced) (natural : Natural binders naturals) :
    List.Forall₂ (fun binder expr => ∃ expected, binder.bind expected = .ok (.expr expr)) binders
      coerced := by
  refine (fitted.bound_with natural (fun _ => True) trivial fun _ _ => trivial).imp ?_
  rintro binder expr ⟨expected, _, bound⟩
  exact ⟨expected, bound⟩

/-! Candidates. -/

theorem candidates_mem {args : List (Binder × Expr)} {overloads : List Overload}
    {found : List Candidate} (listed : candidates args overloads = .ok found)
    {candidate : Candidate} (member : candidate ∈ found) :
    candidate.overload ∈ overloads ∧ candidate.overload.parameters.length = args.length ∧
      coerce args candidate.overload.parameters = .ok (some (candidate.args, candidate.exact)) := by
  induction overloads generalizing found with
  | nil =>
      simp only [candidates, Except.ok.injEq] at listed
      subst listed
      simp at member
  | cons overload overloads ih =>
      simp only [candidates] at listed
      split at listed
      · obtain ⟨inside, rest⟩ := ih listed member
        exact ⟨List.mem_cons_of_mem _ inside, rest⟩
      · rename_i arity
        obtain ⟨coerced, fitted, listed⟩ := Result.bind_eq_ok.mp listed
        obtain ⟨others, later, taken⟩ := Result.bind_eq_ok.mp listed
        have fromRest (inRest : candidate ∈ others) :
            candidate.overload ∈ overload :: overloads ∧
              candidate.overload.parameters.length = args.length ∧
              coerce args candidate.overload.parameters =
                .ok (some (candidate.args, candidate.exact)) := by
          obtain ⟨inside, rest⟩ := ih later inRest
          exact ⟨List.mem_cons_of_mem _ inside, rest⟩
        obtain _ | ⟨exprs, exact⟩ := coerced
        · simp only [Result.pure_eq_ok] at taken
          subst taken
          exact fromRest member
        · simp only [Result.pure_eq_ok] at taken
          subst taken
          rcases List.mem_cons.mp member with rfl | inRest
          · exact ⟨by simp, by simpa using arity, fitted⟩
          · exact fromRest inRest

theorem mem_ranked {found : List Candidate} {candidate : Candidate} :
    candidate ∈ ranked found ↔ candidate ∈ found := by
  simp only [ranked, List.mem_append, List.mem_filter]
  cases candidate.exact <;> simp

theorem resolve_ok {binders : List Binder} {overloads : List Overload} {naturals : List Expr}
    {found : List Candidate} (resolved : resolve binders overloads = .ok (naturals, found)) :
    Natural binders naturals ∧ ∀ candidate ∈ found, candidate.overload ∈ overloads ∧
      Coerced binders naturals candidate.overload.parameters candidate.args := by
  simp only [resolve, Result.bind_eq_ok, Result.pure_eq_ok, Prod.mk.injEq] at resolved
  obtain ⟨exprs, bound, listed, computed, rfl, rfl⟩ := resolved
  have natural := natural_of_bindNatural bound
  refine ⟨natural, ?_⟩
  intro candidate member
  obtain ⟨inside, arity, coerced⟩ := candidates_mem computed (mem_ranked.mp member)
  simp only [List.length_zip, natural.length_eq, Nat.min_self] at arity
  exact ⟨inside, coerced_of_coerce arity natural.length_eq coerced⟩

/-! The first overload that accepts. -/

theorem firstAccepted_congr {site other : List Expr → CallSite} {found : List Candidate}
    (same : ∀ candidate ∈ found, candidate.overload.build (site candidate.args) =
      candidate.overload.build (other candidate.args)) (expected : Option Ty) :
    firstAccepted site expected found = firstAccepted other expected found := by
  induction found with
  | nil => rfl
  | cons candidate rest ih =>
      obtain ⟨first, later⟩ := List.forall_mem_cons.mp same
      simp only [firstAccepted, first, ih later]

theorem firstAccepted_some {site : List Expr → CallSite} {expected : Option Ty}
    {found : List Candidate} {expr : Expr}
    (accepted : firstAccepted site expected found = .ok (some expr)) :
    ∃ candidate ∈ found, ∃ built, candidate.overload.build (site candidate.args) = .ok (some built) ∧
      meet? built expected = some expr := by
  induction found with
  | nil => simp [firstAccepted] at accepted
  | cons candidate rest ih =>
      simp only [firstAccepted] at accepted
      obtain ⟨outcome, built, accepted⟩ := Result.bind_eq_ok.mp accepted
      have fromRest (later : firstAccepted site expected rest = .ok (some expr)) :
          ∃ other ∈ candidate :: rest, ∃ made,
            other.overload.build (site other.args) = .ok (some made) ∧
            meet? made expected = some expr := by
        obtain ⟨other, member, parts⟩ := ih later
        exact ⟨other, List.mem_cons_of_mem _ member, parts⟩
      obtain _ | made := outcome
      · exact fromRest accepted
      · simp only at accepted
        split at accepted
        · rename_i converted met
          simp only [Result.pure_eq_ok, Option.some.injEq] at accepted
          subst accepted
          exact ⟨candidate, by simp, made, built, met⟩
        · exact fromRest accepted

theorem firstAccepted_natural {site : List Expr → CallSite} {expected : Option Ty}
    {found : List Candidate} {expr : Expr}
    (accepted : firstAccepted site expected found = .ok (some expr)) :
    ∃ natural, firstAccepted site none found = .ok (some natural) := by
  induction found with
  | nil => simp [firstAccepted] at accepted
  | cons candidate rest ih =>
      simp only [firstAccepted] at accepted ⊢
      obtain ⟨outcome, built, accepted⟩ := Result.bind_eq_ok.mp accepted
      rw [built, Result.ok_bind]
      obtain _ | made := outcome
      · exact ih accepted
      · exact ⟨made, rfl⟩

theorem firstAccepted_meet {site : List Expr → CallSite} {ty : Ty} {found : List Candidate}
    {natural converted : Expr} (accepted : firstAccepted site none found = .ok (some natural))
    (met : natural.convertTo? ty true = some converted) :
    firstAccepted site (some ty) found = .ok (some converted) := by
  induction found with
  | nil => simp [firstAccepted] at accepted
  | cons candidate rest ih =>
      simp only [firstAccepted] at accepted ⊢
      obtain ⟨outcome, built, accepted⟩ := Result.bind_eq_ok.mp accepted
      rw [built, Result.ok_bind]
      obtain _ | made := outcome
      · exact ih accepted
      · -- What an overload builds does not depend on the expected type; only the last conversion does.
        simp only [meet?, Result.pure_eq_ok, Option.some.injEq] at accepted ⊢
        subst accepted
        rw [met]
        rfl

theorem firstAccepted_ok {site : List Expr → CallSite} (expected : Option Ty)
    {found : List Candidate}
    (accepting : ∀ candidate ∈ found, ∃ outcome,
      candidate.overload.build (site candidate.args) = .ok outcome) :
    ∃ outcome, firstAccepted site expected found = .ok outcome := by
  induction found with
  | nil => exact ⟨none, rfl⟩
  | cons candidate rest ih =>
      obtain ⟨outcome, built⟩ := accepting candidate (by simp)
      have later := ih fun other member => accepting other (by simp [member])
      simp only [firstAccepted]
      rw [built, Result.ok_bind]
      obtain _ | made := outcome
      · exact later
      · simp only
        split
        · exact ⟨_, rfl⟩
        · exact later

/-! Fields. -/

theorem bindField_expr {compiler : Compiler} {target expr : Expr} {path : String}
    {expected : Option Ty} :
    compiler.bindField target path expected = .ok (.expr expr) ↔
      ∃ resolved, compiler.resolvePath target path = .ok resolved ∧
        meet? resolved expected = some expr := by
  simp only [bindField, Result.bind_eq_ok]
  constructor
  · rintro ⟨resolved, reached, bound⟩
    refine ⟨resolved, reached, ?_⟩
    cases expected with
    | none => simpa [meet?, Result.pure_eq_ok] using bound
    | some ty =>
        simp only at bound
        split at bound
        · rename_i converted met
          simp only [Result.pure_eq_ok, Built.expr.injEq] at bound
          rw [← bound]
          exact met
        · simp [Result.pure_eq_ok] at bound
  · rintro ⟨resolved, reached, met⟩
    refine ⟨resolved, reached, ?_⟩
    cases expected with
    | none => simpa [meet?, Result.pure_eq_ok] using met
    | some ty =>
        rw [meet?] at met
        simp only [met]
        rfl

/-! Calls. -/

def siteOf (view : CompilerView) (target : Expr) (method : String) (args : List Formula)
    (binders : List Binder) (naturals coerced : List Expr) : CallSite :=
  ⟨view, target, method, args, naturals, coerced, binders.map fun binder ty => binder.bind (some ty)⟩

def settle (method : String) (naturals : List Expr) : Option Expr → Built
  | some expr => .expr expr
  | none => .declined (.noApplicableOverload method (naturals.map (·.ty.text)))

variable {compiler : Compiler} {target : Expr} {method : String} {args : List Formula}
  {binders : List Binder} {expected : Option Ty}

/-- A call that is bound at all was resolved, and it was resolved without regard to the expected
type. -/
theorem callBinder_ok {built : Built}
    (bound : (compiler.callBinder target method args binders).bind expected = .ok built) :
    ∃ naturals found, resolve binders (compiler.catalog.lookup method) = .ok (naturals, found) ∧
      ∃ outcome, firstAccepted (siteOf compiler.view target method args binders naturals) expected
        found = .ok outcome ∧ ∀ expr, built = .expr expr ↔ outcome = some expr := by
  simp only [callBinder] at bound
  obtain ⟨⟨naturals, found⟩, resolved, bound⟩ := Result.bind_eq_ok.mp bound
  obtain ⟨outcome, accepted, taken⟩ := Result.bind_eq_ok.mp bound
  refine ⟨naturals, found, resolved, outcome, accepted, ?_⟩
  intro expr
  obtain _ | made := outcome
  · simp only [Result.pure_eq_ok] at taken
    simp [← taken]
  · simp only [Result.pure_eq_ok] at taken
    simp [← taken]

theorem callBinder_eq {naturals : List Expr} {found : List Candidate} {outcome : Option Expr}
    (resolved : resolve binders (compiler.catalog.lookup method) = .ok (naturals, found))
    (accepted : firstAccepted (siteOf compiler.view target method args binders naturals) expected
      found = .ok outcome) :
    (compiler.callBinder target method args binders).bind expected =
      .ok (settle method naturals outcome) := by
  unfold siteOf at accepted
  simp only [callBinder]
  rw [resolved, Result.ok_bind]
  simp only [accepted, Result.ok_bind]
  cases outcome with
  | none => rfl
  | some expr => rfl

theorem callBinder_of_accepted {naturals : List Expr} {found : List Candidate}
    {outcome : Option Expr}
    (resolved : resolve binders (compiler.catalog.lookup method) = .ok (naturals, found))
    (accepted : firstAccepted (siteOf compiler.view target method args binders naturals) expected
      found = .ok outcome) :
    ∃ built, (compiler.callBinder target method args binders).bind expected = .ok built ∧
      ∀ expr, built = .expr expr ↔ outcome = some expr := by
  refine ⟨_, callBinder_eq resolved accepted, ?_⟩
  cases outcome <;> simp [settle]

theorem callBinder_expr {expr : Expr}
    (bound : (compiler.callBinder target method args binders).bind expected = .ok (.expr expr)) :
    ∃ naturals overload coerced built, Natural binders naturals ∧
      overload ∈ compiler.catalog.lookup method ∧
      Coerced binders naturals overload.parameters coerced ∧
      overload.build (siteOf compiler.view target method args binders naturals coerced) =
        .ok (some built) ∧
      meet? built expected = some expr := by
  obtain ⟨naturals, found, resolved, outcome, accepted, iff⟩ := callBinder_ok bound
  obtain ⟨natural, fitting⟩ := resolve_ok resolved
  rw [(iff expr).mp rfl] at accepted
  obtain ⟨candidate, member, built, made, met⟩ := firstAccepted_some accepted
  obtain ⟨listed, coerced⟩ := fitting candidate member
  exact ⟨naturals, candidate.overload, candidate.args, built, natural, listed, coerced, made, met⟩

theorem binders_eq_map (compiler : Compiler) (target : Expr) (args : List Formula) :
    compiler.binders target args = args.map (compiler.binder target) := by
  induction args with
  | nil => rfl
  | cons arg args ih => rw [binders, ih, List.map_cons]

variable {formula : Formula} {ty : Ty}

theorem bind_ty {expr : Expr}
    (bound : (compiler.binder target formula).bind (some ty) = .ok (.expr expr)) :
    (expr.ty == ty) = true := by
  cases formula with
  | constant value =>
      simp only [binder, bindConstant, Except.ok.injEq] at bound
      split at bound
      · simp at bound
      · split at bound
        · rename_i fitted _ made made_eq
          obtain ⟨_, rfl⟩ := Expr.literalAs_eq_ok made_eq
          simp only [Built.expr.injEq] at bound
          rw [← bound]
          exact Ty.beq_self ty
        · simp at bound
  | field path =>
      simp only [binder] at bound
      obtain ⟨resolved, _, met⟩ := bindField_expr.mp bound
      exact Expr.convertTo?_ty met
  | call method args =>
      rw [binder] at bound
      obtain ⟨_, _, _, built, _, _, _, _, met⟩ := callBinder_expr bound
      exact Expr.convertTo?_ty met

theorem Coerced.types {args : List Formula} {naturals coerced : List Expr} {parameters : List Ty}
    (made : Coerced (args.map (compiler.binder target)) naturals parameters coerced) :
    List.Forall₂ (fun arg parameter => (arg.ty == parameter) = true) coerced parameters := by
  generalize same : args.map (compiler.binder target) = binders at made
  induction made generalizing args with
  | nil => exact .nil
  | keep equal _ ih =>
      obtain ⟨arg, args, rfl, rfl, rfl⟩ := List.map_eq_cons_iff.mp same
      exact .cons equal (ih rfl)
  | rebind _ bound _ ih =>
      obtain ⟨arg, args, rfl, rfl, rfl⟩ := List.map_eq_cons_iff.mp same
      exact .cons (bind_ty bound) (ih rfl)

theorem build_eq_ok {compiler : Compiler} {target : Expr} {formula : Formula} {expr : Expr} :
    compiler.build target formula = .ok expr ↔
      (compiler.binder target formula).bind none = .ok (.expr expr) := by
  simp [build, bind, Result.bind_eq_ok, Built.get_eq_ok]

theorem buildAs_eq_ok {compiler : Compiler} {target : Expr} {formula : Formula} {ty : Ty}
    {expr : Expr} : compiler.buildAs target formula ty = .ok expr ↔
      (compiler.binder target formula).bind (some ty) = .ok (.expr expr) := by
  simp [buildAs, bind, Result.bind_eq_ok, Built.get_eq_ok]

end Compiler

end RowQuery
