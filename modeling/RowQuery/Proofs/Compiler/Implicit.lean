import RowQuery.Proofs.Compiler.Faults
import RowQuery.Proofs.Compiler.Soundness
import RowQuery.Proofs.Conversion.Gentle

/-!
What the compiler puts in by itself. An overload is only asked about arguments of its parameter types:
what it would make of others has no effect. A property that the makers of expressions and the implicit
conversions keep is one of every expression that is bound by the overloads of the standard library.
So the conversions in such an expression are the implicit ones, unless they come with the target. An
implicit conversion takes no null away, and it narrows no number but for that of a char.
-/

namespace RowQuery

def SameTypes (args : List Expr) (parameters : List Ty) : Prop :=
  List.Forall₂ (fun arg parameter => (arg.ty == parameter) = true) args parameters

/-! ### Overloads that are changed where they are not asked -/

/-- The change has no effect on calls with arguments of the parameter types. -/
structure Overload.Spares (change : Overload → Overload) : Prop where
  header : ∀ overload, (change overload).header = overload.header
  build : ∀ overload (site : CallSite), SameTypes site.args overload.parameters →
    (change overload).build site = overload.build site

theorem Overload.Spares.parameters {change : Overload → Overload} (spares : Spares change)
    (overload : Overload) : (change overload).parameters = overload.parameters :=
  congrArg Signature.parameters (spares.header overload)

def Catalog.revise (catalog : Catalog) (change : Overload → Overload) : Catalog :=
  { catalog with methods := catalog.methods.map fun entry => (entry.1, entry.2.map change) }

theorem Catalog.lookup_revise (catalog : Catalog) (change : Overload → Overload) (method : String) :
    (catalog.revise change).lookup method = (catalog.lookup method).map change := by
  simp only [lookup_eq_overloadsOf, revise]
  induction catalog.methods with
  | nil => rfl
  | cons entry rest ih =>
      simp only [overloadsOf, List.map_cons, List.find?_cons] at ih ⊢
      cases entry.1 == key method with
      | true => rfl
      | false => exact ih

namespace Compiler

def revise (compiler : Compiler) (change : Overload → Overload) : Compiler :=
  { compiler with catalog := compiler.catalog.revise change }

def Candidate.revise (change : Overload → Overload) (candidate : Candidate) : Candidate :=
  { candidate with overload := change candidate.overload }

variable {compiler : Compiler} {change : Overload → Overload} {target : Expr}

theorem follow_revise (path : String) (owner : Expr) (names : List String) :
    (compiler.revise change).follow path owner names = compiler.follow path owner names := by
  induction names generalizing owner with
  | nil => rfl
  | cons name names ih =>
      simp only [follow, ih]
      rfl

theorem view_revise (spares : Overload.Spares change) :
    (compiler.revise change).view = compiler.view := by
  have path : (compiler.revise change).resolvePath = compiler.resolvePath := by
    funext target path
    simp only [resolvePath, follow_revise]
  rw [view, view, path]
  simp [revise, Catalog.revise, spares.header]

theorem candidates_revise (spares : Overload.Spares change) (args : List (Binder × Expr))
    (overloads : List Overload) :
    candidates args (overloads.map change) =
      (candidates args overloads).map (·.map (Candidate.revise change)) := by
  induction overloads with
  | nil => rfl
  | cons overload rest ih =>
      simp only [List.map_cons, candidates, spares.parameters, ih]
      split
      · rfl
      · cases coerce args overload.parameters with
        | error fault => rfl
        | ok coerced =>
            cases candidates args rest with
            | error fault => rfl
            | ok others => cases coerced <;> rfl

theorem ranked_revise (change : Overload → Overload) (found : List Candidate) :
    ranked (found.map (Candidate.revise change)) = (ranked found).map (Candidate.revise change) := by
  simp only [ranked, List.map_append, List.filter_map]
  rfl

theorem resolve_revise (spares : Overload.Spares change) (binders : List Binder)
    (overloads : List Overload) :
    resolve binders (overloads.map change) =
      (resolve binders overloads).map (Prod.map id (List.map (Candidate.revise change))) := by
  simp only [resolve]
  cases bindNatural binders with
  | error fault => rfl
  | ok naturals =>
      simp only [Result.ok_bind, candidates_revise spares]
      cases candidates (binders.zip naturals) overloads with
      | error fault => rfl
      | ok found =>
          simp only [Except.map, Result.ok_bind, ranked_revise]
          rfl

theorem firstAccepted_revise {site : List Expr → CallSite} {expected : Option Ty}
    {found : List Candidate}
    (spared : ∀ candidate ∈ found, (change candidate.overload).build (site candidate.args) =
      candidate.overload.build (site candidate.args)) :
    firstAccepted site expected (found.map (Candidate.revise change)) =
      firstAccepted site expected found := by
  induction found with
  | nil => rfl
  | cons candidate rest ih =>
      obtain ⟨first, later⟩ := List.forall_mem_cons.mp spared
      simp only [List.map_cons, firstAccepted, Candidate.revise, first]
      rw [ih later]

/-- The arguments that a call is tried with have the parameter types. -/
theorem resolve_sameTypes {args : List Formula} {overloads : List Overload} {naturals : List Expr}
    {found : List Candidate}
    (resolved : resolve (compiler.binders target args) overloads = .ok (naturals, found)) :
    ∀ candidate ∈ found, SameTypes candidate.args candidate.overload.parameters := by
  rw [binders_eq_map] at resolved
  intro candidate member
  exact ((resolve_ok resolved).2 candidate member).2.types

theorem callBinder_revise (spares : Overload.Spares change) (method : String)
    (args : List Formula) :
    (compiler.revise change).callBinder target method args (compiler.binders target args) =
      compiler.callBinder target method args (compiler.binders target args) := by
  rw [callBinder, callBinder, view_revise spares]
  simp only [revise, Catalog.lookup_revise, resolve_revise spares, Binder.mk.injEq]
  funext expected
  cases resolved : resolve (compiler.binders target args) (compiler.catalog.lookup method) with
  | error fault => rfl
  | ok found =>
      have typed := resolve_sameTypes resolved
      simp only [Except.map, Result.ok_bind, Prod.map, id]
      rw [firstAccepted_revise]
      intro candidate member
      exact spares.build candidate.overload _ (typed candidate member)

/-- Binding does not depend on what overloads make of arguments of other types. -/
theorem binder_revise (spares : Overload.Spares change) (formula : Formula) :
    (compiler.revise change).binder target formula = compiler.binder target formula := by
  induction formula with
  | constant value => rfl
  | field path =>
      simp only [binder, Binder.mk.injEq]
      funext expected
      simp only [bindField, resolvePath, follow_revise]
  | call method args ih =>
      have same : (compiler.revise change).binders target args = compiler.binders target args := by
        rw [binders_eq_map, binders_eq_map]
        exact List.map_congr_left ih
      rw [binder, binder, same]
      exact callBinder_revise spares method args

end Compiler

/-! ### Properties that the library keeps -/

/-- A property of expressions that carries over from the parts to the whole, and along implicit
conversions. -/
structure Expr.Kept (holds : Expr → Prop) : Prop where
  whole : ∀ expr : Expr, (∀ operand ty conversion, expr ≠ .convert operand ty conversion) →
    (∀ part ∈ expr.parts, holds part) → holds expr
  convertTo : ∀ operand ty expr, holds operand → operand.convertTo? ty true = some expr → holds expr

/-- The property holds of all expressions in a call, and of those that its arguments are bound to when
they are bound again. -/
structure CallSite.Has (holds : Expr → Prop) (site : CallSite) : Prop where
  natural : ∀ expr ∈ site.natural, holds expr
  args : ∀ expr ∈ site.args, holds expr
  rebuild : ∀ rebuild ∈ site.rebuild, ∀ ty expr, rebuild ty = .ok (.expr expr) → holds expr

def Overload.Keeps (holds : Expr → Prop) (overload : Overload) : Prop :=
  ∀ site expr, site.Has holds → overload.build site = .ok (some expr) → holds expr

section

variable {holds : Expr → Prop} {site : CallSite} {expr : Expr}

theorem CallSite.Has.argumentAs? (has : site.Has holds) {index : Nat} {ty : Ty}
    (bound : site.argumentAs? index ty = .ok (some expr)) : holds expr := by
  simp only [CallSite.argumentAs?, CallSite.rebuildAt] at bound
  obtain ⟨built, rebound, taken⟩ := Result.bind_eq_ok.mp bound
  rw [Result.pure_eq_ok, Built.expr?_eq_some] at taken
  subst taken
  split at rebound
  · rename_i rebuild listed
    exact has.rebuild rebuild (List.mem_of_getElem? listed) ty expr rebound
  · simp at rebound

theorem Expr.Kept.call (kept : Kept holds) {function : Function} {args : List Expr} {ty : Ty}
    (onArgs : ∀ arg ∈ args, holds arg) : holds (.call function args ty) :=
  kept.whole _ (by simp) onArgs

namespace Standard

theorem Branch.kept (has : site.Has holds) (branch : Branch site expr) : holds expr := by
  cases branch with
  | natural listed => exact has.natural expr listed
  | rebound _ bound | widened _ _ _ bound => exact has.argumentAs? bound

theorem choice_kept (kept : Expr.Kept holds) (has : site.Has holds)
    (built : choice site = .ok (some expr)) : holds expr := by
  obtain ⟨test, ifTrue, ifFalse, listed, first, second, chosen⟩ := choice_eq_ok built
  obtain ⟨_, _, rfl⟩ := Expr.choose_eq_ok chosen
  refine kept.whole _ (by simp) ?_
  simp [Expr.parts, has.args test listed, first.kept has, second.kept has]

theorem membership_kept (kept : Expr.Kept holds) (has : site.Has holds)
    (built : membership site = .ok (some expr)) : holds expr := by
  obtain ⟨sequence, element, item, listed, _, bound, rfl⟩ := membership_eq_ok built
  apply kept.call
  simp [has.natural sequence listed, has.argumentAs? bound]

theorem counting_kept (kept : Expr.Kept holds) (has : site.Has holds)
    (built : counting site = .ok (some expr)) : holds expr := by
  obtain ⟨sequence, listed, rfl⟩ := counting_eq_ok built
  apply kept.call
  simp [has.natural sequence listed]

theorem operator_kept (kept : Expr.Kept holds) (has : site.Has holds) {op : BinaryOp} {ty : Ty}
    {id : Nat} (built : ((Definition.ofOperator op ty).numbered id).build site = .ok (some expr)) :
    holds expr := by
  obtain ⟨left, right, seen, applied⟩ := operator_eq_ok built
  obtain ⟨_, _, rfl⟩ := Expr.applyBinary_eq_ok applied
  refine kept.whole _ (by simp) ?_
  simpa [Expr.parts, seen] using has.args

theorem unary_kept (kept : Expr.Kept holds) (has : site.Has holds) {op : UnaryOp} {ty : Ty}
    {id : Nat} (built : ((Definition.ofUnary op ty).numbered id).build site = .ok (some expr)) :
    holds expr := by
  obtain ⟨operand, seen, applied⟩ := unary_eq_ok built
  obtain ⟨_, rfl⟩ := Expr.applyUnary_eq_ok applied
  refine kept.whole _ (by simp) ?_
  simpa [Expr.parts, seen] using has.args

theorem Form.keeps (kept : Expr.Kept holds) {definition : Definition} (form : Form definition)
    (id : Nat) : (definition.numbered id).Keeps holds := by
  intro site expr has built
  cases form with
  | operator op _ _ => exact operator_kept kept has built
  | unary op _ _ => exact unary_kept kept has built
  | function _ _ _ _ =>
      simp only [Definition.numbered, Definition.ofFunction, Except.ok.injEq, Option.some.injEq]
        at built
      rw [← built]
      exact kept.call has.args
  | choice => exact choice_kept kept has built
  | membership => exact membership_kept kept has built
  | counting => exact counting_kept kept has built

end Standard

namespace Compiler

variable {compiler : Compiler} {target : Expr}

theorem follow_kept (kept : Expr.Kept holds) (plain : compiler.overrides = []) {path : String}
    {owner : Expr} {names : List String} (onOwner : holds owner)
    (reached : compiler.follow path owner names = .ok expr) : holds expr := by
  induction names generalizing owner with
  | nil =>
      rw [← Except.ok.inj reached]
      exact onOwner
  | cons name names ih =>
      simp only [follow, override?_eq_none plain] at reached
      obtain ⟨member, _, reached⟩ := Result.bind_eq_ok.mp reached
      refine ih (kept.whole _ (by simp) ?_) reached
      simpa [Expr.parts] using onOwner

theorem meet?_kept (kept : Expr.Kept holds) {built : Expr} {expected : Option Ty}
    (onBuilt : holds built) (met : meet? built expected = some expr) : holds expr := by
  cases expected with
  | none =>
      rw [← Option.some.inj met]
      exact onBuilt
  | some ty => exact kept.convertTo built ty expr onBuilt met

theorem bindConstant_kept (kept : Expr.Kept holds) {value : Value} {expected : Option Ty}
    (bound : bindConstant value expected = .expr expr) : holds expr := by
  have constant (value : Value) (ty : Ty) : holds (.constant value ty) :=
    kept.whole _ (by simp) (by simp [Expr.parts])
  unfold bindConstant at bound
  split at bound
  · rw [← Built.expr.inj bound]
    exact constant value value.typeOf
  · split at bound
    · simp at bound
    · split at bound
      · rename_i made checked
        obtain ⟨_, rfl⟩ := Expr.literalAs_eq_ok checked
        rw [← Built.expr.inj bound]
        exact constant _ _
      · simp at bound

def Binder.Keeps (holds : Expr → Prop) (binder : Binder) : Prop :=
  ∀ expected expr, binder.bind expected = .ok (.expr expr) → holds expr

theorem callBinder_keeps (kept : Expr.Kept holds) {method : String} {args : List Formula}
    {binders : List Binder}
    (overloads : ∀ overload ∈ compiler.catalog.lookup method, overload.Keeps holds)
    (keeping : ∀ binder ∈ binders, binder.Keeps holds) :
    (compiler.callBinder target method args binders).Keeps holds := by
  intro expected expr bound
  obtain ⟨naturals, overload, coerced, built, natural, listed, fitted, accepted, met⟩ :=
    callBinder_expr bound
  have onNaturals := natural.all fun binder inside => keeping binder inside none
  have onCoerced := fitted.all onNaturals fun binder inside parameter _ =>
    keeping binder inside (some parameter)
  refine meet?_kept kept (overloads overload listed _ built ?_ accepted) met
  refine ⟨onNaturals, onCoerced, ?_⟩
  intro rebuild member ty again rebound
  obtain ⟨binder, inside, rfl⟩ := List.mem_map.mp member
  exact keeping binder inside (some ty) again rebound

theorem binder_keeps (kept : Expr.Kept holds) (plain : compiler.overrides = [])
    (overloads : ∀ method, ∀ overload ∈ compiler.catalog.lookup method, overload.Keeps holds)
    (onTarget : holds target) (formula : Formula) : (compiler.binder target formula).Keeps holds := by
  induction formula with
  | constant value =>
      intro expected expr bound
      exact bindConstant_kept kept (Except.ok.inj bound)
  | field path =>
      intro expected expr bound
      obtain ⟨resolved, reached, met⟩ := bindField_expr.mp bound
      refine meet?_kept kept ?_ met
      simp only [resolvePath] at reached
      split at reached
      · simp at reached
      · exact follow_kept kept plain onTarget reached
  | call method args ih =>
      rw [binder, binders_eq_map]
      exact callBinder_keeps kept (overloads method) (List.forall_mem_map.mpr ih)

end Compiler

end

/-! ### Conversions in expressions -/

namespace Expr

/-- Each conversion in the expression stands in the target, or is the implicit one between two types
that differ. -/
def Implicit (target expr : Expr) : Prop :=
  ∀ operand ty conversion, Within (.convert operand ty conversion) expr →
    Within (.convert operand ty conversion) target ∨
      (operand.ty == ty) = false ∧ Conversion.plan? true operand.ty ty = some conversion

theorem implicit_kept (target : Expr) : Kept (Implicit target) where
  whole expr unconverted onParts operand ty conversion within := by
    cases within with
    | self => exact absurd rfl (unconverted operand ty conversion)
    | inside member deeper => exact onParts _ member operand ty conversion deeper
  convertTo operand ty expr onOperand made := by
    unfold convertTo? at made
    split at made
    · rw [← Option.some.inj made]
      exact onOperand
    · rename_i different
      obtain ⟨planned, found, rfl⟩ := Option.map_eq_some_iff.mp made
      intro inner innerTy conversion within
      cases within with
      | self => exact .inr ⟨by simpa using different, found⟩
      | inside member deeper =>
          rw [List.mem_singleton.mp member] at deeper
          exact onOperand inner innerTy conversion deeper

end Expr

def Overload.IsStandard (overload : Overload) : Prop :=
  ∃ settings, ∃ definition ∈ Standard.definitions settings, ∃ id, overload = definition.numbered id

theorem Overload.IsStandard.keeps {holds : Expr → Prop} (kept : Expr.Kept holds) {overload : Overload}
    (standard : overload.IsStandard) : overload.Keeps holds := by
  obtain ⟨settings, definition, listed, id, rfl⟩ := standard
  exact (Standard.definitions_form settings definition listed).keeps kept id

/-- Every overload that a call is tried with gets arguments of exactly its parameter types, and what it
would make of other arguments has no effect on what a formula is bound to. If no member is overridden
and the overloads are those of the standard library, each conversion in a bound expression that does
not come with the target is the implicit one between two types that differ; it takes no null away, and
a char of 16 bits apart it narrows no number. -/
theorem Compiler.bound_by_implicit_conversions (compiler : Compiler) (target : Expr) :
    (∀ method args naturals found,
      resolve (compiler.binders target args) (compiler.catalog.lookup method) =
        .ok (naturals, found) →
      ∀ candidate ∈ found, SameTypes candidate.args candidate.overload.parameters) ∧
    (∀ change, Overload.Spares change → ∀ formula expected,
      (compiler.revise change).bind target formula expected =
        compiler.bind target formula expected) ∧
    (compiler.overrides = [] →
      (∀ method, ∀ overload ∈ compiler.catalog.lookup method, overload.IsStandard) →
      ∀ formula expected expr, compiler.bind target formula expected = .ok (.expr expr) →
      ∀ operand ty conversion, Expr.Within (.convert operand ty conversion) expr →
        Expr.Within (.convert operand ty conversion) target ∨
          (operand.ty == ty) = false ∧
            Conversion.plan? true operand.ty ty = some conversion ∧
            Conversion.Gentle (fun source kind => source.WithinRange kind ∨ source.IsSqueezed kind)
              operand.ty ty conversion) := by
  refine ⟨fun _ _ _ _ resolved => resolve_sameTypes resolved, ?_, ?_⟩
  · intro change spares formula expected
    rw [bind, bind, binder_revise spares]
  · intro plain standard formula expected expr bound operand ty conversion within
    have kept := Expr.implicit_kept target
    have implicit := binder_keeps kept plain
      (fun method overload listed => (standard method overload listed).keeps kept)
      (fun _ _ _ inTarget => .inl inTarget) formula expected expr bound
    refine (implicit operand ty conversion within).imp_right ?_
    rintro ⟨different, planned⟩
    exact ⟨different, planned, (Conversion.plan?_gentle planned).mono Conversion.range_of_listed⟩

/-! A count and an amount that may be missing, added and read as a binary number. -/

namespace Tally

def row : RecordType :=
  ⟨"Tally", none, [⟨"count", .i32, .field, .shown, "Tally"⟩,
    ⟨"owed", .nullable (.integer .i64), .field, .shown, "Tally"⟩], []⟩

def adder : Compiler :=
  .ofCatalog (Catalog.empty.addAll [.ofOperator .add (.nullable (.integer .i64))])

def count : Expr :=
  .member (.target (.record row)) (.record row 0 ⟨"count", .i32, .field, .shown, "Tally"⟩)

def owed : Expr :=
  .member (.target (.record row))
    (.record row 1 ⟨"owed", .nullable (.integer .i64), .field, .shown, "Tally"⟩)

def sum : Expr :=
  .binary .add (.convert count (.nullable (.integer .i64)) (.numeric (.integer .i64))) owed

def converted : Expr :=
  .convert sum (.nullable .f64) (.lifted (.numeric .f64))

def formula : Formula :=
  .call "+" [.field "count", .field "owed"]

theorem adder_bind : adder.bind (.target (.record row)) formula (some (.nullable .f64)) =
    .ok (.expr converted) := by
  rfl

theorem adder_standard (method : String) :
    ∀ overload ∈ adder.catalog.lookup method, overload.IsStandard := by
  intro overload listed
  obtain ⟨definition, member, id, _, rfl⟩ := Catalog.mem_lookup listed
  refine ⟨⟨true, false⟩, definition, ?_, id, rfl⟩
  rw [List.mem_singleton.mp member]
  have operator : Definition.ofOperator .add (.nullable (.integer .i64)) ∈
      Standard.math (.integer .i64) := by
    simp [Standard.math, Standard.operators, Standard.numericOperators, Ty.integer]
  have kind : NumericKind.integer .i64 ∈ NumericKind.all := by decide
  simp only [Standard.definitions, ↓reduceIte, List.mem_append]
  exact .inl (.inl (.inl (.inl (.inl (List.mem_flatMap.mpr ⟨_, kind, operator⟩)))))

def guarded (overload : Overload) : Overload :=
  { overload with
    build := fun site =>
      if site.args.length = overload.parameters.length then overload.build site
      else .error (.invalidArgument "wrong number of arguments") }

theorem guarded_spares : Overload.Spares guarded where
  header _ := rfl
  build _ _ typed := if_pos typed.length_eq

theorem bound_by_implicit_conversions_tally :
    (adder.revise guarded).bind (.target (.record row)) formula (some (.nullable .f64)) =
      .ok (.expr converted) ∧
    Conversion.plan? true (.nullable (.integer .i64)) (.nullable .f64) =
      some (.lifted (.numeric .f64)) ∧
    Conversion.Gentle (fun source kind => source.WithinRange kind ∨ source.IsSqueezed kind) .i32
      (.nullable (.integer .i64)) (.numeric (.integer .i64)) := by
  obtain ⟨_, spared, implicit⟩ :=
    Compiler.bound_by_implicit_conversions adder (.target (.record row))
  have inResult := implicit rfl adder_standard formula _ converted adder_bind
  have outer : Expr.Within converted converted := .self
  have inner : Expr.Within (.convert count (.nullable (.integer .i64)) (.numeric (.integer .i64)))
      converted := .inside (.head _) (.inside (.head _) .self)
  refine ⟨(spared guarded guarded_spares formula _).trans adder_bind, ?_, ?_⟩
  · rcases inResult _ _ _ outer with inTarget | ⟨_, planned, _⟩
    · cases inTarget with
      | inside member _ => simp [Expr.parts] at member
    · exact planned
  · rcases inResult _ _ _ inner with inTarget | ⟨_, _, gentle⟩
    · cases inTarget with
      | inside member _ => simp [Expr.parts] at member
    · exact gentle

/-! A target that narrows a number itself, and a char that is squeezed into 16 bits. -/

def narrowed : Expr :=
  .convert (.target (.nullable (.integer .i64))) (.nullable .i32)
    (.lifted (.numeric (.integer .i32)))

def page : RecordType :=
  ⟨"Page", none, [⟨"initial", .char, .field, .shown, "Page"⟩], []⟩

def initial : Expr :=
  .member (.target (.record page)) (.record page 0 ⟨"initial", .char, .field, .shown, "Page"⟩)

theorem conversions_beyond_implicit_widening :
    adder.overrides = [] ∧
    (∀ method, ∀ overload ∈ adder.catalog.lookup method, overload.IsStandard) ∧
    (∃ expr, adder.bind narrowed (.field "value") none = .ok (.expr expr) ∧
      Expr.Within narrowed expr ∧
      Conversion.plan? true (.nullable (.integer .i64)) (.nullable .i32) = none) ∧
    adder.bind (.target (.record page)) (.field "initial") (some (.integer .u16)) =
      .ok (.expr (.convert initial (.integer .u16) (.numeric (.integer .u16)))) ∧
    ¬ Ty.WithinRange .char (.integer .u16) := by
  refine ⟨rfl, adder_standard, ⟨_, rfl, .inside (.head _) .self, rfl⟩, rfl, ?_⟩
  rintro ⟨range, found, _, reaches⟩
  rw [← Option.some.inj found] at reaches
  exact absurd reaches (by decide)

end Tally

end RowQuery
