import Mathlib.Data.List.Nodup
import RowQuery.Engine
import RowQuery.Proofs.Compiler.Faults
import RowQuery.Proofs.Shape.Supply

/-!
Why a selection or a query cannot be bound. A shape that was handed out can always be filled with the
expressions it was made for, also if the cache gives the properties in another order, so that nothing
but the query itself can be at fault.
-/

namespace RowQuery

theorem Expr.bindingFault?_of_assignable {shape : Shape} {bindings : List (Nat × Expr)}
    (suited : ∀ binding ∈ bindings, ∃ property, shape.properties[binding.1]? = some property ∧
      binding.2.ty.assignable property.ty = true) : bindingFault? shape bindings = none := by
  induction bindings with
  | nil => rfl
  | cons first rest ih =>
      obtain ⟨slot, expr⟩ := first
      obtain ⟨property, found, assigned⟩ := suited (slot, expr) List.mem_cons_self
      simp only [bindingFault?, found, assigned, if_true]
      exact ih fun binding inside => suited binding (List.mem_cons_of_mem _ inside)

namespace Projection

def propertiesOf (exprs : List (String × Expr)) : List Property :=
  exprs.map fun entry => propertyFor entry.1 entry.2

/-- An expression can be stored in each property that is the same as its own. -/
theorem assignable_of_same {name : String} {expr : Expr} {property : Property}
    (same : property.same (propertyFor name expr) = true) :
    expr.ty.assignable property.ty = true := by
  have typed : (property.ty == (propertyFor name expr).ty) = true := (Bool.and_eq_true_iff.mp same).2
  rw [propertyFor] at typed
  simp only at typed
  split at typed
  · rw [Ty.eq_of_beq_plain rfl typed]
    exact Ty.assignable_any _
  · exact Ty.assignable_of_beq (Ty.same_symm typed)

/-- Each expression finds the property that was asked for it, wherever it stands in the shape. -/
theorem slot_of_same {shape : Shape} {exprs : List (String × Expr)}
    (same : SameProperties shape.properties (propertiesOf exprs))
    (distinct : ((propertiesOf exprs).map (·.name)).Nodup) {entry : String × Expr}
    (listed : entry ∈ exprs) :
    ∃ slot property, shape.indexOf? entry.1 = some slot ∧ shape.properties[slot]? = some property ∧
      property.same (propertyFor entry.1 entry.2) = true := by
  have asked : propertyFor entry.1 entry.2 ∈ propertiesOf exprs := List.mem_map_of_mem listed
  obtain ⟨present, inside, equal⟩ := same.2 _ asked
  have named : present.name = entry.1 := Property.name_eq equal
  obtain ⟨slot, found⟩ : ∃ slot, shape.indexOf? entry.1 = some slot := by
    rw [← Option.isSome_iff_exists, Shape.indexOf?, List.findIdx?_isSome, List.any_eq_true]
    exact ⟨present, inside, by simp [named]⟩
  obtain ⟨bound, slotNamed, _⟩ := List.findIdx?_eq_some_iff_getElem.mp found
  have placed := List.getElem?_eq_getElem bound
  refine ⟨slot, _, found, placed, ?_⟩
  -- The property of the slot is one that was asked for, and only one has the name.
  obtain ⟨wanted, isAsked, equalSlot⟩ := same.1 _ (List.mem_of_getElem? placed)
  have wantedNamed : wanted.name = (propertyFor entry.1 entry.2).name := by
    rw [← Property.name_eq equalSlot]
    exact beq_iff_eq.mp slotNamed
  rwa [List.inj_on_of_nodup_map distinct isAsked asked wantedNamed] at equalSlot

def HasSlot (shape : Shape) (entry : String × Expr) : Prop :=
  ∃ slot property, shape.indexOf? entry.1 = some slot ∧ shape.properties[slot]? = some property ∧
    entry.2.ty.assignable property.ty = true

theorem hasSlot_of_same {shape : Shape} {exprs : List (String × Expr)}
    (same : SameProperties shape.properties (propertiesOf exprs))
    (distinct : ((propertiesOf exprs).map (·.name)).Nodup) {entry : String × Expr}
    (listed : entry ∈ exprs) : HasSlot shape entry := by
  obtain ⟨slot, property, found, placed, equal⟩ := slot_of_same same distinct listed
  exact ⟨slot, property, found, placed, assignable_of_same equal⟩

theorem bindings_eq_ok {shape : Shape} {exprs : List (String × Expr)}
    (slots : ∀ entry ∈ exprs, HasSlot shape entry) :
    ∃ bound, bindings shape exprs = .ok bound ∧
      ∀ binding ∈ bound, ∃ property, shape.properties[binding.1]? = some property ∧
        binding.2.ty.assignable property.ty = true := by
  induction exprs with
  | nil => exact ⟨[], rfl, by simp⟩
  | cons entry exprs ih =>
      obtain ⟨name, expr⟩ := entry
      obtain ⟨slot, property, found, placed, assigned⟩ := slots _ List.mem_cons_self
      obtain ⟨rest, later, suited⟩ := ih fun other inside => slots other (List.mem_cons_of_mem _ inside)
      refine ⟨(slot, expr) :: rest, ?_, ?_⟩
      · simp only [bindings, found, later, Result.ok_bind]
        rfl
      · intro binding inside
        rcases List.mem_cons.mp inside with rfl | deeper
        · exact ⟨property, placed, assigned⟩
        · exact suited binding deeper

/-- A shape with the properties that the expressions ask for can be filled with them. -/
theorem ofShape_eq_ok {shape : Shape} {exprs : List (String × Expr)}
    (accepted : propertyFault? [] (propertiesOf exprs) = none)
    (same : SameProperties shape.properties (propertiesOf exprs)) :
    ∃ projection, ofShape shape exprs = .ok projection := by
  have distinct := (propertyFault?_eq_none accepted).2
  obtain ⟨slots, bound, suited⟩ := bindings_eq_ok fun _ listed =>
    hasSlot_of_same same distinct listed
  refine ⟨⟨shape, .construct shape slots⟩, ?_⟩
  rw [ofShape, bound, Result.ok_bind, Expr.fill, Expr.bindingFault?_of_assignable suited]
  rfl

/-- Once its expressions are bound, a selection needs a shape for them, and fills it. -/
theorem compile_eq {compiler : Compiler} {target : Expr} {selection : Selection}
    {exprs : List (String × Expr)} (bound : bindSelection compiler target selection = .ok exprs)
    (held : List Ty) (forge : Forge) :
    (compile compiler held target selection forge).1 = (do
      let shape ← (forge.generate held (propertiesOf exprs)).1
      ofShape shape exprs) := by
  rw [compile, bound]
  simp only
  split
  · rename_i fault changed generated
    change forge.generate held (propertiesOf exprs) = _ at generated
    rw [generated]
    rfl
  · rename_i shape changed generated
    change forge.generate held (propertiesOf exprs) = _ at generated
    rw [generated]
    rfl

end Projection

theorem propertyFault?_refuses {before : List String} {properties : List Property} {fault : Error}
    (found : propertyFault? before properties = some fault) : fault.Refusal := by
  induction properties generalizing before with
  | nil => simp [propertyFault?] at found
  | cons property rest ih =>
      rw [propertyFault?] at found
      split at found
      · rw [← Option.some.inj found]
        exact .invalidProjection _
      · split at found
        · rw [← Option.some.inj found]
          exact .invalidProjection _
        · exact ih found

section

variable {compiler : Compiler} (plain : compiler.overrides = [])
  (steady : ∀ name, ∀ overload ∈ compiler.catalog.lookup name, overload.NeverFails)

include plain steady

theorem Projection.bindSelection_refuses (target : Expr) (selection : Selection) :
    (bindSelection compiler target selection).Meets (fun _ => True) Error.Refusal := by
  induction selection with
  | nil => trivial
  | cons entry rest ih =>
      obtain ⟨name, formula⟩ := entry
      rw [bindSelection]
      refine (Compiler.buildFor_refuses plain steady target formula (.inl rfl)).bind ?_
      intro expr _
      exact ih.bind fun _ _ => trivial

theorem Projection.compile_refuses {forge : Forge} (matching : forge.All CacheEntry.Matches)
    (held : List Ty) (target : Expr) (selection : Selection) :
    (compile compiler held target selection forge).1.Meets (fun _ => True) Error.Refusal := by
  have bound := bindSelection_refuses plain steady target selection
  cases selected : bindSelection compiler target selection with
  | error fault =>
      rw [selected] at bound
      rw [compile, selected]
      exact bound
  | ok exprs =>
      have supplied := (matching.supplies held (propertiesOf exprs)).shape
      rw [compile_eq selected]
      refine (supplied.mono (fun _ => id) fun _ => propertyFault?_refuses).bind ?_
      rintro shape ⟨accepted, same⟩
      obtain ⟨projection, filled⟩ := ofShape_eq_ok accepted same
      rw [filled]
      trivial

theorem CompiledQuery.bindOrder_refuses (target : Expr) (order : List SortKey) :
    (bindOrder compiler target order).Meets (fun _ => True) Error.Refusal := by
  induction order with
  | nil => trivial
  | cons key rest ih =>
      rw [bindOrder]
      refine (Compiler.buildFor_refuses plain steady target key.formula (.inl rfl)).bind ?_
      intro expr _
      exact ih.bind fun _ _ => trivial

/-- Conditions are bound as truth values, so that there is nothing wrong with joining them. -/
theorem CompiledQuery.bindFilters_refuses (target : Expr) {before : Option Expr}
    (truths : ∀ expr, before = some expr → expr.ty = .bool) (filters : List Formula) :
    (bindFilters compiler target before filters).Meets (fun _ => True) Error.Refusal := by
  induction filters generalizing before with
  | nil => trivial
  | cons condition rest ih =>
      rw [bindFilters]
      refine (Compiler.buildFor_refuses plain steady target condition (.inr rfl)).reached.bind ?_
      rintro expr ⟨built, _⟩
      have truth : expr.ty = .bool :=
        Ty.eq_of_beq_plain rfl (Compiler.bind_ty (Compiler.buildFor_eq_ok.mp built))
      cases before with
      | none =>
          change Result.Meets _ _ (bindFilters compiler target (some expr) rest)
          exact ih fun other same => by rw [← Option.some.inj same, truth]
      | some previous =>
          have previousTruth := truths previous rfl
          have both : Expr.applyBinary .and previous expr = .ok (.binary .and previous expr) := by
            rw [Expr.applyBinary, truth, previousTruth]
            rfl
          simp only [both, Result.ok_bind]
          exact ih fun other same => by rw [← Option.some.inj same]; rfl

theorem CompiledQuery.compile_refuses {forge : Forge} (matching : forge.All CacheEntry.Matches)
    (held : List Ty) (source : Ty) (query : Query) :
    (compile compiler held source query forge).1.Meets (fun _ => True) Error.Refusal := by
  have parts : Result.Meets (fun _ => True) Error.Refusal (do
      let filter ← bindFilters compiler (.target source) none query.filters
      let order ← bindOrder compiler (.target source) query.order
      return (filter, order)) := by
    refine (bindFilters_refuses plain steady _ (by simp) query.filters).bind ?_
    intro filter _
    exact (bindOrder_refuses plain steady _ query.order).bind fun _ _ => trivial
  unfold compile
  simp only
  split
  · rename_i bound
    rw [bound] at parts
    exact parts
  · trivial
  · rename_i filter order selection _ _
    have selected := Projection.compile_refuses plain steady matching held (.target source) selection
    split
    · rename_i fault changed refused
      rw [refused] at selected
      exact selected
    · trivial

end

theorem Result.Meets.fault {post : α → Prop} {allowed : Error → Prop} {outcome : Result α}
    (met : outcome.Meets post allowed) {fault : Error} (failed : outcome = .error fault) :
    allowed fault := by
  rw [failed] at met
  exact met

namespace Engine

/-- With the functions of the library and without overrides, and whatever shapes were asked for
before, a formula, a selection or a query is only ever refused for a reason in itself. Each overload
that is tried gets one argument for each of its parameters, of the parameter types, and does not
fail; unless it has an open parameter, it finds all arguments that it looks for and accepts. -/
theorem compilation_only_refuses {engine : Engine} {settings : FunctionSettings}
    (standard : engine.compiler = .ofCatalog (.ofSettings settings))
    (reached : engine.forge.Reachable) (held : List Ty) (source : Ty) :
    (∀ formula fault, engine.compile source formula = .error fault →
      fault.Refusal ∧ fault.category = .badQuery) ∧
    (∀ selection fault, (engine.select held source selection).1 = .error fault →
      fault.Refusal ∧ fault.category = .badQuery) ∧
    (∀ query fault, (engine.compileQuery held source query).1 = .error fault →
      fault.Refusal ∧ fault.category = .badQuery) ∧
    ∀ overload site, engine.compiler.Tries (.target source) overload site →
      site.args.length = overload.parameters.length ∧ site.Fits overload.parameters ∧
      ∃ outcome, overload.build site = .ok outcome ∧
        (overload.parameters.any Ty.isOpen = false → outcome.isSome = true) := by
  have plain : engine.compiler.overrides = [] := by rw [standard]; rfl
  have library : engine.compiler.catalog = .ofSettings settings := by rw [standard]; rfl
  have steady := Standard.compiler_neverFails library
  have both {fault : Error} (refusal : fault.Refusal) : fault.Refusal ∧ fault.category = .badQuery :=
    ⟨refusal, refusal.category⟩
  refine ⟨?_, ?_, ?_, ?_⟩
  · intro formula fault failed
    exact both ((Compiler.buildFor_refuses plain steady (.target source) formula
      (.inl rfl)).fault failed)
  · intro selection fault failed
    exact both ((Projection.compile_refuses plain steady reached.matching held (.target source)
      selection).fault failed)
  · intro query fault failed
    exact both ((CompiledQuery.compile_refuses plain steady reached.matching held source
      query).fault failed)
  · intro overload site tries
    have fits := tries.fits steady
    obtain ⟨method, _, _, _, listed, _⟩ := tries
    refine ⟨fits.args.length_eq, fits, ?_⟩
    obtain ⟨outcome, built⟩ := steady method overload listed site fits
    refine ⟨outcome, built, ?_⟩
    intro closed
    rw [standard] at listed
    obtain ⟨definition, id, form, _, rfl⟩ := Standard.mem_lookup listed
    obtain ⟨expr, accepted⟩ := form.accepts fits closed
    rw [accepted] at built
    rw [← Except.ok.inj built]
    rfl

def fresh : Engine :=
  ⟨.standard, .ofCatalog .standard, .withCache (.rotating 100 0 (.plain (.new "<projection>")))⟩

theorem fresh_reachable : fresh.forge.Reachable :=
  .withCache (.withRotation 100 (.new "<projection>") rfl)

/-- The negation of a field is tried with the overload that it fits exactly. -/
theorem fresh_tries : ∃ overload site, fresh.compiler.Tries Compiler.tallyRow overload site ∧
    overload.parameters.any Ty.isOpen = false := by
  have exact : (fresh.compiler.catalog.lookup "-").any (fun overload =>
      ([Compiler.amount].map (·.ty) == overload.parameters) &&
        !overload.parameters.any Ty.isOpen) = true := by
    decide +kernel
  obtain ⟨overload, listed, fitting⟩ := List.any_eq_true.mp exact
  obtain ⟨isExact, closed⟩ := (Bool.and_eq_true _ _).mp fitting
  have natural : Compiler.Natural ([.field "n"].map (fresh.compiler.binder Compiler.tallyRow))
      [Compiler.amount] := .cons rfl .nil
  exact ⟨overload, _, ⟨"-", [.field "n"], _, _, listed, natural,
    Compiler.coerced_self natural.length_eq isExact, rfl⟩, by simpa using closed⟩

/-- A path with an empty name in it, a selection of a member that is not there, a number as a
condition, and the negation of a field. -/
theorem compilation_only_refuses_fresh :
    ∃ malformed missing unfit : Error,
      fresh.compile (.record Compiler.tally) (.field "n..n") = .error malformed ∧
      (fresh.select [] (.record Compiler.tally) [("total", .field "m")]).1 = .error missing ∧
      (fresh.compileQuery [] (.record Compiler.tally)
        ⟨none, [.constant (.integer ⟨.i32, 1, by decide⟩)], [], none, none⟩).1 = .error unfit ∧
      malformed.category = .badQuery ∧ missing.category = .badQuery ∧ unfit.category = .badQuery ∧
      ∃ overload site, fresh.compiler.Tries Compiler.tallyRow overload site ∧
        site.args.length = overload.parameters.length ∧
        ∃ outcome, overload.build site = .ok outcome ∧ outcome.isSome = true := by
  have first : fresh.compile (.record Compiler.tally) (.field "n..n") =
      .error (.malformedExpression "field path 'n..n' has an empty segment") := rfl
  have second : (fresh.select [] (.record Compiler.tally) [("total", .field "m")]).1 =
      .error (.memberNotFound "Tally" "m" "m") := rfl
  have third : (fresh.compileQuery [] (.record Compiler.tally)
      ⟨none, [.constant (.integer ⟨.i32, 1, by decide⟩)], [], none, none⟩).1 =
        .error (.incompatibleType "1" "bool" "i32") := rfl
  have standard : fresh.compiler = .ofCatalog (.ofSettings Settings.standard.functions) := rfl
  obtain ⟨formulas, selections, queries, overloads⟩ :=
    compilation_only_refuses standard fresh_reachable [] (.record Compiler.tally)
  obtain ⟨overload, site, tries, closed⟩ := fresh_tries
  obtain ⟨sameLength, _, outcome, built, accepts⟩ := overloads overload site tries
  exact ⟨_, _, _, first, second, third, (formulas _ _ first).2, (selections _ _ second).2,
    (queries _ _ third).2, overload, site, tries, sameLength, outcome, built, accepts closed⟩

end Engine

end RowQuery
