import RowQuery.Proofs.Compiler.Extension

/-!
Overloads that decline. Trying one binds the arguments again, with its parameter types as the expected
ones, and it can come before or after the overloads that accept. What a formula is bound to stays the
same nevertheless, at every depth, and so does the reason why it cannot be bound. Only an overload that
looks at the compiler can tell that there is one more.
-/

namespace RowQuery

def Overload.Declines (overload : Overload) : Prop :=
  ∀ site : CallSite, site.Fits overload.parameters → overload.build site = .ok none

namespace Compiler

theorem firstAccepted_skip {site : List Expr → CallSite} {candidate : Candidate}
    (declined : candidate.overload.build (site candidate.args) = .ok none) (expected : Option Ty)
    (before after : List Candidate) :
    firstAccepted site expected (before ++ candidate :: after) =
      firstAccepted site expected (before ++ after) := by
  induction before with
  | nil =>
      rw [List.nil_append, firstAccepted, declined]
      rfl
  | cons first before ih => simp only [List.cons_append, firstAccepted, ih]

theorem ranked_concat (found : List Candidate) (candidate : Candidate) :
    ∃ before after, ranked (found ++ [candidate]) = before ++ candidate :: after ∧
      ranked found = before ++ after := by
  cases exact : candidate.exact with
  | true =>
      refine ⟨found.filter (·.exact), found.filter (!·.exact), ?_, rfl⟩
      simp [ranked, List.filter_append, exact]
  | false =>
      refine ⟨ranked found, [], ?_, (List.append_nil _).symm⟩
      simp [ranked, List.filter_append, exact]

section

variable {smaller larger : Compiler} {target : Expr} {args : List Formula}

/-- A call whose arguments can be bound is bound as before if its method has one more overload, which
declines. -/
theorem firstAccepted_concat
    (steady : ∀ name, ∀ overload ∈ smaller.catalog.lookup name, overload.NeverFails)
    {naturals : List Expr} (natural : Natural (args.map (smaller.binder target)) naturals)
    {overload : Overload} (declines : overload.Declines) (view : CompilerView) (method : String)
    (overloads : List Overload) (expected : Option Ty) :
    let binders := args.map (smaller.binder target)
    let fitting := candidate? (binders.zip naturals)
    let site := siteOf view target method args binders naturals
    firstAccepted site expected (ranked ((overloads ++ [overload]).filterMap fitting)) =
      firstAccepted site expected (ranked (overloads.filterMap fitting)) := by
  intro binders fitting site
  rw [List.filterMap_append, List.filterMap_cons, List.filterMap_nil]
  cases found : fitting overload with
  | none => rw [List.append_nil]
  | some candidate =>
      obtain ⟨rfl, made, _⟩ := (candidate?_eq_some natural.length_eq).mp found
      have declined := declines _ (siteOf_fits_of_steady steady natural made view method)
      obtain ⟨before, after, withIt, without⟩ := ranked_concat (overloads.filterMap fitting) candidate
      rw [withIt, without, firstAccepted_skip declined]

theorem callBinder_concat
    (steady : ∀ name, ∀ overload ∈ smaller.catalog.lookup name, overload.NeverFails)
    {overload : Overload} (declines : overload.Declines) {method : String}
    (listed : larger.catalog.lookup method = smaller.catalog.lookup method ++ [overload])
    (indifferent : ∀ overload ∈ smaller.catalog.lookup method,
      overload.Indifferent larger.view smaller.view) :
    larger.callBinder target method args (args.map (smaller.binder target)) =
      smaller.callBinder target method args (args.map (smaller.binder target)) := by
  simp only [callBinder, listed]
  congr 1
  funext expected
  cases bound : bindNatural (args.map (smaller.binder target)) with
  | error fault =>
      simp only [resolve, bound]
      rfl
  | ok naturals =>
      have natural := natural_of_bindNatural bound
      have again : ∀ binder ∈ args.map (smaller.binder target), ∀ ty,
          ∃ built, binder.bind (some ty) = .ok built := by
        intro binder member ty
        obtain ⟨arg, _, rfl⟩ := List.mem_map.mp member
        obtain ⟨expr, first⟩ := natural.of_mem member
        exact bind_total steady first (some ty)
      have same := (firstAccepted_concat steady natural declines larger.view method
        (smaller.catalog.lookup method) expected).trans
        (firstAccepted_view indifferent expected fun candidate member => by
          obtain ⟨overload, inside, found⟩ := List.mem_filterMap.mp (mem_ranked.mp member)
          obtain ⟨rfl, _⟩ := (candidate?_eq_some natural.length_eq).mp found
          exact inside)
      unfold siteOf at same
      rw [resolve_eq natural again, resolve_eq natural again, Result.ok_bind, Result.ok_bind]
      simp only [same]

end

section

variable {compiler : Compiler} {definition : Definition}
  (steady : ∀ name, ∀ overload ∈ compiler.catalog.lookup name, overload.NeverFails)
  (fresh : ∀ overload ∈ compiler.catalog.lookup definition.method,
    (overload.parameters == definition.parameters) = false)
  (indifferent : ∀ name, ∀ overload ∈ compiler.catalog.lookup name,
    overload.Indifferent (compiler.define definition).view compiler.view)

include steady fresh indifferent

theorem binder_define (declines : (definition.numbered compiler.catalog.issued).Declines)
    (target : Expr) (formula : Formula) :
    (compiler.define definition).binder target formula = compiler.binder target formula := by
  induction formula with
  | constant value => rfl
  | field path =>
      rw [binder, binder]
      congr 1
      funext expected
      rw [bindField, bindField, resolvePath, resolvePath]
      simp only [(define_extends fresh).follow_eq]
  | call method args ih =>
      rw [binder, binder, binders_eq_map, binders_eq_map, List.map_congr_left ih]
      have listed := Catalog.lookup_add compiler.catalog fresh method
      by_cases same : Catalog.key definition.method = Catalog.key method
      · rw [if_pos same] at listed
        exact callBinder_concat steady declines listed (indifferent method)
      · rw [if_neg same] at listed
        exact callBinder_view listed (indifferent method)

/-- If no overload fails, and none makes a difference between the compilers before and after, then a
definition that declines every call changes nothing, whatever its method is and its parameter types
are, as long as they are new: each formula is bound to the same expression as before or fails for the
same reason, with an expected type or without. -/
theorem declining_definition_unseen (declines : ∀ id site, definition.build id site = .ok none)
    (target : Expr) (formula : Formula) :
    (compiler.define definition).build target formula = compiler.build target formula ∧
    ∀ ty, (compiler.define definition).buildAs target formula ty =
        compiler.buildAs target formula ty ∧
      (compiler.define definition).buildAs? target formula ty =
        compiler.buildAs? target formula ty := by
  have same := binder_define steady fresh indifferent (fun site _ => declines _ site) target formula
  refine ⟨?_, ?_⟩
  · rw [build, build, bind, bind, same]
  · intro ty
    refine ⟨?_, ?_⟩
    · rw [buildAs, buildAs, bind, bind, same]
    · rw [buildAs?, buildAs?, bind, bind, same]

end

def hesitant : Definition :=
  .ofSite "IF" [.bool, .i32, .integer .i64] fun _ => .ok none

def capped : Formula :=
  .call "if" [.field "open", .field "balance", .constant (.integer ⟨.i64, 90, by decide⟩)]

/-- The definition that declines is the one that the arguments fit exactly, and is tried first. -/
theorem declining_definition_unseen_capped :
    ∃ naturals expr,
      List.Forall₂ (fun arg natural =>
          ((ofCatalog .standard).define hesitant).build accountRow arg = .ok natural)
        [.field "open", .field "balance", .constant (.integer ⟨.i64, 90, by decide⟩)] naturals ∧
      (naturals.map (·.ty) == hesitant.parameters) = true ∧
      (ofCatalog .standard).build accountRow capped = .ok expr ∧
      ((ofCatalog .standard).define hesitant).build accountRow capped = .ok expr ∧
      ((ofCatalog .standard).define hesitant).buildAs accountRow capped .any =
        (ofCatalog .standard).buildAs accountRow capped .any := by
  have computed : (((ofCatalog .standard).catalog.lookup hesitant.method).all
        (fun overload => !(overload.parameters == hesitant.parameters)) &&
      ((ofCatalog .standard).build accountRow capped).toOption.isSome) = true := by decide +kernel
  obtain ⟨apart, compiled⟩ := (Bool.and_eq_true _ _).mp computed
  have fresh : ∀ overload ∈ (ofCatalog .standard).catalog.lookup hesitant.method,
      (overload.parameters == hesitant.parameters) = false := by
    simpa using List.all_eq_true.mp apart
  obtain ⟨expr, found⟩ := Option.isSome_iff_exists.mp compiled
  have built := Result.eq_ok_of_toOption found
  have library : (ofCatalog .standard).catalog = .ofSettings Settings.standard.functions := by
    rw [ofCatalog, Catalog.standard]
  have unseen := declining_definition_unseen (Standard.compiler_neverFails library)
    fresh (Standard.compiler_indifferent library _ _) (fun _ _ => rfl) accountRow capped
  exact ⟨_, expr, .cons rfl (.cons rfl (.cons rfl .nil)), rfl, built, unseen.1.trans built,
    (unseen.2 .any).1⟩

/-! Two definitions that decline and are seen: by an overload that counts those of the compiler,
and by a formula that names its method in another case. -/

def census : Definition :=
  .ofSite "known" [] fun site =>
    .ok (some (.constant (.string (toString (site.compiler.methods.flatMap (·.2)).length)) .string))

def watchful : Compiler :=
  ofCatalog (.addAll .empty [census])

def echo : Definition :=
  .ofFunction "upper" [.string] .string fun _ args => .ok (args.headD .null)

def echoing : Compiler :=
  ofCatalog (.addAll .empty [echo])

def shout : Definition :=
  .ofSite "UPPER" [.string] fun _ => .ok none

def said : Formula :=
  .call "upper" [.constant (.string "a")]

theorem declining_definition_seen :
    ((∀ id site, ∃ expr, census.build id site = .ok (some expr)) ∧
      (∀ id site, hesitant.build id site = .ok none) ∧
      watchful.catalog.lookup hesitant.method = [] ∧
      watchful.build accountRow (.call "known" []) = .ok (.constant (.string "1") .string) ∧
      (watchful.define hesitant).build accountRow (.call "known" []) =
        .ok (.constant (.string "2") .string)) ∧
    ((∀ id site, ∃ expr, echo.build id site = .ok (some expr)) ∧
      (∀ id site, shout.build id site = .ok none) ∧
      (echoing.catalog.lookup shout.method).map (·.signature) = ["upper(string)"] ∧
      (shout.numbered 1).signature = "UPPER(string)" ∧
      (echoing.build accountRow said).toOption.isSome = true ∧
      (echoing.define shout).build accountRow said =
        .error (.noApplicableOverload "upper" ["string"])) := by
  refine ⟨⟨fun _ _ => ⟨_, rfl⟩, fun _ _ => rfl, ?_, ?_, ?_⟩,
    fun _ _ => ⟨_, rfl⟩, fun _ _ => rfl, ?_, ?_, ?_, ?_⟩
  · rfl
  · rfl
  · rfl
  · decide +kernel
  · decide +kernel
  · decide +kernel
  · rfl

end Compiler

end RowQuery
