import RowQuery.Proofs.Compiler.Agreement
import RowQuery.Proofs.Overload.Catalog

/-!
Which overload a call gets. If no overload fails, a call whose arguments can be bound is settled by
looking at the overloads one by one: the one that the arguments fit exactly comes first, then the
order of definition decides. Making the arguments fit the other overloads changes nothing.
-/

namespace RowQuery

namespace Compiler

/-! ### Arguments for one overload -/

theorem coerce_of_coerced {binders : List Binder} {naturals exprs : List Expr}
    {parameters : List Ty} (made : Coerced binders naturals parameters exprs) :
    coerce (binders.zip naturals) parameters =
      .ok (some (exprs, naturals.map (·.ty) == parameters)) := by
  induction made with
  | nil => rfl
  | keep equal _ ih =>
      rw [List.zip_cons_cons, coerce, if_pos equal, ih, List.map_cons, List.cons_beq_cons, equal,
        Bool.true_and]
      rfl
  | rebind different bound _ ih =>
      rw [List.zip_cons_cons, coerce, if_neg (by simp [different]), bound, Result.ok_bind, ih,
        List.map_cons, List.cons_beq_cons, different, Bool.false_and]
      rfl

theorem coerced_self {binders : List Binder} {naturals : List Expr} {parameters : List Ty}
    (known : binders.length = naturals.length)
    (exact : (naturals.map (·.ty) == parameters) = true) :
    Coerced binders naturals parameters naturals := by
  induction naturals generalizing binders parameters with
  | nil =>
      cases binders <;> simp at known
      cases parameters <;> simp at exact
      exact .nil
  | cons natural naturals ih =>
      obtain _ | ⟨binder, binders⟩ := binders
      · simp at known
      obtain _ | ⟨parameter, parameters⟩ := parameters
      · simp at exact
      rw [List.map_cons, List.cons_beq_cons, Bool.and_eq_true] at exact
      exact .keep exact.1 (ih (by simpa using known) exact.2)

/-- Arguments that can be bound again with every type can be tried on every list of parameters. -/
theorem coerce_total {binders : List Binder}
    (again : ∀ binder ∈ binders, ∀ ty, ∃ built, binder.bind (some ty) = .ok built)
    (naturals : List Expr) (parameters : List Ty) :
    ∃ outcome, coerce (binders.zip naturals) parameters = .ok outcome := by
  induction binders generalizing naturals parameters with
  | nil => exact ⟨_, rfl⟩
  | cons binder binders ih =>
      obtain _ | ⟨natural, naturals⟩ := naturals
      · exact ⟨_, rfl⟩
      obtain _ | ⟨parameter, parameters⟩ := parameters
      · exact ⟨_, rfl⟩
      obtain ⟨rest, later⟩ := ih (fun other member => again other (List.mem_cons_of_mem _ member))
        naturals parameters
      obtain ⟨built, bound⟩ := again binder List.mem_cons_self parameter
      rw [List.zip_cons_cons, coerce, bound, later]
      split
      · cases rest <;> exact ⟨_, rfl⟩
      · cases built with
        | declined reason => exact ⟨_, rfl⟩
        | expr converted => cases rest <;> exact ⟨_, rfl⟩

/-! ### One overload after the other -/

def candidate? (args : List (Binder × Expr)) (overload : Overload) : Option Candidate :=
  if overload.parameters.length = args.length then
    match coerce args overload.parameters with
    | .ok (some (exprs, exact)) => some ⟨overload, exprs, exact⟩
    | _ => none
  else none

theorem candidates_eq {args : List (Binder × Expr)}
    (total : ∀ parameters, ∃ outcome, coerce args parameters = .ok outcome)
    (overloads : List Overload) :
    candidates args overloads = .ok (overloads.filterMap (candidate? args)) := by
  induction overloads with
  | nil => rfl
  | cons overload overloads ih =>
      rw [candidates]
      by_cases arity : overload.parameters.length = args.length
      · obtain ⟨outcome, coerced⟩ := total overload.parameters
        rw [if_neg (by simp [arity]), coerced, Result.ok_bind, ih, Result.ok_bind,
          List.filterMap_cons, candidate?, if_pos arity, coerced]
        obtain _ | ⟨exprs, exact⟩ := outcome
        · rfl
        · rfl
      · rw [if_pos (by simp [arity]), ih, List.filterMap_cons, candidate?, if_neg arity]

def accepted? (site : List Expr → CallSite) (expected : Option Ty) (candidate : Candidate) :
    Option Expr :=
  match candidate.overload.build (site candidate.args) with
  | .ok (some built) => meet? built expected
  | _ => none

theorem firstAccepted_eq {site : List Expr → CallSite} (expected : Option Ty)
    {found : List Candidate}
    (accepting : ∀ candidate ∈ found, ∃ outcome,
      candidate.overload.build (site candidate.args) = .ok outcome) :
    firstAccepted site expected found = .ok (found.findSome? (accepted? site expected)) := by
  induction found with
  | nil => rfl
  | cons candidate rest ih =>
      have later := ih fun other member => accepting other (List.mem_cons_of_mem _ member)
      obtain ⟨outcome, built⟩ := accepting candidate List.mem_cons_self
      rw [firstAccepted, built, Result.ok_bind, List.findSome?_cons, accepted?, built]
      obtain _ | expr := outcome
      · exact later
      · simp only
        cases meet? expr expected with
        | none => exact later
        | some converted => rfl

/-- An exact candidate that is accepted is the one that is taken, if there is no other exact one. -/
theorem ranked_exact {found : List Candidate} {accept : Candidate → Option Expr}
    {candidate : Candidate} (member : candidate ∈ found) (exact : candidate.exact = true)
    (single : ∀ other ∈ found, other.exact = true → other = candidate) {expr : Expr}
    (accepted : accept candidate = some expr) : (ranked found).findSome? accept = some expr := by
  rw [ranked, List.findSome?_append]
  have first : (found.filter (·.exact)).findSome? accept = some expr := by
    cases listed : found.filter (·.exact) with
    | nil =>
        have inside : candidate ∈ found.filter (·.exact) := List.mem_filter.mpr ⟨member, exact⟩
        simp [listed] at inside
    | cons other rest =>
        have inside : other ∈ found.filter (·.exact) := by simp [listed]
        obtain ⟨known, otherExact⟩ := List.mem_filter.mp inside
        rw [single other known otherExact, List.findSome?_cons, accepted]
  rw [first]
  rfl

/-- If no exact candidate is accepted, the candidates are tried in their order. -/
theorem ranked_partial {found : List Candidate} {accept : Candidate → Option Expr}
    (none : ∀ candidate ∈ found, candidate.exact = true → accept candidate = none) :
    (ranked found).findSome? accept = found.findSome? accept := by
  rw [ranked, List.findSome?_append]
  induction found with
  | nil => rfl
  | cons candidate rest ih =>
      have later := ih fun other member => none other (List.mem_cons_of_mem _ member)
      cases exact : candidate.exact with
      | true =>
          have refused := none candidate List.mem_cons_self exact
          simp only [List.filter_cons, exact, if_true, Bool.not_true, Bool.false_eq_true, if_false,
            List.findSome?_cons, refused]
          exact later
      | false =>
          have allRefused : (rest.filter (·.exact)).findSome? accept = Option.none := by
            rw [List.findSome?_eq_none_iff]
            intro other inside
            obtain ⟨known, otherExact⟩ := List.mem_filter.mp inside
            exact none other (List.mem_cons_of_mem _ known) otherExact
          rw [allRefused, Option.none_or] at later
          simp only [List.filter_cons, exact, Bool.false_eq_true, if_false, Bool.not_false, if_true,
            List.findSome?_cons, allRefused, Option.none_or, later]

theorem findSome?_filterMap {args : List (Binder × Expr)} (accept : Candidate → Option Expr)
    (overloads : List Overload) :
    (overloads.filterMap (candidate? args)).findSome? accept =
      overloads.findSome? fun overload => (candidate? args overload).bind accept := by
  induction overloads with
  | nil => rfl
  | cons overload overloads ih =>
      rw [List.filterMap_cons, List.findSome?_cons]
      cases candidate? args overload with
      | none => exact ih
      | some candidate =>
          rw [List.findSome?_cons, ih]
          rfl

theorem candidate?_eq_some {binders : List Binder} {naturals : List Expr}
    (known : binders.length = naturals.length) {overload : Overload} {candidate : Candidate} :
    candidate? (binders.zip naturals) overload = some candidate ↔
      candidate.overload = overload ∧
      Coerced binders naturals overload.parameters candidate.args ∧
      candidate.exact = (naturals.map (·.ty) == overload.parameters) := by
  have zipped : (binders.zip naturals).length = naturals.length := by
    rw [List.length_zip, known, Nat.min_self]
  rw [candidate?, zipped]
  constructor
  · intro found
    split at found
    · rename_i arity
      split at found
      · rename_i exprs exact coerced
        have made := coerced_of_coerce arity known coerced
        rw [coerce_of_coerced made] at coerced
        simp only [Except.ok.injEq, Option.some.injEq, Prod.mk.injEq, true_and] at coerced
        rw [← Option.some.inj found]
        exact ⟨rfl, made, coerced.symm⟩
      · simp at found
    · simp at found
  · rintro ⟨rfl, made, exact⟩
    have arity := made.length_eq
    rw [if_pos (arity.symm.trans known), coerce_of_coerced made, ← exact]

/-! ### Calls -/

def buildFor (compiler : Compiler) (target : Expr) (formula : Formula) : Option Ty → Result Expr
  | none => compiler.build target formula
  | some ty => compiler.buildAs target formula ty

/-- What an overload has to offer for a call: the arguments can be made to fit its parameters, it
accepts them, and the result can be made one of the expected type. -/
def Offers (compiler : Compiler) (target : Expr) (method : String) (args : List Formula)
    (naturals : List Expr) (expected : Option Ty) (overload : Overload) (expr : Expr) : Prop :=
  ∃ coerced built,
    Coerced (args.map (compiler.binder target)) naturals overload.parameters coerced ∧
    overload.build
      (siteOf compiler.view target method args (args.map (compiler.binder target)) naturals
        coerced) = .ok (some built) ∧
    meet? built expected = some expr

def offer? (compiler : Compiler) (target : Expr) (method : String) (args : List Formula)
    (naturals : List Expr) (expected : Option Ty) (overload : Overload) : Option Expr :=
  let binders := args.map (compiler.binder target)
  (candidate? (binders.zip naturals) overload).bind
    (accepted? (siteOf compiler.view target method args binders naturals) expected)

section

variable {compiler : Compiler} {target : Expr} {args : List Formula} {naturals : List Expr}

theorem buildFor_of_bind {formula : Formula} {expected : Option Ty} {built : Built}
    (bound : (compiler.binder target formula).bind expected = .ok built) :
    compiler.buildFor target formula expected = built.get := by
  cases expected with
  | none =>
      rw [buildFor, build, bind, bound]
      rfl
  | some ty =>
      rw [buildFor, buildAs, bind, bound]
      rfl

theorem settle_eq_expr {method : String} {outcome : Option Expr} {expr : Expr} :
    settle method naturals outcome = .expr expr ↔ outcome = some expr := by
  cases outcome <;> simp [settle]

theorem natural_of_build
    (natural : List.Forall₂ (fun arg expr => compiler.build target arg = .ok expr) args naturals) :
    Natural (args.map (compiler.binder target)) naturals := by
  induction natural with
  | nil => exact .nil
  | cons built _ ih => exact .cons (build_eq_ok.mp built) ih

theorem bindNatural_of_natural {binders : List Binder} (natural : Natural binders naturals) :
    bindNatural binders = .ok naturals := by
  induction natural with
  | nil => rfl
  | cons bound _ ih =>
      rw [bindNatural, bound, Result.ok_bind, Built.get, Result.ok_bind, ih]
      rfl

theorem resolve_eq {binders : List Binder} (natural : Natural binders naturals)
    (again : ∀ binder ∈ binders, ∀ ty, ∃ built, binder.bind (some ty) = .ok built)
    (overloads : List Overload) :
    resolve binders overloads =
      .ok (naturals, ranked (overloads.filterMap (candidate? (binders.zip naturals)))) := by
  rw [resolve, bindNatural_of_natural natural, Result.ok_bind,
    candidates_eq (coerce_total again naturals)]
  rfl

def firstOffer? (compiler : Compiler) (target : Expr) (method : String) (args : List Formula)
    (naturals : List Expr) (expected : Option Ty) : Option Expr :=
  let binders := args.map (compiler.binder target)
  (ranked ((compiler.catalog.lookup method).filterMap (candidate? (binders.zip naturals)))).findSome?
    (accepted? (siteOf compiler.view target method args binders naturals) expected)

/-- If no overload fails, trying the arguments on the overloads does not fail either, and the call is
the first offer. -/
theorem buildFor_call
    (steady : ∀ method, ∀ overload ∈ compiler.catalog.lookup method, overload.NeverFails)
    (natural : Natural (args.map (compiler.binder target)) naturals) (method : String)
    (expected : Option Ty) :
    compiler.buildFor target (.call method args) expected =
      (settle method naturals (compiler.firstOffer? target method args naturals expected)).get := by
  have again (arg : Formula) (inside : arg ∈ args) (ty : Ty) :
      ∃ built, (compiler.binder target arg).bind (some ty) = .ok built := by
    obtain ⟨expr, first⟩ := natural.of_mem (List.mem_map_of_mem inside)
    exact bind_total steady first (some ty)
  have rebound : ∀ binder ∈ args.map (compiler.binder target), ∀ ty,
      ∃ built, binder.bind (some ty) = .ok built := by
    intro binder member ty
    obtain ⟨arg, inside, rfl⟩ := List.mem_map.mp member
    exact again arg inside ty
  have resolved := resolve_eq natural rebound (compiler.catalog.lookup method)
  rw [firstOffer?]
  generalize ranked _ = found at resolved ⊢
  obtain ⟨_, fitting⟩ := resolve_ok resolved
  have building : ∀ candidate ∈ found, ∃ outcome, candidate.overload.build
      (siteOf compiler.view target method args (args.map (compiler.binder target)) naturals
        candidate.args) = .ok outcome := by
    intro candidate member
    obtain ⟨inside, made⟩ := fitting candidate member
    exact steady method candidate.overload inside _ (siteOf_fits natural made again)
  have bound := callBinder_eq resolved (firstAccepted_eq expected building)
  rw [← binders_eq_map, ← binder] at bound
  rw [buildFor_of_bind bound, binders_eq_map]

variable {method : String} {expected : Option Ty}

theorem offers_iff (natural : Natural (args.map (compiler.binder target)) naturals)
    {overload : Overload} {expr : Expr} :
    compiler.Offers target method args naturals expected overload expr ↔
      compiler.offer? target method args naturals expected overload = some expr := by
  rw [offer?, Option.bind_eq_some_iff]
  constructor
  · rintro ⟨coerced, built, made, accepted, met⟩
    refine ⟨⟨overload, coerced, _⟩, (candidate?_eq_some natural.length_eq).mpr ⟨rfl, made, rfl⟩, ?_⟩
    rw [accepted?, accepted]
    exact met
  · rintro ⟨candidate, found, accepted⟩
    obtain ⟨rfl, made, _⟩ := (candidate?_eq_some natural.length_eq).mp found
    rw [accepted?] at accepted
    split at accepted
    · rename_i built building
      exact ⟨candidate.args, built, made, building, accepted⟩
    · simp at accepted

theorem not_offers_iff (natural : Natural (args.map (compiler.binder target)) naturals)
    {overload : Overload} :
    (∀ expr, ¬ compiler.Offers target method args naturals expected overload expr) ↔
      compiler.offer? target method args naturals expected overload = none := by
  rw [Option.eq_none_iff_forall_not_mem]
  simp only [offers_iff natural, Option.mem_def]

end

/-- Arguments of some types fit at most one overload exactly. -/
theorem exact_length_le_one {overloads : List Overload}
    (unambiguous : Catalog.Unambiguous overloads) (types : List Ty) :
    (overloads.filter (types == ·.parameters)).length ≤ 1 := by
  have apart := List.Pairwise.filter (types == ·.parameters) unambiguous
  have exact : ∀ overload ∈ overloads.filter (types == ·.parameters),
      (types == overload.parameters) = true := fun overload inside => (List.mem_filter.mp inside).2
  generalize overloads.filter (types == ·.parameters) = fitting at apart exact
  match fitting with
  | [] => exact Nat.zero_le 1
  | [_] => exact Nat.le_refl 1
  | first :: second :: rest =>
      have different := List.rel_of_pairwise_cons apart List.mem_cons_self
      have same := Ty.same_signature (exact first (by simp)) (exact second (by simp))
      simp [same] at different

theorem exact_unique {overloads : List Overload} (unambiguous : Catalog.Unambiguous overloads)
    {types : List Ty} {first second : Overload} (inFirst : first ∈ overloads)
    (inSecond : second ∈ overloads) (isFirst : (types == first.parameters) = true)
    (isSecond : (types == second.parameters) = true) : first = second := by
  have single := exact_length_le_one unambiguous types
  have firstInside : first ∈ overloads.filter (types == ·.parameters) :=
    List.mem_filter.mpr ⟨inFirst, isFirst⟩
  have secondInside : second ∈ overloads.filter (types == ·.parameters) :=
    List.mem_filter.mpr ⟨inSecond, isSecond⟩
  generalize overloads.filter (types == ·.parameters) = fitting at single firstInside secondInside
  match fitting with
  | [] => simp at firstInside
  | [only] => rw [List.mem_singleton.mp firstInside, List.mem_singleton.mp secondInside]
  | _ :: _ :: _ => simp at single

section

variable {compiler : Compiler} {target : Expr} {method : String} {args : List Formula}
  {naturals : List Expr} {expected : Option Ty}

theorem firstOffer?_exact (unambiguous : Catalog.Unambiguous (compiler.catalog.lookup method))
    (natural : Natural (args.map (compiler.binder target)) naturals) {overload : Overload}
    (listed : overload ∈ compiler.catalog.lookup method)
    (exact : (naturals.map (·.ty) == overload.parameters) = true) {built expr : Expr}
    (accepted : overload.build
      (siteOf compiler.view target method args (args.map (compiler.binder target)) naturals naturals) =
        .ok (some built))
    (met : meet? built expected = some expr) :
    compiler.firstOffer? target method args naturals expected = some expr := by
  have made := coerced_self natural.length_eq exact
  have found : candidate? ((args.map (compiler.binder target)).zip naturals) overload =
      some ⟨overload, naturals, true⟩ :=
    (candidate?_eq_some natural.length_eq).mpr ⟨rfl, made, exact.symm⟩
  refine ranked_exact (List.mem_filterMap.mpr ⟨overload, listed, found⟩) rfl ?_ ?_
  · intro other inside otherExact
    obtain ⟨otherOverload, otherListed, otherFound⟩ := List.mem_filterMap.mp inside
    obtain ⟨_, _, isExact⟩ := (candidate?_eq_some natural.length_eq).mp otherFound
    have same := exact_unique unambiguous otherListed listed (isExact.symm.trans otherExact) exact
    rw [same, found] at otherFound
    exact (Option.some.inj otherFound).symm
  · rw [accepted?, accepted]
    exact met

theorem firstOffer?_partial (natural : Natural (args.map (compiler.binder target)) naturals)
    (noExact : ∀ overload ∈ compiler.catalog.lookup method,
      (naturals.map (·.ty) == overload.parameters) = true →
        ∀ expr, ¬ compiler.Offers target method args naturals expected overload expr) :
    compiler.firstOffer? target method args naturals expected =
      (compiler.catalog.lookup method).findSome?
        (compiler.offer? target method args naturals expected) := by
  refine Eq.trans (ranked_partial ?_) (findSome?_filterMap _ _)
  intro candidate inside exact
  obtain ⟨overload, listed, found⟩ := List.mem_filterMap.mp inside
  obtain ⟨_, _, isExact⟩ := (candidate?_eq_some natural.length_eq).mp found
  have refused := (not_offers_iff natural).mp (noExact overload listed (isExact.symm.trans exact))
  rw [offer?, found] at refused
  exact refused

theorem firstOffer?_eq_none (natural : Natural (args.map (compiler.binder target)) naturals) :
    compiler.firstOffer? target method args naturals expected = none ↔
      ∀ overload ∈ compiler.catalog.lookup method, ∀ expr,
        ¬ compiler.Offers target method args naturals expected overload expr := by
  constructor
  · intro missing overload listed
    rw [firstOffer?, List.findSome?_eq_none_iff] at missing
    rw [not_offers_iff natural, offer?]
    cases found : candidate? ((args.map (compiler.binder target)).zip naturals) overload with
    | none => rfl
    | some candidate =>
        exact missing candidate
          (mem_ranked.mpr (List.mem_filterMap.mpr ⟨overload, listed, found⟩))
  · intro noOffer
    rw [firstOffer?_partial natural fun overload listed _ => noOffer overload listed,
      List.findSome?_eq_none_iff]
    intro overload listed
    exact (not_offers_iff natural).mp (noOffer overload listed)

/-- Whatever a catalog went through, the arguments of a call fit at most one overload exactly. If that
one accepts them with a result of the expected type, the call is that result, converted, whatever
other overloads there are. If it does not, the call is the offer of the first overload, in the order
of definition, that has one. Without any offer there is no applicable overload. -/
theorem exact_overload_first (reached : compiler.catalog.Reachable)
    (steady : ∀ name, ∀ overload ∈ compiler.catalog.lookup name, overload.NeverFails)
    (natural : List.Forall₂ (fun arg expr => compiler.build target arg = .ok expr) args naturals)
    (method : String) (expected : Option Ty) :
    ((compiler.catalog.lookup method).filter (naturals.map (·.ty) == ·.parameters)).length ≤ 1 ∧
    (∀ overload ∈ compiler.catalog.lookup method,
      (naturals.map (·.ty) == overload.parameters) = true → ∀ built expr,
        overload.build
          (siteOf compiler.view target method args (args.map (compiler.binder target)) naturals
            naturals) = .ok (some built) →
        meet? built expected = some expr →
          compiler.buildFor target (.call method args) expected = .ok expr) ∧
    ((∀ overload ∈ compiler.catalog.lookup method,
        (naturals.map (·.ty) == overload.parameters) = true → ∀ expr,
          ¬ compiler.Offers target method args naturals expected overload expr) →
      ∀ expr, compiler.buildFor target (.call method args) expected = .ok expr ↔
        ∃ before overload after,
          compiler.catalog.lookup method = before ++ overload :: after ∧
          compiler.Offers target method args naturals expected overload expr ∧
          ∀ earlier ∈ before, ∀ other,
            ¬ compiler.Offers target method args naturals expected earlier other) ∧
    (compiler.buildFor target (.call method args) expected =
        .error (.noApplicableOverload method (naturals.map (·.ty.text))) ↔
      ∀ overload ∈ compiler.catalog.lookup method, ∀ expr,
        ¬ compiler.Offers target method args naturals expected overload expr) := by
  have bound := natural_of_build natural
  have unambiguous := reached.unambiguous_lookup method
  rw [buildFor_call steady bound]
  refine ⟨exact_length_le_one unambiguous _, ?_, ?_, ?_⟩
  · intro overload listed exact built expr accepted met
    rw [firstOffer?_exact unambiguous bound listed exact accepted met]
    rfl
  · intro noExact expr
    rw [Built.get_eq_ok, settle_eq_expr, firstOffer?_partial bound noExact,
      List.findSome?_eq_some_iff]
    simp only [not_offers_iff bound, ← offers_iff bound]
  · rw [← firstOffer?_eq_none bound]
    cases compiler.firstOffer? target method args naturals expected with
    | none => simp [settle, Built.get]
    | some expr => simp [settle, Built.get]

end

def wideFirst : Compiler :=
  ofCatalog (.addAll .empty (Standard.operators (.integer .i64) (.integer .i64) ++
    Standard.operators (.integer .i32) .i32))

theorem wideFirst_neverFails (name : String) :
    ∀ overload ∈ wideFirst.catalog.lookup name, overload.NeverFails := by
  intro overload listed
  refine Standard.neverFails ?_ listed
  intro definition member
  rcases List.mem_append.mp member with wide | narrow
  · exact Standard.operators_form rfl rfl definition wide
  · exact Standard.operators_form rfl rfl definition narrow

def tally : RecordType :=
  ⟨"Tally", none, [⟨"n", .i32, .field, .shown, "Tally"⟩], []⟩

def tallyRow : Expr :=
  .target (.record tally)

def amount : Expr :=
  .member tallyRow (.record tally 0 ⟨"n", .i32, .field, .shown, "Tally"⟩)

theorem amount_built : wideFirst.build tallyRow (.field "n") = .ok amount :=
  rfl

def doubledSite : CallSite :=
  siteOf wideFirst.view tallyRow "+" [.field "n", .field "n"]
    ([.field "n", .field "n"].map (wideFirst.binder tallyRow)) [amount, amount] [amount, amount]

theorem narrow_listed : ∃ overload ∈ wideFirst.catalog.lookup "+",
    ([amount, amount].map (·.ty) == overload.parameters) = true ∧
      ∃ built, overload.build doubledSite = .ok (some built) ∧ (built.ty == .i32) = true := by
  have listed : ((wideFirst.catalog.lookup "+").any fun overload =>
      ([amount, amount].map (·.ty) == overload.parameters) &&
        (overload.build doubledSite).toOption.any (·.any (·.ty == .i32))) = true := by
    decide +kernel
  obtain ⟨overload, member, exact⟩ := List.any_eq_true.mp listed
  obtain ⟨isExact, accepted⟩ := (Bool.and_eq_true _ _).mp exact
  obtain ⟨outcome, found, typed⟩ := (Option.any_eq_true _ _).mp accepted
  obtain ⟨built, rfl, isNarrow⟩ := (Option.any_eq_true _ _).mp typed
  exact ⟨overload, member, isExact, built, Result.eq_ok_of_toOption found, isNarrow⟩

/-- The wide sum is the older one and would do, but the narrow one is exact. -/
theorem exact_overload_first_doubled :
    wideFirst.catalog.Reachable ∧
    List.Forall₂ (fun arg expr => wideFirst.build tallyRow arg = .ok expr)
      [.field "n", .field "n"] [amount, amount] ∧
    ((wideFirst.catalog.lookup "+").map (·.parameters.map (·.text))) =
      [["i64", "i64"], ["i32", "i32"]] ∧
    ∃ expr, wideFirst.buildFor tallyRow (.call "+" [.field "n", .field "n"]) none = .ok expr ∧
      (expr.ty == .i32) = true := by
  have reached : wideFirst.catalog.Reachable := Catalog.Reachable.addAll .empty _
  have natural : List.Forall₂ (fun arg expr => wideFirst.build tallyRow arg = .ok expr)
      [.field "n", .field "n"] [amount, amount] :=
    .cons amount_built (.cons amount_built .nil)
  obtain ⟨overload, listed, exact, built, accepted, typed⟩ := narrow_listed
  obtain ⟨_, wins, _⟩ := exact_overload_first reached wideFirst_neverFails natural "+" none
  exact ⟨reached, natural, by decide +kernel, built,
    wins overload listed exact built built accepted rfl, typed⟩

end Compiler

end RowQuery
