import RowQuery.Proofs.Compiler.Extension

/-!
Why a formula cannot be bound. If no overload fails and no member is overridden, the reason is always
one that the author of the formula can be told.
-/

namespace RowQuery

/-- The reasons for which a query can be refused before it is applied. -/
inductive Error.Refusal : Error → Prop
  | memberNotFound (ty member path : String) : Refusal (.memberNotFound ty member path)
  | ambiguousMember (ty member : String) (count : Nat) : Refusal (.ambiguousMember ty member count)
  | malformedExpression (detail : String) : Refusal (.malformedExpression detail)
  | noApplicableOverload (method : String) (types : List String) :
      Refusal (.noApplicableOverload method types)
  | incompatibleType (expression expected found : String) :
      Refusal (.incompatibleType expression expected found)
  | invalidProjection (detail : String) : Refusal (.invalidProjection detail)

theorem Error.Refusal.category {fault : Error} (refusal : fault.Refusal) :
    fault.category = .badQuery := by
  cases refusal <;> rfl

theorem Ty.memberNamed_refuses (ty : Ty) (name path : String) :
    (ty.memberNamed name path).Meets (fun _ => True) Error.Refusal := by
  rw [Ty.memberNamed]
  split
  · exact .memberNotFound _ _ _
  · trivial
  · exact .ambiguousMember _ _ _

namespace Compiler

variable {compiler : Compiler} {target : Expr}

theorem override?_eq_none (plain : compiler.overrides = []) (member : MemberRef) (isLast : Bool) :
    compiler.override? member isLast = none := by
  rw [override?, plain]
  cases member.key? <;> rfl

theorem follow_refuses (plain : compiler.overrides = []) (path : String) (owner : Expr)
    (names : List String) :
    (compiler.follow path owner names).Meets (fun _ => True) Error.Refusal := by
  induction names generalizing owner with
  | nil => trivial
  | cons name names ih =>
      rw [follow]
      refine (owner.ty.memberNamed_refuses name path).bind ?_
      intro member _
      rw [override?_eq_none plain]
      exact ih (.member owner member)

theorem resolvePath_refuses (plain : compiler.overrides = []) (target : Expr) (path : String) :
    (compiler.resolvePath target path).Meets (fun _ => True) Error.Refusal := by
  rw [resolvePath]
  split
  · exact .malformedExpression _
  · exact follow_refuses plain path target _

theorem buildFor_eq_bind (compiler : Compiler) (target : Expr) (formula : Formula)
    (expected : Option Ty) :
    compiler.buildFor target formula expected =
      ((compiler.binder target formula).bind expected >>= Built.get) := by
  cases expected <;> rfl

theorem buildFor_field_refuses (plain : compiler.overrides = []) (target : Expr) (path : String)
    (expected : Option Ty) :
    (compiler.buildFor target (.field path) expected).Meets (fun _ => True) Error.Refusal := by
  have bound : (compiler.bindField target path expected).Meets
      (fun built => built.get.Meets (fun _ => True) Error.Refusal) Error.Refusal := by
    refine (resolvePath_refuses plain target path).bind ?_
    intro resolved _
    cases expected with
    | none => trivial
    | some ty =>
        simp only
        split
        · trivial
        · exact .incompatibleType _ _ _
  rw [buildFor_eq_bind, binder]
  exact bound.bind fun _ refuses => refuses

/-- A constant that is not a truth value is refused where one is expected. -/
theorem buildFor_constant_refuses (compiler : Compiler) (target : Expr) (value : Value)
    {expected : Option Ty} (asked : expected = none ∨ expected = some .bool) :
    (compiler.buildFor target (.constant value) expected).Meets (fun _ => True) Error.Refusal := by
  rw [buildFor_eq_bind, binder, Result.ok_bind]
  rcases asked with rfl | rfl
  · trivial
  · by_cases fits : value.conforms .bool = true
    · have kept : value.fit? .bool = some value := by rw [Value.fit?.eq_def, if_pos fits]
      simp only [bindConstant, kept, Expr.literalAs, fits, if_true]
      trivial
    · have unfit : value.fit? .bool = none := by
        rw [Value.fit?.eq_def, if_neg fits]
        split <;> rfl
      simp only [bindConstant, unfit]
      exact .incompatibleType _ _ _

/-! ### Calls -/

theorem bindNatural_refuses {args : List Formula}
    (refuses : ∀ arg ∈ args, (compiler.buildFor target arg none).Meets (fun _ => True) Error.Refusal) :
    (bindNatural (args.map (compiler.binder target))).Meets (fun _ => True) Error.Refusal := by
  induction args with
  | nil => trivial
  | cons arg args ih =>
      have first := refuses arg List.mem_cons_self
      have rest := ih fun other inside => refuses other (List.mem_cons_of_mem _ inside)
      rw [buildFor_eq_bind] at first
      rw [List.map_cons, bindNatural]
      cases bound : (compiler.binder target arg).bind none with
      | error fault =>
          rw [bound] at first
          exact first
      | ok built =>
          rw [bound, Result.ok_bind] at first
          exact first.bind fun _ _ => rest.bind fun _ _ => trivial

/-- If no overload fails, a call is refused because one of its arguments is, or because no overload
has an offer for it. -/
theorem buildFor_call_eq
    (steady : ∀ name, ∀ overload ∈ compiler.catalog.lookup name, overload.NeverFails)
    (target : Expr) (method : String) (args : List Formula) (expected : Option Ty) :
    compiler.buildFor target (.call method args) expected =
      (bindNatural (args.map (compiler.binder target)) >>= fun naturals =>
        (settle method naturals (compiler.firstOffer? target method args naturals expected)).get) := by
  cases natural : bindNatural (args.map (compiler.binder target)) with
  | error fault =>
      rw [buildFor_eq_bind, binder, binders_eq_map]
      simp only [callBinder, resolve, natural]
      rfl
  | ok naturals =>
      rw [Result.ok_bind]
      exact buildFor_call steady (natural_of_bindNatural natural) method expected

/-- A formula that cannot be bound, of itself or as a truth value, is refused. -/
theorem buildFor_refuses (plain : compiler.overrides = [])
    (steady : ∀ name, ∀ overload ∈ compiler.catalog.lookup name, overload.NeverFails)
    (target : Expr) (formula : Formula) {expected : Option Ty}
    (asked : expected = none ∨ expected = some .bool) :
    (compiler.buildFor target formula expected).Meets (fun _ => True) Error.Refusal := by
  induction formula generalizing expected with
  | constant value => exact buildFor_constant_refuses compiler target value asked
  | field path => exact buildFor_field_refuses plain target path expected
  | call method args ih =>
      rw [buildFor_call_eq steady]
      refine (bindNatural_refuses fun arg inside => ih arg inside (.inl rfl)).bind ?_
      intro naturals _
      cases compiler.firstOffer? target method args naturals expected with
      | none => exact .noApplicableOverload _ _
      | some expr => trivial

/-! ### What overloads get to see -/

def Tries (compiler : Compiler) (target : Expr) (overload : Overload) (site : CallSite) : Prop :=
  ∃ method args naturals coerced, overload ∈ compiler.catalog.lookup method ∧
    Natural (args.map (compiler.binder target)) naturals ∧
    Coerced (args.map (compiler.binder target)) naturals overload.parameters coerced ∧
    site = siteOf compiler.view target method args (args.map (compiler.binder target)) naturals coerced

theorem Tries.fits (steady : ∀ name, ∀ overload ∈ compiler.catalog.lookup name, overload.NeverFails)
    {overload : Overload} {site : CallSite} (tries : compiler.Tries target overload site) :
    site.Fits overload.parameters := by
  obtain ⟨method, args, naturals, coerced, _, natural, made, rfl⟩ := tries
  exact siteOf_fits_of_steady steady natural made compiler.view method

end Compiler

/-- Whether arguments of several types fit the parameter as they are. -/
def Ty.isOpen : Ty → Bool
  | .any | .enumerable => true
  | _ => false

/-- An overload of the library that has no open parameter accepts every call that fits it: none of
the arguments that it looks for is missing. -/
theorem Standard.Form.accepts {definition : Definition} (form : Form definition) {id : Nat}
    {site : CallSite} (fits : site.Fits definition.parameters)
    (closed : definition.parameters.any Ty.isOpen = false) :
    ∃ expr, (definition.numbered id).build site = .ok (some expr) := by
  cases form with
  | operator op operand defined =>
      obtain ⟨left, right, _, _, _, built⟩ := operator_accepts operand defined fits id
      exact ⟨_, built⟩
  | unary op operand defined =>
      obtain ⟨arg, _, _, built⟩ := unary_accepts operand defined fits id
      exact ⟨_, built⟩
  | function _ _ _ _ => exact ⟨_, rfl⟩
  | choice => simp [Definition.ofSite, Ty.isOpen] at closed
  | membership => simp [Definition.ofSite, Ty.isOpen] at closed
  | counting => simp [Definition.ofSite, Ty.isOpen] at closed

end RowQuery
