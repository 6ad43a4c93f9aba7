import RowQuery.Proofs.Compiler.Binding
import RowQuery.Proofs.Expr.Soundness
import RowQuery.Proofs.Standard.Library

/-!
What the compiler returns is put together by the checked makers, if its overloads and overrides put
together what they return. The standard library does. Such expressions evaluate to values of their
types or fail for other reasons than the type of a value.
-/

namespace RowQuery

variable {host : Host} {world : Ty → Prop}

inductive Formula.Formed (world : Ty → Prop) : Formula → Prop
  | constant {value} : value.Formed world → Formed world (.constant value)
  | field (path) : Formed world (.field path)
  | call {method args} : (∀ arg ∈ args, Formed world arg) → Formed world (.call method args)

/-- A call as an overload with these parameter types gets to see it: all its expressions are made of
the world, and so are those that an argument is bound to when it is bound again. -/
structure CallSite.Made (host : Host) (world : Ty → Prop) (parameters : List Ty) (site : CallSite) :
    Prop where
  target : site.target.Made host world
  natural : ∀ expr ∈ site.natural, expr.Made host world
  args : ∀ expr ∈ site.args, expr.Made host world
  types : site.args.map (·.ty) = parameters
  rebuild : ∀ rebuild ∈ site.rebuild, ∀ ty expr, world ty → rebuild ty = .ok (.expr expr) →
    expr.Made host world

structure Overload.Makes (host : Host) (world : Ty → Prop) (overload : Overload) : Prop where
  parameters : ∀ ty ∈ overload.parameters, world ty
  build : ∀ site expr, site.Made host world overload.parameters →
    overload.build site = .ok (some expr) → expr.Made host world

def Override.Makes (host : Host) (world : Ty → Prop) (override : Override) : Prop :=
  ∀ owner expr, owner.Made host world → override.replace owner = .ok expr → expr.Made host world

structure Compiler.Makes (host : Host) (world : Ty → Prop) (compiler : Compiler) : Prop where
  overloads : ∀ method, ∀ overload ∈ compiler.catalog.lookup method, overload.Makes host world
  overrides : ∀ entry ∈ compiler.overrides, entry.2.Makes host world

/-! Constants. -/

namespace Value

theorem fitNumeric?_formed {value fitted : Value} {kind : NumericKind}
    (fits : value.fitNumeric? kind = some fitted) : fitted.Formed world := by
  simp only [fitNumeric?, Option.bind_eq_bind, Option.bind_eq_some_iff] at fits
  obtain ⟨number, _, taken⟩ := fits
  split at taken
  · simp at taken
  · have met := ofNumber_meets number kind
    cases computed : ofNumber number kind with
    | error error => simp [computed, Except.toOption] at taken
    | ok result =>
        simp only [computed, Except.toOption, Option.some.injEq] at taken
        rw [computed] at met
        rw [← taken]
        exact (hasType_of_numericKind met).1

theorem fitEnum?_formed {value fitted : Value} {decl : EnumType} (known : world (.enum decl))
    (fits : value.fitEnum? decl = some fitted) : fitted.Formed world := by
  unfold fitEnum? at fits
  split at fits
  · obtain ⟨discriminant, _, rfl⟩ := Option.map_eq_some_iff.mp fits
    exact known
  · split at fits
    · split at fits
      · simp only [Option.some.injEq] at fits
        rw [← fits]
        exact known
      · simp at fits
    · simp at fits

theorem fit?_formed (sound : TypeWorld world) {value fitted : Value} {ty : Ty} (known : world ty)
    (formed : value.Formed world) (fits : value.fit? ty = some fitted) : fitted.Formed world := by
  fun_induction fit? value ty with
  | case1 ty _ =>
      simp only [Option.some.injEq] at fits
      rw [← fits]
      exact formed
  | case2 => simp at fits
  | case3 _ inner _ ih => exact ih ((sound.nullable inner).mp known).1 fits
  | case4 => exact fitNumeric?_formed fits
  | case5 =>
      obtain ⟨t, _, rfl⟩ := Option.map_eq_some_iff.mp fits
      exact trivial
  | case6 =>
      obtain ⟨c, _, rfl⟩ := Option.map_eq_some_iff.mp fits
      exact trivial
  | case7 => exact fitEnum?_formed known fits
  | case8 => simp at fits

end Value

/-! Members. -/

theorem Expr.access_of_memberNamed {owner : Expr} {name path : String} {member : MemberRef}
    (found : owner.ty.memberNamed name path = .ok member) :
    owner.access name = .ok (.member owner member) := by
  unfold Ty.memberNamed at found
  split at found
  · simp at found
  · rename_i only listed
    simp only [Except.ok.injEq] at found
    subst found
    rw [Expr.access, Ty.memberNamed, listed]
    rfl
  · simp at found

namespace Compiler

variable {compiler : Compiler}

theorem override?_mem {member : MemberRef} {isLast : Bool} {override : Override}
    (found : compiler.override? member isLast = some override) :
    ∃ entry ∈ compiler.overrides, entry.2 = override := by
  simp only [override?, Option.bind_eq_bind, Option.bind_eq_some_iff] at found
  obtain ⟨key, _, ⟨name, stored⟩, listed, taken⟩ := found
  split at taken
  · simp only [Option.some.injEq] at taken
    exact ⟨(name, stored), List.mem_of_find?_eq_some listed, taken⟩
  · simp at taken

theorem follow_made (makes : compiler.Makes host world) {path : String} {owner expr : Expr}
    {names : List String} (made : owner.Made host world)
    (reached : compiler.follow path owner names = .ok expr) : expr.Made host world := by
  induction names generalizing owner with
  | nil =>
      simp only [follow, Except.ok.injEq] at reached
      rw [← reached]
      exact made
  | cons name names ih =>
      simp only [follow] at reached
      obtain ⟨member, found, reached⟩ := Result.bind_eq_ok.mp reached
      split at reached
      · rename_i override overridden
        obtain ⟨entry, listed, rfl⟩ := override?_mem overridden
        obtain ⟨next, replaced, reached⟩ := Result.bind_eq_ok.mp reached
        exact ih (makes.overrides entry listed owner next made replaced) reached
      · exact ih (.access made (Expr.access_of_memberNamed found)) reached

theorem resolvePath_made (makes : compiler.Makes host world) {target expr : Expr} {path : String}
    (made : target.Made host world) (resolved : compiler.resolvePath target path = .ok expr) :
    expr.Made host world := by
  simp only [resolvePath] at resolved
  split at resolved
  · simp at resolved
  · exact follow_made makes made resolved

theorem bindConstant_made (sound : TypeWorld world) {value : Value} {expected : Option Ty}
    {expr : Expr} (formed : value.Formed world) (known : ∀ ty, expected = some ty → world ty)
    (bound : bindConstant value expected = .expr expr) : expr.Made host world := by
  unfold bindConstant at bound
  split at bound
  · simp only [Built.expr.injEq] at bound
    rw [← bound]
    exact .literal formed
  · rename_i ty
    split at bound
    · simp at bound
    · rename_i fitted fits
      split at bound
      · rename_i made checked
        simp only [Built.expr.injEq] at bound
        rw [← bound]
        exact .literalAs (Value.fit?_formed sound (known ty rfl) formed fits) (known ty rfl) checked
      · simp at bound

theorem meet?_made {built expr : Expr} {expected : Option Ty}
    (made : built.Made host world) (known : ∀ ty, expected = some ty → world ty)
    (met : meet? built expected = some expr) : expr.Made host world := by
  cases expected with
  | none =>
      simp only [meet?, Option.some.injEq] at met
      rw [← met]
      exact made
  | some ty => exact .convertTo made (known ty rfl) met

theorem bindField_made (makes : compiler.Makes host world) {target expr : Expr} {path : String}
    {expected : Option Ty} (made : target.Made host world)
    (known : ∀ ty, expected = some ty → world ty)
    (bound : compiler.bindField target path expected = .ok (.expr expr)) : expr.Made host world := by
  obtain ⟨resolved, reached, met⟩ := bindField_expr.mp bound
  exact meet?_made (resolvePath_made makes made reached) known met

/-! Calls. What is known of the binders of the arguments carries over to the call that an overload
sees. -/

def Binder.Makes (host : Host) (world : Ty → Prop) (binder : Binder) : Prop :=
  ∀ expected expr, (∀ ty, expected = some ty → world ty) →
    binder.bind expected = .ok (.expr expr) → expr.Made host world

theorem Natural.made {binders : List Binder} {naturals : List Expr}
    (natural : Natural binders naturals) (making : ∀ binder ∈ binders, binder.Makes host world) :
    ∀ expr ∈ naturals, expr.Made host world :=
  natural.all fun binder inside expr bound => making binder inside none expr (by simp) bound

theorem Coerced.made {binders : List Binder} {naturals coerced : List Expr} {parameters : List Ty}
    (fitted : Coerced binders naturals parameters coerced)
    (making : ∀ binder ∈ binders, binder.Makes host world)
    (naturalMade : ∀ expr ∈ naturals, expr.Made host world) (known : ∀ ty ∈ parameters, world ty) :
    ∀ expr ∈ coerced, expr.Made host world := by
  refine fitted.all naturalMade ?_
  intro binder inside parameter listed expr bound
  refine making binder inside (some parameter) expr ?_ bound
  intro ty same
  rw [← Option.some.inj same]
  exact known parameter listed

theorem types_eq (sound : TypeWorld world) {args : List Expr} {parameters : List Ty}
    (types : List.Forall₂ (fun arg parameter => (arg.ty == parameter) = true) args parameters)
    (made : ∀ arg ∈ args, arg.Made host world) (known : ∀ ty ∈ parameters, world ty) :
    args.map (·.ty) = parameters := by
  induction types with
  | nil => rfl
  | @cons arg parameter args parameters equal _ ih =>
      have same := sound.uniqueNames.eq_of_beq ((made arg (by simp)).ty_known sound)
        (known parameter (by simp)) equal
      rw [List.map_cons, same, ih (fun other inside => made other (by simp [inside]))
        (fun ty inside => known ty (by simp [inside]))]

theorem callBinder_makes (sound : TypeWorld world) (makes : compiler.Makes host world) {target : Expr}
    (targetMade : target.Made host world) {method : String} {args : List Formula}
    (making : ∀ arg ∈ args, (compiler.binder target arg).Makes host world) :
    (compiler.callBinder target method args (args.map (compiler.binder target))).Makes host world := by
  have binderMakes (binder : Binder) (member : binder ∈ args.map (compiler.binder target)) :
      binder.Makes host world := by
    obtain ⟨arg, inside, rfl⟩ := List.mem_map.mp member
    exact making arg inside
  intro expected expr known bound
  obtain ⟨naturals, overload, coerced, built, natural, listed, fitted, accepted, met⟩ :=
    callBinder_expr bound
  have overloadMakes := makes.overloads method overload listed
  have naturalMade := natural.made binderMakes
  have coercedMade := fitted.made binderMakes naturalMade overloadMakes.parameters
  refine meet?_made (overloadMakes.build _ built ?_ accepted) known met
  refine ⟨targetMade, naturalMade, coercedMade,
    types_eq sound fitted.types coercedMade overloadMakes.parameters, ?_⟩
  intro rebuild member ty again tyKnown rebound
  obtain ⟨binder, inside, rfl⟩ := List.mem_map.mp member
  refine binderMakes binder inside (some ty) again ?_ rebound
  intro other same
  rw [← Option.some.inj same]
  exact tyKnown

/-- The induction is on the formula: the arguments of a call are bound before an overload is chosen,
and again for each overload that is tried. -/
theorem binder_makes (sound : TypeWorld world) (makes : compiler.Makes host world) {target : Expr}
    (targetMade : target.Made host world) {formula : Formula} (formed : formula.Formed world) :
    (compiler.binder target formula).Makes host world := by
  induction formula with
  | constant value =>
      intro expected expr known bound
      cases formed with
      | constant valueFormed =>
          simp only [binder, Except.ok.injEq] at bound
          exact bindConstant_made sound valueFormed known bound
  | field path =>
      intro expected expr known bound
      simp only [binder] at bound
      exact bindField_made makes targetMade known bound
  | call method args ih =>
      rw [binder, binders_eq_map]
      cases formed with
      | call argsFormed =>
          apply callBinder_makes sound makes targetMade
          intro arg inside
          exact ih arg inside (argsFormed arg inside)

end Compiler

/-! The standard library. -/

theorem TypeWorld.orNull (sound : TypeWorld world) {ty : Ty} (known : world ty) : world ty.orNull := by
  unfold Ty.orNull
  split
  · exact known
  · rename_i present
    simp only [Ty.admitsNull, Bool.or_eq_true, Bool.not_eq_true', not_or, Bool.not_eq_false,
      Bool.not_eq_true] at present
    exact (sound.nullable ty).mpr ⟨known, present.1, present.2⟩

namespace Standard

theorem operand_known (sound : TypeWorld world) {ty : Ty} (operand : isOperand ty = true) :
    world ty := by
  unfold isOperand at operand
  split at operand
  · exact (sound.nullable _).mpr ⟨sound.plain _ rfl, rfl, rfl⟩
  · exact sound.plain _ operand

theorem widened?_known (sound : TypeWorld world) {a b common : Ty} (first : world a)
    (second : world b) (widened : widened? a b = some common) : world common := by
  unfold widened? at widened
  split at widened
  · rw [← Option.some.inj widened]
    exact sound.orNull second
  · rw [← Option.some.inj widened]
    exact sound.orNull first
  · simp at widened

theorem argumentAs?_made {site : CallSite} {parameters : List Ty}
    (made : site.Made host world parameters) {index : Nat} {ty : Ty}
    (known : world ty) {expr : Expr} (bound : site.argumentAs? index ty = .ok (some expr)) :
    expr.Made host world := by
  simp only [CallSite.argumentAs?, CallSite.rebuildAt] at bound
  obtain ⟨built, rebound, taken⟩ := Result.bind_eq_ok.mp bound
  rw [Result.pure_eq_ok, Built.expr?_eq_some] at taken
  subst taken
  split at rebound
  · rename_i rebuild listed
    exact made.rebuild rebuild (List.mem_of_getElem? listed) ty expr known rebound
  · simp at rebound

theorem Branch.made (sound : TypeWorld world) {site : CallSite} {parameters : List Ty}
    (made : site.Made host world parameters) {expr : Expr} (branch : Branch site expr) :
    expr.Made host world := by
  have known {other : Expr} (listed : other ∈ site.natural) : world other.ty :=
    (made.natural other listed).ty_known sound
  cases branch with
  | natural listed => exact made.natural expr listed
  | rebound listed bound => exact argumentAs?_made made (known listed) bound
  | widened first second widening bound =>
      exact argumentAs?_made made (widened?_known sound (known first) (known second) widening) bound

theorem choice_made (sound : TypeWorld world) {site : CallSite} {parameters : List Ty}
    (made : site.Made host world parameters) {expr : Expr}
    (built : choice site = .ok (some expr)) : expr.Made host world := by
  obtain ⟨test, ifTrue, ifFalse, listed, first, second, chosen⟩ := choice_eq_ok built
  exact .choose (made.args test listed) (first.made sound made) (second.made sound made) chosen

theorem containsItem_yields (args : List Value) :
    Result.Yields (Value.HasType world .bool) (containsItem args) := by
  refine .bind fun items => ?_
  split
  · exact .ok (Value.bool_hasType _)
  · exact .error

theorem membership_made (sound : TypeWorld world) {site : CallSite} {parameters : List Ty}
    (made : site.Made host world parameters) {expr : Expr} (built : membership site = .ok (some expr)) :
    expr.Made host world := by
  obtain ⟨sequence, element, item, listed, isSequence, bound, rfl⟩ := membership_eq_ok built
  have sequenceMade := made.natural sequence listed
  have elementKnown : world element := by
    have known := sequenceMade.ty_known sound
    cases typed : sequence.ty <;> simp_all [Ty.element?]
    exact sound.sequence _ known
  refine .call ?_ (sound.plain _ rfl) fun args value _ => containsItem_yields args value
  simp only [List.forall_mem_cons, List.not_mem_nil, false_implies, implies_true, and_true]
  exact ⟨sequenceMade, argumentAs?_made made elementKnown bound⟩

theorem countItems_yields (args : List Value) :
    Result.Yields (Value.HasType world .i32) (countItems args) :=
  .bind fun _ => ofInt_yields _

theorem counting_made (sound : TypeWorld world) {site : CallSite} {parameters : List Ty}
    (made : site.Made host world parameters) {expr : Expr} (built : counting site = .ok (some expr)) :
    expr.Made host world := by
  obtain ⟨sequence, listed, rfl⟩ := counting_eq_ok built
  refine .call ?_ (sound.plain _ rfl) fun args value _ => countItems_yields args value
  simp only [List.forall_mem_cons, List.not_mem_nil, false_implies, implies_true, and_true]
  exact made.natural sequence listed

theorem operator_made {op : BinaryOp} {ty : Ty} {id : Nat} {site : CallSite}
    (made : ∀ arg ∈ site.args, arg.Made host world) {expr : Expr}
    (built : ((Definition.ofOperator op ty).numbered id).build site = .ok (some expr)) :
    expr.Made host world := by
  obtain ⟨left, right, seen, applied⟩ := operator_eq_ok built
  exact .applyBinary (made left (by simp [seen])) (made right (by simp [seen])) applied

theorem unary_made {op : UnaryOp} {ty : Ty} {id : Nat} {site : CallSite}
    (made : ∀ arg ∈ site.args, arg.Made host world) {expr : Expr}
    (built : ((Definition.ofUnary op ty).numbered id).build site = .ok (some expr)) :
    expr.Made host world := by
  obtain ⟨operand, seen, applied⟩ := unary_eq_ok built
  exact .applyUnary (made operand (by simp [seen])) applied

theorem plain_known (sound : TypeWorld world) {types : List Ty}
    (plain : types.all Ty.isPlain = true) : ∀ ty ∈ types, world ty := by
  intro ty member
  exact sound.plain ty (List.all_eq_true.mp plain ty member)

theorem Form.makes (sound : TypeWorld world) {definition : Definition} (form : Form definition)
    (id : Nat) : (definition.numbered id).Makes host world := by
  cases form with
  | operator op operand _ =>
      refine ⟨?_, fun site expr made built => operator_made made.args built⟩
      simp [Definition.numbered, Definition.ofOperator, Definition.ofArgs,
        operand_known sound operand]
  | unary op operand _ =>
      refine ⟨?_, fun site expr made built => unary_made made.args built⟩
      simp [Definition.numbered, Definition.ofUnary, Definition.ofArgs, operand_known sound operand]
  | function _ plain plainResult keeps =>
      refine ⟨plain_known sound plain, ?_⟩
      intro site expr made built
      simp only [Definition.numbered, Definition.ofFunction, Except.ok.injEq, Option.some.injEq]
        at built
      rw [← built]
      refine .call made.args (sound.plain _ plainResult) ?_
      rw [made.types]
      exact keeps host world
  | choice => exact ⟨plain_known sound rfl, fun _ _ made built => choice_made sound made built⟩
  | membership =>
      exact ⟨plain_known sound rfl, fun _ _ made built => membership_made sound made built⟩
  | counting => exact ⟨plain_known sound rfl, fun _ _ made built => counting_made sound made built⟩

theorem compiler_makes (sound : TypeWorld world) (settings : FunctionSettings) :
    (Compiler.ofCatalog (.ofSettings settings)).Makes host world where
  overloads method overload listed := by
    obtain ⟨definition, id, form, _, rfl⟩ := mem_lookup listed
    exact form.makes sound id
  overrides := by simp [Compiler.ofCatalog]

end Standard

/-! Type soundness. -/

/-- In a world of types whose functions and declared conversions keep their types, an expression that
the checked makers put together evaluates to a value of its type, or fails for another reason than
the type of a value or a missing slot, unless host code returned that error. What a compiler returns
is such an expression if its overloads and overrides make such expressions, which those of the
standard library do. -/
theorem evaluation_keeps_types {host : Host} {world : Ty → Prop} (sound : TypeWorld world)
    (keeps : host.KeepsTypes world) :
    (∀ expr row, expr.Made host world → row.Formed world → Expr.Suits row expr →
      (∃ value, expr.evaluate host row = .ok value ∧ value.conforms expr.ty = true) ∨
      ∃ error, expr.evaluate host row = .error error ∧
        (error.isMismatch = false ∨ expr.HostReturned host row error)) ∧
    (∀ (compiler : Compiler) target formula, compiler.Makes host world →
      target.Made host world → formula.Formed world →
      (∀ expr, compiler.build target formula = .ok expr → expr.Made host world) ∧
      ∀ ty expr, world ty → compiler.buildAs target formula ty = .ok expr →
        expr.Made host world) ∧
    ∀ settings, (Compiler.ofCatalog (.ofSettings settings)).Makes host world := by
  refine ⟨?_, ?_, Standard.compiler_makes sound⟩
  · intro expr row made formed suits
    have met := made.evaluates sound keeps formed suits
    unfold Expr.Evaluates at met
    cases evaluated : expr.evaluate host row with
    | ok value =>
        rw [evaluated] at met
        exact Or.inl ⟨value, rfl, met.2⟩
    | error error =>
        rw [evaluated] at met
        exact Or.inr ⟨error, rfl, met⟩
  · intro compiler target formula makes targetMade formed
    have binderMakes := Compiler.binder_makes sound makes targetMade formed
    refine ⟨?_, ?_⟩
    · intro expr built
      exact binderMakes none expr (by simp) (Compiler.build_eq_ok.mp built)
    · intro ty expr known built
      refine binderMakes (some ty) expr ?_ (Compiler.buildAs_eq_ok.mp built)
      intro other same
      rw [← Option.some.inj same]
      exact known

/-! A base and a record that derives from it, declares an inherited member again and has a conversion
of its own. -/

namespace Kennel

def animal : RecordType :=
  ⟨"Animal", none, [⟨"name", .string, .property, .shown, "Animal"⟩,
    ⟨"tag", .any, .property, .shown, "Animal"⟩], []⟩

def dog : RecordType :=
  ⟨"Dog", some animal, [⟨"name", .string, .property, .shown, "Animal"⟩,
    ⟨"tag", .string, .property, .shown, "Dog"⟩, ⟨"age", .nullable .i32, .property, .shown, "Dog"⟩],
    [⟨0, .outgoing .string, true⟩]⟩

inductive World : Ty → Prop
  | plain {ty} : ty.isPlain = true → World ty
  | nullable {ty} : ty.isPlain = true → ty.isValueType = true → World (.nullable ty)
  | animal : World (.record animal)
  | dog : World (.record dog)

theorem animal_declared : animal.Declared :=
  ⟨_, .addMember "tag" .any .property .shown
    (.addMember "name" .string .property .shown (.named "Animal")), rfl⟩

theorem dog_declared : dog.Declared :=
  ⟨_, .addConversion ⟨0, .outgoing .string, true⟩
    (.addMember "age" (.nullable .i32) .property .shown
      (.addMember "tag" .string .property .shown (.extending animal (.named "Dog")))), rfl⟩

theorem world_record {decl : RecordType} (known : World (.record decl)) :
    decl = animal ∨ decl = dog := by
  cases known with
  | plain isPlain => simp [Ty.isPlain] at isPlain
  | animal => exact Or.inl rfl
  | dog => exact Or.inr rfl

theorem world_member {decl : RecordType} (known : World (.record decl)) :
    ∀ member ∈ decl.members, World member.ty := by
  rcases world_record known with rfl | rfl
  · simp only [animal, List.forall_mem_cons, List.not_mem_nil, false_implies, implies_true, and_true]
    exact ⟨.plain rfl, .plain rfl⟩
  · simp only [dog, List.forall_mem_cons, List.not_mem_nil, false_implies, implies_true, and_true]
    exact ⟨.plain rfl, .plain rfl, .nullable rfl rfl⟩

theorem world_sound : TypeWorld World where
  plain _ isPlain := .plain isPlain
  nullable inner := by
    constructor
    · intro known
      cases known with
      | plain isPlain => simp [Ty.isPlain] at isPlain
      | nullable isPlain isValue =>
          exact ⟨.plain isPlain, isValue, by cases inner <;> simp_all [Ty.isPlain, Ty.isNullable]⟩
    · rintro ⟨known, isValue, bare⟩
      cases known with
      | plain isPlain => exact .nullable isPlain isValue
      | nullable _ _ => simp [Ty.isNullable] at bare
      | animal | dog => simp [Ty.isValueType] at isValue
  sequence element known := by
    cases known with
    | plain isPlain => simp [Ty.isPlain] at isPlain
  base decl base known extended := by
    rcases world_record known with rfl | rfl
    · simp [animal] at extended
    · simp only [dog, Option.some.injEq] at extended
      rw [← extended]
      exact .animal
  member decl member known inside := world_member known member inside
  conversion decl conversion known inside := by
    rcases world_record known with rfl | rfl
    · simp [animal] at inside
    · rw [List.mem_singleton.mp inside]
      exact ⟨.dog, .plain rfl⟩
  property shape property known := by
    cases known with
    | plain isPlain => simp [Ty.isPlain] at isPlain
  oneEnum a b known := by
    cases known with
    | plain isPlain => simp [Ty.isPlain] at isPlain
  oneRecord a b first second sameName := by
    rcases world_record first with rfl | rfl <;> rcases world_record second with rfl | rfl <;>
      simp_all [animal, dog]
  oneShape a b known := by
    cases known with
    | plain isPlain => simp [Ty.isPlain] at isPlain
  declared decl known := by
    rcases world_record known with rfl | rfl
    · exact animal_declared
    · exact dog_declared
  redeclared decl base member inherited known extended inside above sameName := by
    rcases world_record known with rfl | rfl
    · simp [animal] at extended
    · simp only [dog, Option.some.injEq] at extended
      subst extended
      simp only [dog, List.mem_cons, List.not_mem_nil, or_false] at inside
      simp only [animal, List.mem_cons, List.not_mem_nil, or_false] at above
      rcases inside with rfl | rfl | rfl <;> rcases above with rfl | rfl <;> simp_all [Ty.assignable]

def keeper : Host where
  convert id _ := if id = 0 then .ok (.string "dog") else .error (.typeError "no such conversion")
  now := .epoch

theorem keeper_keeps : keeper.KeepsTypes World := by
  intro decl conversion known inside value result _ _ returned
  rcases world_record known with rfl | rfl
  · simp [animal] at inside
  · rw [List.mem_singleton.mp inside] at returned ⊢
    have same : Value.string "dog" = result := by simpa [keeper] using returned
    rw [← same]
    exact ⟨trivial, rfl⟩

def rex : Value :=
  .record dog [.string "Rex", .string "dog", .null]

def asText : Expr :=
  .convert (.target (.record dog)) .string (.declared ⟨0, .outgoing .string, true⟩)

def tag : Expr :=
  .member (.convert (.target (.record dog)) (.record animal) .reference)
    (.record animal 1 ⟨"tag", .any, .property, .shown, "Animal"⟩)

def tagged : Expr :=
  .binary .equal (.convert asText .any .reference) tag

theorem tagged_made : tagged.Made keeper World := by
  have row : (Expr.target (.record dog)).Made keeper World := .target .dog
  have viaCode : (Expr.target (.record dog)).convertTo? .string true = some asText := rfl
  have widened : asText.convertTo? .any true = some (.convert asText .any .reference) := rfl
  have asBase : (Expr.target (.record dog)).convertTo? (.record animal) true =
      some (.convert (.target (.record dog)) (.record animal) .reference) := rfl
  have read : Expr.access (.convert (.target (.record dog)) (.record animal) .reference) "tag" =
      .ok tag := rfl
  have text : asText.Made keeper World := .convertTo row (.plain rfl) viaCode
  have compared : Expr.applyBinary .equal (.convert asText .any .reference) tag = .ok tagged := rfl
  exact .applyBinary (.convertTo text (.plain rfl) widened)
    (.access (.convertTo row .animal asBase) read) compared

theorem rex_formed : rex.Formed World :=
  ⟨.dog, rfl, trivial, rfl, trivial, rfl, trivial, trivial⟩

theorem rex_suits : Expr.Suits rex tagged := by
  intro ty inside
  cases inside with
  | inside member deeper =>
      have row : Expr.Within (.target ty) (.target (.record dog)) := by
        rcases List.mem_pair.mp member with rfl | rfl
        · cases deeper with
          | inside member deeper =>
              rw [List.mem_singleton.mp member] at deeper
              cases deeper with
              | inside member deeper => rwa [List.mem_singleton.mp member] at deeper
        · cases deeper with
          | inside member deeper =>
              rw [List.mem_singleton.mp member] at deeper
              cases deeper with
              | inside member deeper => rwa [List.mem_singleton.mp member] at deeper
      cases row with
      | self => rfl
      | inside member _ => simp [Expr.parts] at member

theorem evaluation_keeps_types_rex :
    (∃ value, tagged.evaluate keeper rex = .ok value ∧ value.conforms .bool = true) ∧
      ∀ formula : Formula, formula.Formed World → ∀ expr,
        (Compiler.ofCatalog .standard).build (.target (.record dog)) formula = .ok expr →
        expr.Made keeper World := by
  obtain ⟨evaluates, compiles, standard⟩ := evaluation_keeps_types world_sound keeper_keeps
  refine ⟨?_, ?_⟩
  · rcases evaluates tagged rex tagged_made rex_formed rex_suits with found | ⟨error, failed, _⟩
    · exact found
    · have passed : tagged.evaluate keeper rex = .ok (.bool true) := rfl
      rw [passed] at failed
      simp at failed
  · intro formula formed
    exact (compiles _ _ formula (standard _) (.target .dog) formed).1

end Kennel

end RowQuery
