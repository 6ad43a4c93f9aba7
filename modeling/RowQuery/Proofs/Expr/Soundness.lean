import RowQuery.Proofs.Expr.Typing

/-!
Soundness of evaluation. An expression that was put together by the checked makers evaluates, on a
row of the type of its target, to a value of its own type; if it fails, it does not fail for the type
of a value, unless a function or a conversion of the host does.
-/

namespace RowQuery

/-! Operators. -/

section Operators

variable {world : Ty → Prop}

theorem Value.conforms_operand {value : Value} {ty : Ty} {kind : NumericKind}
    (numeric : ty.underlying.numericKind? = some kind) (fits : value.conforms ty = true) :
    (value = .null ∧ ty.admitsNull = true) ∨
      (value.isNull = false ∧ value.numericKind? = some kind) := by
  cases ty <;> simp only [Ty.underlying, Ty.numericKind?, reduceCtorEq, Option.some.injEq] at numeric
  case numeric =>
    subst numeric
    exact Or.inr ⟨(conforms_primitive rfl fits).1, conforms_numeric fits⟩
  case nullable inner =>
    rcases conforms_nullable fits with absent | ⟨present, inside⟩
    · exact Or.inl ⟨absent, rfl⟩
    · cases inner <;> simp only [reduceCtorEq, Option.some.injEq] at numeric
      subst numeric
      exact Or.inr ⟨present, conforms_numeric inside⟩

theorem Value.number?_of_numericKind {value : Value} {kind : NumericKind}
    (found : value.numericKind? = some kind) : ∃ number, value.number? = some number := by
  cases value <;> simp_all [numericKind?, number?]

theorem Value.hasType_operand {value : Value} {ty : Ty} {kind : NumericKind}
    (numeric : ty.underlying.numericKind? = some kind) (found : value.numericKind? = some kind) :
    value.HasType world ty := by
  have typed : value.HasType world (.numeric kind) := hasType_of_numericKind found
  cases ty <;> simp only [Ty.underlying, Ty.numericKind?, reduceCtorEq, Option.some.injEq] at numeric
  case numeric =>
    subst numeric
    exact typed
  case nullable inner =>
    cases inner <;> simp only [reduceCtorEq, Option.some.injEq] at numeric
    subst numeric
    exact Conversion.HasType.orNull typed rfl rfl

theorem Value.null_hasType {ty : Ty} (admits : ty.admitsNull = true) :
    Value.null.HasType world ty :=
  ⟨trivial, by rw [null_conforms, admits]⟩

theorem Value.numberResult_meets {op : BinaryOp} {excess : Error}
    (allowed : excess.isMismatch = false) (a b : Number) :
    Result.Meets (fun _ => True) (fun error => error.isMismatch = false)
      (numberResult op excess a b) := by
  unfold numberResult
  split
  · split
    · rfl
    · split
      · trivial
      · exact allowed
  · split
    · rfl
    · split
      · trivial
      · exact allowed
  · split
    · trivial
    · exact allowed

theorem Value.arithmetic_meets {op : BinaryOp} {ty : Ty} {kind : NumericKind}
    (numeric : ty.underlying.numericKind? = some kind) {left right : Value}
    (leftTyped : left.HasType world ty) (rightTyped : right.HasType world ty) :
    Result.Meets (Value.HasType world ty) (fun error => error.isMismatch = false)
      (arithmetic op left right) := by
  unfold arithmetic
  rcases conforms_operand numeric leftTyped.2 with ⟨rfl, admits⟩ | ⟨leftPresent, leftKind⟩
  · exact null_hasType admits
  rcases conforms_operand numeric rightTyped.2 with ⟨rfl, admits⟩ | ⟨rightPresent, rightKind⟩
  · rw [show (left.isNull || isNull null) = true by simp [isNull]]
    exact null_hasType admits
  obtain ⟨a, leftNumber⟩ := number?_of_numericKind leftKind
  obtain ⟨b, rightNumber⟩ := number?_of_numericKind rightKind
  simp only [leftPresent, rightPresent, Bool.or_self, Bool.false_eq_true, ↓reduceIte, operandKind,
    leftKind, operandNumber, leftNumber, rightNumber, Result.ok_bind]
  refine Result.Meets.bind (numberResult_meets rfl a b) ?_
  intro number _
  exact Result.Meets.mono (ofNumber_meets number kind)
    (fun _ found => hasType_operand numeric found) (fun _ other => other)

theorem Value.applyUnary_meets {op : UnaryOp} {ty : Ty} (defined : Expr.unaryDefined op ty = true)
    {operand : Value} (typed : operand.HasType world ty) :
    Result.Meets (Value.HasType world ty) (fun error => error.isMismatch = false)
      (applyUnary op operand) := by
  cases op with
  | not =>
      have isBool := Ty.eq_of_beq_plain rfl defined
      subst isBool
      obtain ⟨b, rfl⟩ := conforms_bool typed.2
      exact ⟨trivial, rfl⟩
  | negate =>
      simp only [Expr.unaryDefined, Option.any_eq_true] at defined
      obtain ⟨kind, numeric, _⟩ := defined
      simp only [applyUnary]
      rcases conforms_operand numeric typed.2 with ⟨rfl, admits⟩ | ⟨present, kindFound⟩
      · exact null_hasType admits
      obtain ⟨number, found⟩ := number?_of_numericKind kindFound
      simp only [present, Bool.false_eq_true, ↓reduceIte, operandKind, kindFound, operandNumber,
        found]
      exact Result.Meets.mono (ofNumber_meets _ kind)
        (fun _ reached => hasType_operand numeric reached) (fun _ other => other)

theorem Value.applyBinary_meets {op : BinaryOp} {ty : Ty} (defined : Expr.binaryDefined op ty = true)
    {left right : Value} (leftTyped : left.HasType world ty) (rightTyped : right.HasType world ty) :
    Result.Meets (Value.HasType world (if op.isArithmetic then ty else .bool))
      (fun error => error.isMismatch = false) (applyBinary op left right) := by
  cases op
  case add | subtract | multiply | divide | modulo =>
    obtain ⟨kind, numeric⟩ := Option.isSome_iff_exists.mp defined
    exact arithmetic_meets numeric leftTyped rightTyped
  case and | or | xor =>
    have isBool := Ty.eq_of_beq_plain rfl defined
    subst isBool
    obtain ⟨a, rfl⟩ := conforms_bool leftTyped.2
    obtain ⟨b, rfl⟩ := conforms_bool rightTyped.2
    cases a <;> exact bool_hasType _
  all_goals exact bool_hasType _

end Operators

/-! Trees and their parts. -/

namespace Expr

def parts : Expr → List Expr
  | target _ | constant .. => []
  | member owner _ => [owner]
  | convert operand _ _ => [operand]
  | unary _ operand => [operand]
  | binary _ left right => [left, right]
  | conditional test ifTrue ifFalse => [test, ifTrue, ifFalse]
  | call _ args _ => args
  | construct _ bindings => bindings.map (·.2)

inductive Within (sub : Expr) : Expr → Prop
  | self : Within sub sub
  | inside {part expr} : part ∈ expr.parts → Within sub part → Within sub expr

/-- Host code of the expression returned the error: a function for the values of its arguments, or a
declared conversion for the value of its operand. -/
def HostReturned (host : Host) (row : Value) (expr : Expr) (error : Error) : Prop :=
  (∃ function args ty values, Within (.call function args ty) expr ∧
    evaluateAll host row args = .ok values ∧ function.invoke host values = .error error) ∨
  ∃ operand ty conversion declared value, Within (.convert operand ty conversion) expr ∧
    evaluate host row operand = .ok value ∧ conversion.hosted? = some declared ∧
    host.convert declared.id value = .error error

def MayFail (host : Host) (row : Value) (expr : Expr) (error : Error) : Prop :=
  error.isMismatch = false ∨ expr.HostReturned host row error

theorem MayFail.above {host : Host} {row : Value} {part expr : Expr} {error : Error}
    (below : part ∈ expr.parts) (fails : part.MayFail host row error) :
    expr.MayFail host row error := by
  rcases fails with other | ⟨function, args, ty, values, inside, returned⟩ |
    ⟨operand, ty, conversion, declared, value, inside, returned⟩
  · exact Or.inl other
  · exact Or.inr (Or.inl ⟨function, args, ty, values, .inside below inside, returned⟩)
  · exact Or.inr (Or.inr ⟨operand, ty, conversion, declared, value, .inside below inside, returned⟩)

/-- Expressions put together by the checked makers from types and constants of the world, and from
functions that keep their types. -/
inductive Made (host : Host) (world : Ty → Prop) : Expr → Prop
  | target {ty} : world ty → Made host world (.target ty)
  | literal {value} : value.Formed world → Made host world (.literal value)
  | literalAs {value ty expr} : value.Formed world → world ty → literalAs value ty = .ok expr →
      Made host world expr
  | access {owner name expr} : Made host world owner → owner.access name = .ok expr →
      Made host world expr
  | convertTo {operand ty implicitOnly expr} : Made host world operand → world ty →
      operand.convertTo? ty implicitOnly = some expr → Made host world expr
  | applyUnary {op operand expr} : Made host world operand → applyUnary op operand = .ok expr →
      Made host world expr
  | applyBinary {op left right expr} : Made host world left → Made host world right →
      applyBinary op left right = .ok expr → Made host world expr
  | choose {test ifTrue ifFalse expr} : Made host world test → Made host world ifTrue →
      Made host world ifFalse → choose test ifTrue ifFalse = .ok expr → Made host world expr
  | call {function args ty} : (∀ arg ∈ args, Made host world arg) → world ty →
      KeepsTypes world (args.map Expr.ty) ty (function.invoke host) →
      Made host world (.call function args ty)
  | fill {shape bindings expr} : (∀ binding ∈ bindings, Made host world binding.2) →
      world (.shape shape) → fill shape bindings = .ok expr → Made host world expr

variable {host : Host} {world : Ty → Prop} {row : Value}

theorem access_eq_ok {owner expr : Expr} {name : String} (made : owner.access name = .ok expr) :
    ∃ found, found.Of owner.ty ∧ expr = .member owner found := by
  unfold access at made
  cases named : owner.ty.memberNamed name name with
  | error fault => simp [named, Except.map] at made
  | ok found =>
      simp only [named, Except.map, Except.ok.injEq] at made
      exact ⟨found, Ty.memberNamed_of named, made.symm⟩

theorem Made.ty_known (sound : TypeWorld world) {expr : Expr} (made : expr.Made host world) :
    world expr.ty := by
  induction made with
  | target known => exact known
  | literal formed => exact formed.typeOf sound
  | literalAs _ known checked =>
      obtain ⟨_, rfl⟩ := literalAs_eq_ok checked
      exact known
  | access _ checked ih =>
      obtain ⟨found, belongs, rfl⟩ := access_eq_ok checked
      exact belongs.ty_known sound ih
  | convertTo _ known checked ih =>
      rcases convertTo?_eq_some checked with ⟨_, rfl⟩ | ⟨conversion, _, rfl⟩
      · exact ih
      · exact known
  | applyUnary _ checked ih =>
      obtain ⟨_, rfl⟩ := applyUnary_eq_ok checked
      exact ih
  | @applyBinary op _ _ _ _ _ checked ih _ =>
      obtain ⟨_, _, rfl⟩ := applyBinary_eq_ok checked
      simp only [ty]
      split
      · exact ih
      · exact sound.plain _ rfl
  | choose _ _ _ checked _ ih _ =>
      obtain ⟨_, _, rfl⟩ := choose_eq_ok checked
      exact ih
  | call _ known _ => exact known
  | fill _ known checked =>
      obtain ⟨_, rfl⟩ := fill_eq_ok checked
      exact known

def Suits (row : Value) (expr : Expr) : Prop :=
  ∀ ty, Within (.target ty) expr → row.conforms ty = true

theorem Suits.part {part expr : Expr} (suits : Suits row expr) (below : part ∈ expr.parts) :
    Suits row part := by
  intro ty inside
  exact suits ty (.inside below inside)

def Evaluates (host : Host) (world : Ty → Prop) (row : Value) (expr : Expr) : Prop :=
  Result.Meets (Value.HasType world expr.ty) (expr.MayFail host row) (evaluate host row expr)

theorem Evaluates.above {part expr : Expr} (met : Evaluates host world row part)
    (below : part ∈ expr.parts) :
    Result.Meets (Value.HasType world part.ty) (expr.MayFail host row) (evaluate host row part) :=
  Result.Meets.mono met (fun _ typed => typed) (fun _ fails => fails.above below)

theorem evaluate_unary {op : UnaryOp} {operand : Expr} (defined : unaryDefined op operand.ty = true)
    (met : Evaluates host world row operand) : Evaluates host world row (.unary op operand) := by
  unfold Evaluates
  rw [evaluate]
  refine Result.Meets.bind (met.above (by simp [parts])) ?_
  intro value typed
  exact Result.Meets.mono (Value.applyUnary_meets defined typed) (fun _ reached => reached)
    (fun _ other => Or.inl other)

theorem truth_meets {part expr : Expr} (isBool : part.ty = .bool)
    (met : Evaluates host world row part) (below : part ∈ expr.parts) (place : String) :
    Result.Meets (fun _ => True) (expr.MayFail host row)
      (do (← evaluate host row part).truth place) := by
  refine Result.Meets.bind (met.above below) ?_
  intro value typed
  rw [isBool] at typed
  obtain ⟨b, rfl⟩ := Value.conforms_bool typed.2
  trivial

theorem evaluate_binary {op : BinaryOp} {left right : Expr} (shared : right.ty = left.ty)
    (defined : binaryDefined op left.ty = true) (leftMet : Evaluates host world row left)
    (rightMet : Evaluates host world row right) :
    Evaluates host world row (.binary op left right) := by
  have leftBelow : left ∈ (binary op left right).parts := by simp [parts]
  have rightBelow : right ∈ (binary op left right).parts := by simp [parts]
  unfold Evaluates
  by_cases lazy : op = .and ∨ op = .or
  · have isBool : left.ty = .bool := by
      rcases lazy with rfl | rfl <;> exact Ty.eq_of_beq_plain rfl defined
    have leftTruth := truth_meets isBool leftMet leftBelow
    have rightTruth := truth_meets (shared.trans isBool) rightMet rightBelow
    rcases lazy with rfl | rfl
    · rw [evaluate]
      simp only [← bind_assoc]
      refine Result.Meets.bind (leftTruth _) ?_
      intro b _
      cases b
      · exact Value.bool_hasType false
      · refine Result.Meets.bind (rightTruth _) ?_
        intro c _
        exact Value.bool_hasType c
    · rw [evaluate]
      simp only [← bind_assoc]
      refine Result.Meets.bind (leftTruth _) ?_
      intro b _
      cases b
      · refine Result.Meets.bind (rightTruth _) ?_
        intro c _
        exact Value.bool_hasType c
      · exact Value.bool_hasType true
  · simp only [not_or] at lazy
    rw [evaluate]
    · refine Result.Meets.bind (leftMet.above leftBelow) ?_
      intro a leftTyped
      refine Result.Meets.bind (rightMet.above rightBelow) ?_
      intro b rightTyped
      rw [shared] at rightTyped
      exact Result.Meets.mono (Value.applyBinary_meets defined leftTyped rightTyped)
        (fun _ reached => reached) (fun _ other => Or.inl other)
    · exact lazy.1
    · exact lazy.2

theorem evaluate_conditional {test ifTrue ifFalse : Expr} (isBool : test.ty = .bool)
    (shared : ifFalse.ty = ifTrue.ty) (testMet : Evaluates host world row test)
    (trueMet : Evaluates host world row ifTrue) (falseMet : Evaluates host world row ifFalse) :
    Evaluates host world row (.conditional test ifTrue ifFalse) := by
  unfold Evaluates
  rw [evaluate]
  simp only [← bind_assoc]
  refine Result.Meets.bind (truth_meets isBool testMet (by simp [parts]) _) ?_
  intro b _
  cases b
  · have below : ifFalse ∈ (conditional test ifTrue ifFalse).parts := by simp [parts]
    have met := falseMet.above below
    rw [shared] at met
    exact met
  · exact trueMet.above (by simp [parts])

theorem evaluateAll_meets {args : List Expr} {fault : Error → Prop}
    (met : ∀ arg ∈ args, Result.Meets (Value.HasType world arg.ty) fault (evaluate host row arg)) :
    Result.Meets (Filled world (args.map Expr.ty)) fault (evaluateAll host row args) := by
  induction args with
  | nil => exact trivial
  | cons arg rest ih =>
      rw [evaluateAll]
      refine Result.Meets.bind (met arg (by simp)) ?_
      intro value typed
      refine Result.Meets.bind (ih fun other member => met other (by simp [member])) ?_
      intro values filled
      exact ⟨typed.2, typed.1, filled⟩

theorem bindSlots_meets (sound : TypeWorld world) {shape : Shape} (known : world (.shape shape))
    {bindings : List (Nat × Expr)} {fault : Error → Prop}
    (made : ∀ binding ∈ bindings, world binding.2.ty)
    (fitting : ∀ binding ∈ bindings, ∃ property, shape.properties[binding.1]? = some property ∧
      binding.2.ty.assignable property.ty = true)
    (met : ∀ binding ∈ bindings,
      Result.Meets (Value.HasType world binding.2.ty) fault (evaluate host row binding.2))
    {built : ShapeValue} (sameShape : built.shape = shape) (formed : built.toValue.Formed world) :
    Result.Meets (fun filled => filled.shape = shape ∧ filled.toValue.Formed world) fault
      (bindSlots host row bindings built) := by
  induction bindings generalizing built with
  | nil => exact ⟨sameShape, formed⟩
  | cons binding rest ih =>
      obtain ⟨slot, expr⟩ := binding
      obtain ⟨property, found, assigned⟩ := fitting (slot, expr) (by simp)
      have propertyKnown := sound.property shape property known (List.mem_of_getElem? found)
      rw [bindSlots]
      refine Result.Meets.bind (met (slot, expr) (by simp)) ?_
      intro value typed
      have fits := typed.1.conforms_trans sound (made (slot, expr) (by simp)) propertyKnown typed.2
        assigned
      obtain ⟨changed, stored, kept, changedFormed⟩ :=
        ShapeValue.setSlot_formed formed (by rw [sameShape]; exact found) fits typed.1
      rw [stored, Result.ok_bind]
      exact ih (fun other member => made other (by simp [member]))
        (fun other member => fitting other (by simp [member]))
        (fun other member => met other (by simp [member])) (kept.trans sameShape) changedFormed

theorem Made.evaluates (sound : TypeWorld world) (keeps : host.KeepsTypes world)
    (rowFormed : row.Formed world) {expr : Expr} (made : expr.Made host world)
    (suits : Suits row expr) : Evaluates host world row expr := by
  induction made with
  | target known => exact ⟨rowFormed, suits _ .self⟩
  | literal formed => exact ⟨formed, Value.conforms_typeOf _⟩
  | literalAs formed _ checked =>
      obtain ⟨fits, rfl⟩ := literalAs_eq_ok checked
      exact ⟨formed, fits⟩
  | access ownerMade checked ih =>
      obtain ⟨found, belongs, rfl⟩ := access_eq_ok checked
      have met := ih (suits.part (by simp [parts]))
      unfold Evaluates
      rw [evaluate]
      refine Result.Meets.bind (met.above (by simp [parts])) ?_
      intro value typed
      exact Result.Meets.mono
        (MemberRef.read_meets sound belongs (ownerMade.ty_known sound) typed)
        (fun _ reached => reached) (fun _ other => Or.inl other)
  | @convertTo operand ty implicitOnly _ operandMade known checked ih =>
      rcases convertTo?_eq_some checked with ⟨_, rfl⟩ | ⟨conversion, planned, rfl⟩
      · exact ih suits
      · have met := ih (suits.part (by simp [parts]))
        unfold Evaluates
        rw [evaluate]
        refine Result.Meets.bind (met.above (by simp [parts])).reached ?_
        rintro value ⟨evaluated, typed⟩
        refine Result.Meets.mono
          (Conversion.plan_meets sound keeps (operandMade.ty_known sound) known planned typed)
          (fun _ reached => reached) ?_
        rintro error (other | ⟨declared, hosted, returned⟩)
        · exact Or.inl other
        · exact Or.inr (Or.inr
            ⟨operand, ty, conversion, declared, value, .self, evaluated, hosted, returned⟩)
  | applyUnary _ checked ih =>
      obtain ⟨defined, rfl⟩ := applyUnary_eq_ok checked
      exact evaluate_unary defined (ih (suits.part (by simp [parts])))
  | applyBinary leftMade rightMade checked leftIh rightIh =>
      obtain ⟨equal, defined, rfl⟩ := applyBinary_eq_ok checked
      have shared := sound.uniqueNames.eq_of_beq (leftMade.ty_known sound)
        (rightMade.ty_known sound) equal
      exact evaluate_binary shared.symm defined (leftIh (suits.part (by simp [parts])))
        (rightIh (suits.part (by simp [parts])))
  | choose _ trueMade falseMade checked testIh trueIh falseIh =>
      obtain ⟨isBool, equal, rfl⟩ := choose_eq_ok checked
      have shared := sound.uniqueNames.eq_of_beq (trueMade.ty_known sound)
        (falseMade.ty_known sound) equal
      exact evaluate_conditional isBool shared.symm (testIh (suits.part (by simp [parts])))
        (trueIh (suits.part (by simp [parts]))) (falseIh (suits.part (by simp [parts])))
  | @call function args ty _ known keepsTypes ih =>
      unfold Evaluates
      rw [evaluate]
      have below (arg : Expr) (member : arg ∈ args) : arg ∈ (Expr.call function args ty).parts := member
      have met := evaluateAll_meets fun arg member =>
        (ih arg member (suits.part member)).above (below arg member)
      refine Result.Meets.bind met.reached ?_
      rintro values ⟨evaluated, filled⟩
      cases returned : function.invoke host values with
      | ok value => exact keepsTypes values value filled returned
      | error error =>
          exact Or.inr (Or.inl ⟨function, args, ty, values, .self, evaluated, returned⟩)
  | @fill shape bindings _ bindingsMade known checked ih =>
      obtain ⟨fitting, rfl⟩ := fill_eq_ok checked
      have below (binding : Nat × Expr) (member : binding ∈ bindings) :
          binding.2 ∈ (construct shape bindings).parts := List.mem_map.mpr ⟨binding, member, rfl⟩
      unfold Evaluates
      rw [evaluate]
      refine Result.Meets.bind (bindSlots_meets sound known
        (fun binding member => (bindingsMade binding member).ty_known sound) fitting
        (fun binding member => (ih binding member (suits.part (below binding member))).above
          (below binding member)) rfl (ShapeValue.new_formed sound known)) ?_
      rintro filled ⟨sameShape, formed⟩
      refine ⟨formed, ?_⟩
      rw [← sameShape]
      exact Value.conforms_typeOf filled.toValue

end Expr

end RowQuery
