import RowQuery.Proofs.Conversion.Typing
import RowQuery.Proofs.Overload.Catalog
import RowQuery.Standard.Library

/-!
The forms of the definitions of the standard library. A property of the whole library is proved form
by form. The functions of the library return values of their result types.
-/

namespace RowQuery

namespace Standard

open Result

variable {world : Ty → Prop}

def isOperand : Ty → Bool
  | .nullable (.numeric _) => true
  | ty => ty.isPlain

def isFunctionName (method : String) : Bool :=
  !(["+", "-", "*", "/", "%", "==", "!=", "<", "<=", ">", ">=", "and", "or", "xor"].contains
    (Catalog.key method))

/-- The forms of the definitions of the library. Its functions return values of their result types. -/
inductive Form : Definition → Prop
  | operator (op : BinaryOp) {ty : Ty} : isOperand ty = true → Expr.binaryDefined op ty = true →
      Form (.ofOperator op ty)
  | unary (op : UnaryOp) {ty : Ty} : isOperand ty = true → Expr.unaryDefined op ty = true →
      Form (.ofUnary op ty)
  | function {method : String} {parameters : List Ty} {result : Ty}
      {invoke : Host → List Value → Result Value} : isFunctionName method = true →
      parameters.all Ty.isPlain = true → result.isPlain = true →
      (∀ host world, KeepsTypes world parameters result (invoke host)) →
      Form (.ofFunction method parameters result invoke)
  | choice : Form (.ofSite "if" [.bool, .any, .any] choice)
  | membership : Form (.ofSite "contains" [.enumerable, .any] membership)
  | counting : Form (.ofSite "count" [.enumerable] counting)

/-- A function whose result has the type whatever the arguments are. -/
theorem Form.constant {method : String} {parameters : List Ty} {result : Ty}
    {invoke : Host → List Value → Result Value} (named : isFunctionName method = true)
    (plain : parameters.all Ty.isPlain = true) (plainResult : result.isPlain = true)
    (yields : ∀ host world args, Yields (Value.HasType world result) (invoke host args)) :
    Form (.ofFunction method parameters result invoke) :=
  .function named plain plainResult fun host world args value _ => yields host world args value

theorem operators_form {kind : NumericKind} {operand : Ty} (plain : isOperand operand = true)
    (numeric : operand.underlying = .numeric kind) :
    ∀ definition ∈ operators kind operand, Form definition := by
  intro definition member
  rcases List.mem_append.mp member with binary | unary
  · obtain ⟨op, listed, rfl⟩ := List.mem_map.mp binary
    refine .operator op plain ?_
    cases op <;> simp_all [numericOperators, Expr.binaryDefined, BinaryOp.isArithmetic,
      BinaryOp.isOrdering, BinaryOp.isLogical, Ty.numericKind?, Expr.isOrdered]
  · split at unary
    · simp at unary
    · rename_i signed
      rw [List.mem_singleton.mp unary]
      refine .unary .negate plain ?_
      simpa [Expr.unaryDefined, numeric, Ty.numericKind?] using signed

/-! Functions on numbers. -/

theorem ofInt_yields (n : Int) : Yields (Value.HasType world .i32) (Value.ofInt n .i32) := by
  intro value computed
  exact Value.hasType_of_numericKind ((Value.ofInt_meets n .i32).yields value computed)

theorem ofNumber_yields (number : Number) (kind : NumericKind) :
    Yields (Value.HasType world (.numeric kind)) (Value.ofNumber number kind) := by
  intro value computed
  exact Value.hasType_of_numericKind ((Value.ofNumber_meets number kind).yields value computed)

theorem numberArg_eq_ok {method : String} {value : Value} {rest : List Value} {number : Number}
    (read : numberArg method (value :: rest) 0 = .ok number) : value.number? = some number := by
  simp only [numberArg, List.getElem?_cons_zero] at read
  split at read
  · simp at read
  · simp at read
  · rename_i found _ same
    obtain rfl := Option.some.inj same
    split at read
    · rename_i known
      rw [known, Except.ok.inj read]
    · simp at read

theorem pick_eq {wanted : Ordering} {a b value : Value} (picked : pick wanted a b = .ok value) :
    value = a ∨ value = b := by
  unfold pick at picked
  split at picked
  · simp at picked
  · split at picked
    · rw [← Except.ok.inj picked]
      split <;> simp
    · rw [← Except.ok.inj picked]
      split <;> simp

theorem clamp_eq {value least greatest result : Value}
    (clamped : clamp value least greatest = .ok result) :
    result = value ∨ result = least ∨ result = greatest := by
  unfold clamp at clamped
  split at clamped
  · simp at clamped
  · obtain ⟨upper, first, second⟩ := bind_eq_ok.mp clamped
    rcases pick_eq second with rfl | rfl
    · rcases pick_eq first with rfl | rfl
      · exact Or.inl rfl
      · exact Or.inr (Or.inr rfl)
    · exact Or.inr (Or.inl rfl)

/-- Rounding keeps the sort of the number, of which there is one for each of the two kinds. -/
theorem rounding_form {kind : NumericKind} (fractional : kind = .f64 ∨ kind = .decimal)
    {method : String} (named : isFunctionName method = true) (mode : Binary.Rounding)
    (decimal : Decimal → Decimal) : Form (rounding method mode decimal kind) := by
  refine .function named rfl rfl ?_
  intro host world args value filled computed
  obtain ⟨number, read, computed⟩ := bind_eq_ok.mp computed
  rcases args with _ | ⟨arg, rest⟩
  · simp [Filled] at filled
  · have kindOf := Value.conforms_numeric filled.1
    have found := numberArg_eq_ok read
    apply Value.hasType_of_numericKind
    rcases fractional with rfl | rfl <;> cases arg <;>
      simp only [Value.numericKind?, Option.some.injEq, reduceCtorEq] at kindOf
    all_goals
      obtain rfl := Option.some.inj found
      rw [← pure_eq_ok.mp computed]
      rfl

theorem extremum_form {method : String} (named : isFunctionName method = true) (wanted : Ordering)
    (kind : NumericKind) : Form (extremum method wanted kind) := by
  refine .function named rfl rfl ?_
  intro host world args value filled computed
  simp only at computed
  split at computed
  · obtain ⟨aFits, aFormed, bFits, bFormed, _⟩ := filled
    rcases pick_eq computed with rfl | rfl
    · exact ⟨aFormed, aFits⟩
    · exact ⟨bFormed, bFits⟩
  · simp at computed

theorem clamping_form (kind : NumericKind) : Form (clamping kind) := by
  refine .function (by decide +kernel) rfl rfl ?_
  intro host world args value filled computed
  simp only at computed
  split at computed
  · obtain ⟨valueFits, valueFormed, leastFits, leastFormed, greatestFits, greatestFormed, _⟩ := filled
    rcases clamp_eq computed with rfl | rfl | rfl
    · exact ⟨valueFormed, valueFits⟩
    · exact ⟨leastFormed, leastFits⟩
    · exact ⟨greatestFormed, greatestFits⟩
  · simp at computed

theorem floatFunction_form {method : String} (named : isFunctionName method = true)
    (compute : Float → Float → Float) : Form (floatFunction method compute) :=
  .constant named rfl rfl fun _ _ _ =>
    .bind fun _ => .bind fun _ => .ok (Value.hasType_of_numericKind rfl)

theorem absolute_form (kind : NumericKind) : Form (absolute kind) :=
  .constant (by decide +kernel) rfl rfl fun _ _ _ => .bind fun number => ofNumber_yields _ kind

theorem sign_form (kind : NumericKind) : Form (sign kind) :=
  .constant (by decide +kernel) rfl rfl fun _ _ _ =>
    .bind fun _ => .bind fun sign => ofInt_yields sign

theorem math_form (kind : NumericKind) : ∀ definition ∈ math kind, Form definition := by
  intro definition member
  simp only [math, List.mem_append] at member
  rcases member with ((((operator | lifted) | signed) | fraction) | power) | extreme
  · exact operators_form rfl rfl definition operator
  · exact operators_form rfl rfl definition lifted
  · split at signed
    · simp at signed
    · simp only [List.mem_cons, List.not_mem_nil, or_false] at signed
      rcases signed with rfl | rfl
      · exact absolute_form kind
      · exact sign_form kind
  · split at fraction
    · rename_i fractional
      simp only [Bool.or_eq_true, beq_iff_eq] at fractional
      simp only [roundings, List.mem_cons, List.not_mem_nil, or_false] at fraction
      rcases fraction with rfl | rfl | rfl <;>
        exact rounding_form fractional (by decide +kernel) _ _
    · simp at fraction
  · split at power
    · simp only [powers, List.mem_cons, List.not_mem_nil, or_false] at power
      rcases power with rfl | rfl <;> exact floatFunction_form (by decide +kernel) _
    · simp at power
  · simp only [List.mem_cons, List.not_mem_nil, or_false] at extreme
    rcases extreme with rfl | rfl | rfl
    · exact extremum_form (by decide +kernel) .lt kind
    · exact extremum_form (by decide +kernel) .gt kind
    · exact clamping_form kind

/-! Functions on texts. -/

theorem string_hasType (s : String) : (Value.string s).HasType world .string :=
  ⟨trivial, rfl⟩

theorem countValue_yields (method : String) (count : Nat) :
    Yields (Value.HasType world .i32) (countValue method count) := by
  unfold countValue Integer.ofInt?
  split
  · rename_i found same
    split at same
    · rw [← Option.some.inj same]
      exact .ok (Value.hasType_of_numericKind rfl)
    · simp at same
  · exact .error

theorem charAt_yields (args : List Value) : Yields (Value.HasType world .char) (charAt args) := by
  refine .bind fun text => .bind fun index => ?_
  split
  · exact .ok ⟨trivial, rfl⟩
  · exact .error

theorem indexOf_yields (args : List Value) : Yields (Value.HasType world .i32) (indexOf args) := by
  refine .bind fun outer => .bind fun inner => ?_
  split
  · exact .bind fun before => countValue_yields _ _
  · exact ofInt_yields _

theorem substring_yields (args : List Value) :
    Yields (Value.HasType world .string) (substring args) := by
  refine .bind fun text => .bind fun start => .bind fun length => .bind fun first => ?_
  split
  · exact .bind fun part => .ok (string_hasType _)
  · exact .error

theorem substringFrom_yields (args : List Value) :
    Yields (Value.HasType world .string) (substringFrom args) :=
  .bind fun _ => .bind fun _ => .bind fun _ => .bind fun _ => .ok (string_hasType _)

theorem replace_yields (args : List Value) : Yields (Value.HasType world .string) (replace args) := by
  refine .bind fun text => .bind fun old => ?_
  split
  · exact .error
  · exact .ok (string_hasType _)

theorem insert_yields (args : List Value) : Yields (Value.HasType world .string) (insert args) := by
  refine .bind fun outer => .bind fun index => .bind fun inner => .bind fun place => ?_
  exact .bind fun before => .bind fun after => .ok (string_hasType _)

theorem transform_form {method : String} (named : isFunctionName method = true)
    (change : String → String) : Form (transform method change) :=
  .constant named rfl rfl fun _ _ _ => .bind fun _ => .ok (string_hasType _)

theorem strings_form : ∀ definition ∈ strings, Form definition := by
  simp only [strings, List.forall_mem_cons, List.not_mem_nil, false_implies, implies_true,
    and_true]
  refine ⟨.operator _ rfl rfl, .operator _ rfl rfl, ?_⟩
  refine ⟨.constant (by decide +kernel) rfl rfl fun _ _ _ => .bind fun _ => countValue_yields _ _,
    .constant (by decide +kernel) rfl rfl fun _ _ => charAt_yields,
    .constant (by decide +kernel) rfl rfl fun _ _ _ =>
      .bind fun _ => .bind fun _ => .ok (Value.bool_hasType _),
    .constant (by decide +kernel) rfl rfl fun _ _ => indexOf_yields,
    .constant (by decide +kernel) rfl rfl fun _ _ _ =>
      .bind fun _ => .bind fun _ => .ok (Value.bool_hasType _),
    .constant (by decide +kernel) rfl rfl fun _ _ => substring_yields,
    .constant (by decide +kernel) rfl rfl fun _ _ => substringFrom_yields,
    .constant (by decide +kernel) rfl rfl fun _ _ _ => .ok (string_hasType _),
    .constant (by decide +kernel) rfl rfl fun _ _ => replace_yields,
    .constant (by decide +kernel) rfl rfl fun _ _ => insert_yields, ?_⟩
  refine ⟨?_, ?_, ?_, ?_, ?_⟩ <;> exact transform_form (by decide +kernel) _

/-! Functions on date-times. -/

theorem withinCalendar_yields (method : String) (found : Option DateTime) :
    Yields (Value.HasType world .dateTime) (withinCalendar method found) := by
  cases found with
  | none => exact .error
  | some t => exact .ok ⟨trivial, rfl⟩

theorem addition_form {method : String} (named : isFunctionName method = true) (unit : Float) :
    Form (addition method unit) :=
  .constant named rfl rfl fun _ _ _ => .bind fun _ => .bind fun _ => withinCalendar_yields _ _

theorem monthAddition_form {method : String} (named : isFunctionName method = true) (unit : Int) :
    Form (monthAddition method unit) :=
  .constant named rfl rfl fun _ _ _ => .bind fun _ => .bind fun _ => withinCalendar_yields _ _

theorem difference_form {method : String} (named : isFunctionName method = true) (unit : Int) :
    Form (difference method unit) :=
  .constant named rfl rfl fun _ _ _ => .bind fun _ => .bind fun _ => ofInt_yields _

theorem monthDifference_form {method : String} (named : isFunctionName method = true) (unit : Int) :
    Form (monthDifference method unit) :=
  .constant named rfl rfl fun _ _ _ => .bind fun _ => .bind fun _ => ofInt_yields _

theorem calendar_form : ∀ definition ∈ calendar, Form definition := by
  intro definition member
  simp only [calendar, List.mem_append] at member
  rcases member with (clock | compared) | moved
  · rw [List.mem_singleton.mp clock]
    exact .constant (by decide +kernel) rfl rfl fun _ _ _ => .ok ⟨trivial, rfl⟩
  · obtain ⟨op, listed, rfl⟩ := List.mem_map.mp compared
    refine .operator op rfl ?_
    cases op <;> simp_all [comparisons, Expr.binaryDefined, BinaryOp.isArithmetic,
      BinaryOp.isOrdering, BinaryOp.isLogical, Ty.underlying, Expr.isOrdered]
  · revert definition
    simp only [List.forall_mem_cons, List.not_mem_nil, false_implies, implies_true, and_true]
    refine ⟨?_, ?_, ?_, ?_, ?_, ?months⟩
    case months =>
      refine ⟨monthAddition_form (by decide +kernel) 1, monthAddition_form (by decide +kernel) 12, ?_⟩
      refine ⟨?_, ?_, ?_, ?_, ?_, monthDifference_form (by decide +kernel) 1,
        monthDifference_form (by decide +kernel) 12⟩ <;> exact difference_form (by decide +kernel) _
    all_goals exact addition_form (by decide +kernel) _

theorem boolean_form : ∀ definition ∈ boolean, Form definition := by
  simp only [boolean, List.forall_mem_cons, List.not_mem_nil, false_implies, implies_true,
    and_true]
  refine ⟨.unary _ rfl rfl, ?_⟩
  refine ⟨?_, ?_, ?_, ?_, ?_⟩ <;> exact .operator _ rfl rfl

theorem definitions_form (settings : FunctionSettings) :
    ∀ definition ∈ definitions settings, Form definition := by
  intro definition member
  rcases List.mem_append.mp member with library | logical
  · split at library
    · simp only [List.mem_append, List.mem_flatMap, sequences, conditional, List.mem_cons,
        List.not_mem_nil, or_false] at library
      rcases library with (((⟨kind, _, number⟩ | text) | rfl | rfl) | date) | rfl
      · exact math_form kind definition number
      · exact strings_form definition text
      · exact .membership
      · exact .counting
      · exact calendar_form definition date
      · exact .choice
    · simp at library
  · split at logical
    · exact boolean_form definition logical
    · simp at logical

/-- The overloads of the library are of the forms. -/
theorem mem_lookup {settings : FunctionSettings} {method : String} {overload : Overload}
    (listed : overload ∈ (Catalog.ofSettings settings).lookup method) :
    ∃ definition id, Form definition ∧ Catalog.key definition.method = Catalog.key method ∧
      overload = definition.numbered id := by
  obtain ⟨definition, member, id, named, numbered⟩ := Catalog.mem_lookup listed
  exact ⟨definition, id, definitions_form settings definition member, named, numbered⟩

/-! What the definitions build. -/

section

variable {site : CallSite} {expr : Expr}

theorem operator_eq_ok {op : BinaryOp} {ty : Ty} {id : Nat}
    (built : ((Definition.ofOperator op ty).numbered id).build site = .ok (some expr)) :
    ∃ left right, site.args = [left, right] ∧ Expr.applyBinary op left right = .ok expr := by
  simp only [Definition.numbered, Definition.ofOperator, Definition.ofArgs] at built
  split at built
  · exact ⟨_, _, by assumption, map_some_eq_ok.mp built⟩
  · simp at built

theorem unary_eq_ok {op : UnaryOp} {ty : Ty} {id : Nat}
    (built : ((Definition.ofUnary op ty).numbered id).build site = .ok (some expr)) :
    ∃ operand, site.args = [operand] ∧ Expr.applyUnary op operand = .ok expr := by
  simp only [Definition.numbered, Definition.ofUnary, Definition.ofArgs] at built
  split at built
  · exact ⟨_, by assumption, map_some_eq_ok.mp built⟩
  · simp at built

/-- A branch of a choice is an argument as it is, or one that is bound again with the type of another
or with the type that two of them are widened to. -/
inductive Branch (site : CallSite) : Expr → Prop
  | natural {branch} : branch ∈ site.natural → Branch site branch
  | rebound {other index branch} : other ∈ site.natural →
      site.argumentAs? index other.ty = .ok (some branch) → Branch site branch
  | widened {a b common index branch} : a ∈ site.natural → b ∈ site.natural →
      widened? a.ty b.ty = some common → site.argumentAs? index common = .ok (some branch) →
      Branch site branch

theorem choice_eq_ok (built : choice site = .ok (some expr)) :
    ∃ test ifTrue ifFalse, test ∈ site.args ∧ Branch site ifTrue ∧ Branch site ifFalse ∧
      Expr.choose test ifTrue ifFalse = .ok expr := by
  unfold choice at built
  split at built
  · rename_i test _ _ _ a b args natural
    have listed : test ∈ site.args := by simp [args]
    have first : a ∈ site.natural := by simp [natural]
    have second : b ∈ site.natural := by simp [natural]
    split at built
    · exact ⟨test, a, b, listed, .natural first, .natural second, map_some_eq_ok.mp built⟩
    · obtain ⟨again, bound, built⟩ := bind_eq_ok.mp built
      obtain _ | again := again
      · obtain ⟨again, bound, built⟩ := bind_eq_ok.mp built
        obtain _ | again := again
        · simp only at built
          split at built
          · simp [pure_eq_ok] at built
          · rename_i common widening
            obtain ⟨ifTrue, firstBound, built⟩ := bind_eq_ok.mp built
            obtain ⟨ifFalse, secondBound, built⟩ := bind_eq_ok.mp built
            split at built
            · exact ⟨test, _, _, listed, .widened first second widening firstBound,
                .widened first second widening secondBound, map_some_eq_ok.mp built⟩
            · simp [pure_eq_ok] at built
        · exact ⟨test, again, b, listed, .rebound second bound, .natural second,
            map_some_eq_ok.mp built⟩
      · exact ⟨test, a, again, listed, .natural first, .rebound first bound,
          map_some_eq_ok.mp built⟩
  · simp at built

theorem membership_eq_ok (built : membership site = .ok (some expr)) :
    ∃ sequence element item, sequence ∈ site.natural ∧ sequence.ty.element? = some element ∧
      site.argumentAs? 1 element = .ok (some item) ∧
      expr = .call ⟨"contains", .call, fun _ => containsItem⟩ [sequence, item] .bool := by
  unfold membership at built
  split at built
  · simp at built
  · rename_i sequence first
    split at built
    · simp at built
    · rename_i element isSequence
      obtain ⟨item, bound, built⟩ := bind_eq_ok.mp built
      obtain _ | item := item
      · simp [pure_eq_ok] at built
      · simp only [pure_eq_ok, Option.some.injEq] at built
        exact ⟨sequence, element, item, List.mem_of_getElem? first, isSequence, bound, built.symm⟩

theorem counting_eq_ok (built : counting site = .ok (some expr)) :
    ∃ sequence ∈ site.natural,
      expr = .call ⟨"count", .call, fun _ => countItems⟩ [sequence] .i32 := by
  unfold counting at built
  split at built
  · simp at built
  · rename_i sequence first
    split at built
    · simp at built
    · simp only [Except.ok.injEq, Option.some.injEq] at built
      exact ⟨sequence, List.mem_of_getElem? first, built.symm⟩

end

theorem eq_of_beq_operand {a b : Ty} (operand : isOperand b = true) (equal : (a == b) = true) :
    a = b := by
  unfold isOperand at operand
  split at operand
  · rename_i kind
    rw [Ty.beq_eq_same] at equal
    cases a with
    | nullable inner =>
        have same : inner = .numeric kind := Ty.eq_of_beq_plain rfl equal
        rw [same]
    | _ => simp [Ty.same] at equal
  · exact Ty.eq_of_beq_plain operand equal

end Standard

end RowQuery
