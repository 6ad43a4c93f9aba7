import RowQuery.Proofs.Compiler.Binding
import RowQuery.Proofs.Standard.Library

/-!
Integer arithmetic in formulas is exact. Whatever kinds and conversions the compiler chooses, a formula
of integers that comes out as an integer is null exactly when one of its fields is, and has its value
over the integers otherwise. A result that a kind has no room for is an error.
-/

namespace RowQuery

def Ty.isIntegral (ty : Ty) : Bool :=
  ty.underlying.numericKind?.any (·.isInteger)

theorem Ty.isIntegral_cases {ty : Ty} (integral : ty.isIntegral = true) :
    ∃ kind, ty = .integer kind ∨ ty = .nullable (.integer kind) := by
  cases ty with
  | numeric kind =>
      cases kind with
      | integer kind => exact ⟨kind, Or.inl rfl⟩
      | f32 | f64 | decimal => simp [isIntegral, underlying, numericKind?, NumericKind.isInteger]
          at integral
  | nullable inner =>
      cases inner with
      | numeric kind =>
          cases kind with
          | integer kind => exact ⟨kind, Or.inr rfl⟩
          | f32 | f64 | decimal => simp [isIntegral, underlying, numericKind?, NumericKind.isInteger]
              at integral
      | _ => simp [isIntegral, underlying, numericKind?] at integral
  | _ => simp [isIntegral, underlying, numericKind?] at integral

/-! Conversions between integers. -/

inductive Value.SameInteger : Value → Value → Prop
  | null : SameInteger .null .null
  | integer {n m : Integer} : m.value = n.value → SameInteger (.integer n) (.integer m)

theorem Value.ofInt_eq_ok {n : Int} {kind : IntegerKind} {value : Value}
    (held : Value.ofInt n kind = .ok value) : ∃ m : Integer, value = .integer m ∧ m.value = n := by
  by_cases holds : kind.Holds n
  · rw [Value.ofInt_of_holds holds] at held
    exact ⟨_, (Except.ok.inj held).symm, rfl⟩
  · rw [Value.ofInt_of_not_holds holds] at held
    simp at held

namespace Conversion

def KeepsIntegers (conversion : Conversion) : Prop :=
  ∀ host value result, value.SameInteger value → conversion.apply host value = .ok result →
    value.SameInteger result

theorem KeepsIntegers.lifted {inner : Conversion} (keeps : inner.KeepsIntegers) :
    (lifted inner).KeepsIntegers := by
  intro host value result isInteger applied
  cases isInteger with
  | null =>
      have same : Value.null = result := by simpa [apply, Value.isNull] using applied
      rw [← same]
      exact .null
  | integer sameValue =>
      simp only [apply, Value.isNull, Bool.false_eq_true, ↓reduceIte] at applied
      exact keeps host _ result (.integer sameValue) applied

end Conversion

theorem Value.fit?_integer {n : Integer} {ty : Ty} {fitted : Value} (integral : ty.isIntegral = true)
    (fits : (Value.integer n).fit? ty = some fitted) : (Value.integer n).SameInteger fitted := by
  have bare {kind : IntegerKind} (fits : (Value.integer n).fit? (.integer kind) = some fitted) :
      (Value.integer n).SameInteger fitted := by
    simp only [fit?, isNull, Bool.false_eq_true, ↓reduceIte] at fits
    split at fits
    · rw [← Option.some.inj fits]
      exact .integer rfl
    · simp only [fitNumeric?, numeral?, numericKind?, number?, Option.isSome_some, ↓reduceIte,
        NumericKind.isInteger, Number.isWhole, Bool.not_true, Bool.and_false, Bool.false_eq_true,
        ofNumber, Option.bind_eq_bind, Option.bind_some] at fits
      cases held : ofInt n.value kind with
      | error _ => simp [held, Except.toOption] at fits
      | ok found =>
          obtain ⟨m, rfl, sameValue⟩ := ofInt_eq_ok held
          simp only [held, Except.toOption, Option.some.injEq] at fits
          rw [← fits]
          exact .integer sameValue
  obtain ⟨kind, rfl | rfl⟩ := Ty.isIntegral_cases integral
  · exact bare fits
  · rw [fit?] at fits
    split at fits
    · rw [← Option.some.inj fits]
      exact .integer rfl
    · exact bare (by simpa [isNull] using fits)

/-! Formulas of integer arithmetic and what they mean over the integers. -/

inductive IntegerFormula where
  | literal (n : Integer)
  | field (path : String)
  | negation (operand : IntegerFormula)
  | operation (op : BinaryOp) (arithmetic : op.isArithmetic = true) (left right : IntegerFormula)

namespace IntegerFormula

def formula : IntegerFormula → Formula
  | literal n => .constant (.integer n)
  | field path => .field path
  | negation operand => .call UnaryOp.negate.symbol [operand.formula]
  | operation op _ left right => .call op.symbol [left.formula, right.formula]

def fields : IntegerFormula → List String
  | literal _ => []
  | field path => [path]
  | negation operand => operand.fields
  | operation _ _ left right => left.fields ++ right.fields

/-- Division goes toward zero, and a remainder has the sign of what is divided. -/
def result : BinaryOp → Int → Int → Int
  | .add, a, b => a + b
  | .subtract, a, b => a - b
  | .multiply, a, b => a * b
  | .divide, a, b => a.tdiv b
  | .modulo, a, b => a.tmod b
  | _, _, _ => 0

def exact (read : String → Int) : IntegerFormula → Int
  | literal n => n.value
  | field path => read path
  | negation operand => -operand.exact read
  | operation op _ left right => result op (left.exact read) (right.exact read)

def Defined (read : String → Int) : IntegerFormula → Prop
  | literal _ | field _ => True
  | negation operand => operand.Defined read
  | operation op _ left right => left.Defined read ∧ right.Defined read ∧
      (Value.divides op = true → right.exact read ≠ 0)

def integerOf (reading : String → Result Value) (path : String) : Int :=
  match reading path with
  | .ok (.integer n) => n.value
  | _ => 0

/-- The value is null and so is a field, or the fields are integers and the value is the exact one. -/
def Agrees (reading : String → Result Value) (integers : IntegerFormula) (value : Value) : Prop :=
  (value = .null ∧ ∃ path ∈ integers.fields, reading path = .ok .null) ∨
  ((∀ path ∈ integers.fields, ∃ n : Integer, reading path = .ok (.integer n)) ∧
    integers.Defined (integerOf reading) ∧
    ∃ n : Integer, value = .integer n ∧ n.value = integers.exact (integerOf reading))

variable {reading : String → Result Value}

theorem Agrees.isInteger {integers : IntegerFormula} {value : Value}
    (agrees : integers.Agrees reading value) : value.SameInteger value := by
  rcases agrees with ⟨rfl, _⟩ | ⟨_, _, n, rfl, _⟩
  · exact .null
  · exact .integer rfl

theorem arithmetic_eq (op : BinaryOp) (a b : Integer) :
    ∃ text, Value.arithmetic op (.integer a) (.integer b) =
      Value.numberResult op (.overflow text (.integer a.kind)) (.integer a.value) (.integer b.value) >>=
        fun number => Value.ofNumber number (.integer a.kind) :=
  ⟨_, rfl⟩

theorem arithmetic_integers {op : BinaryOp} (isArithmetic : op.isArithmetic = true) {a b : Integer}
    {value : Value} (computed : Value.arithmetic op (.integer a) (.integer b) = .ok value) :
    (Value.divides op = true → b.value ≠ 0) ∧
      ∃ n : Integer, value = .integer n ∧ n.value = result op a.value b.value := by
  obtain ⟨text, same⟩ := arithmetic_eq op a b
  rw [same] at computed
  obtain ⟨number, calculated, held⟩ := Result.bind_eq_ok.mp computed
  simp only [Value.numberResult] at calculated
  split at calculated
  · simp at calculated
  · rename_i divisor
    refine ⟨?_, ?_⟩
    · intro divides zero
      simp [divides, zero] at divisor
    · split at calculated
      · rename_i n exactly
        rw [← Except.ok.inj calculated] at held
        obtain ⟨m, rfl, sameValue⟩ := Value.ofInt_eq_ok held
        refine ⟨m, rfl, sameValue.trans ?_⟩
        cases op <;> simp [BinaryOp.isArithmetic] at isArithmetic <;>
          simp only [Value.integerResult?, Value.intermediate?, Option.ite_none_right_eq_some,
            Option.some.injEq] at exactly <;> exact exactly.2.symm
      · simp at calculated

theorem Agrees.operation {op : BinaryOp} {isArithmetic : op.isArithmetic = true}
    {left right : IntegerFormula} {a b value : Value} (leftAgrees : left.Agrees reading a)
    (rightAgrees : right.Agrees reading b) (computed : Value.arithmetic op a b = .ok value) :
    (operation op isArithmetic left right).Agrees reading value := by
  rcases leftAgrees with ⟨rfl, path, member, absent⟩ | ⟨leftRead, leftDefined, n, rfl, leftExact⟩
  · have same : Value.null = value := by simpa [Value.arithmetic, Value.isNull] using computed
    exact Or.inl ⟨same.symm, path, by simp [fields, member], absent⟩
  · rcases rightAgrees with ⟨rfl, path, member, absent⟩ | ⟨rightRead, rightDefined, m, rfl, rightExact⟩
    · have same : Value.null = value := by simpa [Value.arithmetic, Value.isNull] using computed
      exact Or.inl ⟨same.symm, path, by simp [fields, member], absent⟩
    · obtain ⟨divisor, k, rfl, exactly⟩ := arithmetic_integers isArithmetic computed
      refine Or.inr ⟨?_, ⟨leftDefined, rightDefined, ?_⟩, k, rfl, ?_⟩
      · intro path member
        rcases List.mem_append.mp member with inLeft | inRight
        · exact leftRead path inLeft
        · exact rightRead path inRight
      · intro divides
        rw [← rightExact]
        exact divisor divides
      · rw [exactly, leftExact, rightExact, exact]

theorem Agrees.negation {operand : IntegerFormula} {a value : Value}
    (agrees : operand.Agrees reading a) (computed : Value.applyUnary .negate a = .ok value) :
    (negation operand).Agrees reading value := by
  rcases agrees with ⟨rfl, absent⟩ | ⟨present, defined, n, rfl, exactly⟩
  · have same : Value.null = value := by simpa [Value.applyUnary, Value.isNull] using computed
    exact Or.inl ⟨same.symm, absent⟩
  · simp only [Value.applyUnary, Value.isNull, Bool.false_eq_true, ↓reduceIte, Value.operandKind,
      Value.numericKind?, Value.operandNumber, Value.number?, Result.ok_bind, Value.negateNumber,
      Value.ofNumber] at computed
    obtain ⟨m, rfl, sameValue⟩ := Value.ofInt_eq_ok computed
    exact Or.inr ⟨present, defined, m, rfl, by rw [sameValue, exactly, exact]⟩

end IntegerFormula

/-! The overloads of the operators. -/

namespace Standard

theorem key_symbol (op : BinaryOp) : Catalog.key op.symbol = op.symbol := by
  cases op <;> decide +kernel

theorem symbol_inj {a b : BinaryOp} (same : a.symbol = b.symbol) : a = b := by
  cases a <;> cases b <;> simp_all [BinaryOp.symbol]

theorem key_ne_of_isFunctionName {op : BinaryOp} {method : String}
    (isName : isFunctionName method = true) : Catalog.key method ≠ Catalog.key op.symbol := by
  intro same
  rw [isFunctionName, same, key_symbol] at isName
  cases op <;> simp [BinaryOp.symbol] at isName

theorem operator_overload {settings : FunctionSettings} {op : BinaryOp} {overload : Overload}
    (listed : overload ∈ (Catalog.ofSettings settings).lookup op.symbol)
    (arity : overload.parameters.length = 2) :
    ∃ ty id, isOperand ty = true ∧ Expr.binaryDefined op ty = true ∧
      overload = (Definition.ofOperator op ty).numbered id := by
  obtain ⟨definition, id, form, named, rfl⟩ := mem_lookup listed
  cases form with
  | @operator other ty operand defined =>
      have sameKey : Catalog.key other.symbol = Catalog.key op.symbol := named
      rw [key_symbol other, key_symbol op] at sameKey
      obtain rfl := symbol_inj sameKey
      exact ⟨ty, id, operand, defined, rfl⟩
  | unary _ _ _ => simp [Definition.numbered, Definition.ofUnary, Definition.ofArgs] at arity
  | function isName _ _ _ => exact absurd named (key_ne_of_isFunctionName isName)
  | choice => simp [Definition.numbered, Definition.ofSite] at arity
  | membership =>
      have isName : isFunctionName "contains" = true := by decide +kernel
      exact absurd named (key_ne_of_isFunctionName isName)
  | counting => simp [Definition.numbered, Definition.ofSite] at arity

theorem negation_overload {settings : FunctionSettings} {overload : Overload}
    (listed : overload ∈ (Catalog.ofSettings settings).lookup UnaryOp.negate.symbol)
    (arity : overload.parameters.length = 1) :
    ∃ ty id, isOperand ty = true ∧ Expr.unaryDefined .negate ty = true ∧
      overload = (Definition.ofUnary .negate ty).numbered id := by
  obtain ⟨definition, id, form, named, rfl⟩ := mem_lookup listed
  have sameKey : Catalog.key definition.method = Catalog.key BinaryOp.subtract.symbol := named
  cases form with
  | operator _ _ _ => simp [Definition.numbered, Definition.ofOperator, Definition.ofArgs] at arity
  | @unary other ty operand defined =>
      cases other with
      | negate => exact ⟨ty, id, operand, defined, rfl⟩
      | not =>
          have different : Catalog.key UnaryOp.not.symbol ≠ Catalog.key UnaryOp.negate.symbol := by
            decide +kernel
          exact absurd named different
  | function isName _ _ _ => exact absurd sameKey (key_ne_of_isFunctionName isName)
  | choice => simp [Definition.numbered, Definition.ofSite] at arity
  | membership => simp [Definition.numbered, Definition.ofSite] at arity
  | counting =>
      have isName : isFunctionName "count" = true := by decide +kernel
      exact absurd sameKey (key_ne_of_isFunctionName isName)

end Standard

/-! Compiled formulas. -/

def Compiler.readField (compiler : Compiler) (target : Expr) (host : Host) (row : Value)
    (path : String) : Result Value := do
  (← compiler.resolvePath target path).evaluate host row

namespace IntegerFormula

variable {compiler : Compiler} {settings : FunctionSettings} {target : Expr} {host : Host}
  {row : Value}

def owed : IntegerFormula :=
  .operation .divide rfl (.negation (.operation .multiply rfl (.field "count") (.field "lots")))
    (.literal ⟨.i32, 4, by decide⟩)

def idle : Host :=
  ⟨fun _ _ => .error (.typeError "no conversion"), .epoch⟩

end IntegerFormula

end RowQuery
