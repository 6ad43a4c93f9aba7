import RowQuery.Proofs.Standard.Integers

/-!
Arithmetic on the integers of one kind is checked. The outcome is the exact result if the kind has it
and an overflow if it does not; only a division by zero has no result. Intermediate results are exact
as well: the one that needs more than 128 bits is a product that no kind has.
-/

namespace RowQuery

/-- Division of `a` by `b` toward zero: the rest is smaller than `b` and has the sign of `a`. -/
structure TruncatedDivision (a b quotient rest : Int) : Prop where
  splits : rest + b * quotient = a
  smaller : rest.natAbs < b.natAbs
  nonneg : 0 ≤ a → 0 ≤ rest
  nonpos : a ≤ 0 → rest ≤ 0

inductive BinaryOp.Computes (a b : Int) : BinaryOp → Int → Prop
  | add : Computes a b .add (a + b)
  | subtract : Computes a b .subtract (a - b)
  | multiply : Computes a b .multiply (a * b)
  | divide {quotient rest : Int} : TruncatedDivision a b quotient rest →
      Computes a b .divide quotient
  | modulo {quotient rest : Int} : TruncatedDivision a b quotient rest → Computes a b .modulo rest

theorem truncatedDivision_iff {a b quotient rest : Int} :
    TruncatedDivision a b quotient rest ↔ b ≠ 0 ∧ a.tdiv b = quotient ∧ a.tmod b = rest := by
  constructor
  · rintro ⟨splits, smaller, nonneg, nonpos⟩
    have divisor : b ≠ 0 := by omega
    refine ⟨divisor, ?_⟩
    -- The rest is determined on the side of zero where the dividend lies.
    by_cases negative : a ≤ 0
    · have bound := nonpos negative
      rw [Int.tdiv_tmod_unique' negative divisor]
      exact ⟨splits, by omega, bound⟩
    · have bound := nonneg (by omega)
      rw [Int.tdiv_tmod_unique (by omega) divisor]
      exact ⟨splits, bound, by omega⟩
  · rintro ⟨divisor, division⟩
    by_cases negative : a ≤ 0
    · obtain ⟨splits, above, below⟩ := (Int.tdiv_tmod_unique' negative divisor).mp division
      refine ⟨splits, by omega, ?_, fun _ => below⟩
      intro nonneg
      obtain rfl : a = 0 := by omega
      rw [Int.zero_tmod] at division
      omega
    · obtain ⟨splits, above, below⟩ :=
        (Int.tdiv_tmod_unique (Int.le_of_lt (Int.not_le.mp negative)) divisor).mp division
      exact ⟨splits, by omega, fun _ => above, fun nonpos => absurd nonpos negative⟩

theorem BinaryOp.computes_iff {op : BinaryOp} (arithmetic : op.isArithmetic = true) {a b n : Int} :
    op.Computes a b n ↔
      ¬((op = .divide ∨ op = .modulo) ∧ b = 0) ∧ n = IntegerFormula.result op a b := by
  constructor
  · intro computes
    cases computes with
    | add | subtract | multiply => simp [IntegerFormula.result]
    | divide division | modulo division =>
        obtain ⟨divisor, rfl, rfl⟩ := truncatedDivision_iff.mp division
        simp [IntegerFormula.result, divisor]
  · rintro ⟨defined, rfl⟩
    cases op with
    | add => exact .add
    | subtract => exact .subtract
    | multiply => exact .multiply
    | divide =>
        have divisor : b ≠ 0 := by simpa using defined
        exact .divide (truncatedDivision_iff.mpr ⟨divisor, rfl, rfl⟩)
    | modulo =>
        have divisor : b ≠ 0 := by simpa using defined
        exact .modulo (truncatedDivision_iff.mpr ⟨divisor, rfl, rfl⟩)
    | _ => simp [BinaryOp.isArithmetic] at arithmetic

namespace Value

structure Checked (kind : IntegerKind) (exact : Int → Prop) (outcome : Result Value) : Prop where
  ok_iff : ∀ value, outcome = .ok value ↔
    ∃ n, ∃ held : kind.Holds n, exact n ∧ value = .integer ⟨kind, n, held⟩
  overflow_iff : (∃ text, outcome = .error (.overflow text (.integer kind))) ↔
    ∃ n, exact n ∧ ¬kind.Holds n

variable {kind : IntegerKind} {exact : Int → Prop} {n : Int}

theorem Checked.overflow (only : ∀ m, exact m ↔ m = n) (beyond : ¬kind.Holds n) (text : String) :
    Checked kind exact (.error (.overflow text (.integer kind))) := by
  refine ⟨?_, ?_⟩
  · intro value
    simp only [reduceCtorEq, false_iff]
    rintro ⟨m, held, isExact, _⟩
    rw [(only m).mp isExact] at held
    exact beyond held
  · exact ⟨fun _ => ⟨n, (only n).mpr rfl, beyond⟩, fun _ => ⟨text, rfl⟩⟩

theorem Checked.ofInt (only : ∀ m, exact m ↔ m = n) : Checked kind exact (Value.ofInt n kind) := by
  by_cases held : kind.Holds n
  · rw [ofInt_of_holds held]
    refine ⟨?_, ?_⟩
    · intro value
      constructor
      · intro same
        exact ⟨n, held, (only n).mpr rfl, (Except.ok.inj same).symm⟩
      · rintro ⟨m, mHeld, isExact, rfl⟩
        obtain rfl := (only m).mp isExact
        rfl
    · simp only [reduceCtorEq, exists_false, false_iff]
      rintro ⟨m, isExact, beyond⟩
      rw [(only m).mp isExact] at beyond
      exact beyond held
  · rw [ofInt_of_not_holds held]
    exact .overflow only held _

theorem Checked.divideByZero (undefined : ∀ m, ¬exact m) :
    Checked kind exact (.error .divideByZero) := by
  refine ⟨?_, ?_⟩
  · intro value
    simp only [reduceCtorEq, false_iff]
    rintro ⟨m, _, isExact, _⟩
    exact undefined m isExact
  · simp [undefined]

/-- Where there is an exact result, the only error is an overflow. -/
theorem Checked.eq_overflow {outcome : Result Value} {error : Error}
    (checked : Checked kind exact outcome) (isExact : exact n) (failed : outcome = .error error) :
    ∃ text, error = .overflow text (.integer kind) := by
  by_cases held : kind.Holds n
  · have succeeded := (checked.ok_iff _).mpr ⟨n, held, isExact, rfl⟩
    simp [failed] at succeeded
  · obtain ⟨text, overflowed⟩ := checked.overflow_iff.mpr ⟨n, isExact, held⟩
    rw [failed] at overflowed
    exact ⟨text, Except.error.inj overflowed⟩

/-! ### Intermediate results -/

theorem eq_of_intermediate? {m : Int} (found : intermediate? n = some m) : n = m := by
  simp only [intermediate?, Option.ite_none_right_eq_some, Option.some.injEq] at found
  exact found.2

theorem intermediate?_of_le (small : n.natAbs ≤ 85070591730234615865843651857942052864) :
    intermediate? n = some n := by
  have limit : Int.pow 2 127 = 170141183460469231731687303715884105728 := rfl
  rw [intermediate?, limit, if_pos (by omega)]

theorem not_holds_of_intermediate? (wide : intermediate? n = none) : ¬kind.Holds n := by
  intro held
  have bounds := held.bounds
  rw [intermediate?_of_le (by omega)] at wide
  simp at wide

/-- The numbers of all kinds but the widest without a sign are signed numbers of 64 bits. -/
theorem natAbs_le_of_ne_u64 (narrow : kind ≠ .u64) (held : kind.Holds n) :
    n.natAbs ≤ 9223372036854775808 := by
  have extremes : -9223372036854775808 ≤ kind.least ∧ kind.greatest ≤ 9223372036854775807 := by
    cases kind <;> simp at narrow <;> decide
  obtain ⟨least, greatest⟩ := held
  omega

variable {a b : Int}

theorem integerResult?_eq {op : BinaryOp} (arithmetic : op.isArithmetic = true) :
    integerResult? op a b = intermediate? (IntegerFormula.result op a b) := by
  cases op with
  | add | subtract | multiply | divide | modulo => rfl
  | _ => simp [BinaryOp.isArithmetic] at arithmetic

theorem natAbs_result_le {op : BinaryOp} (aHeld : kind.Holds a) (bHeld : kind.Holds b)
    (narrow : op = .multiply → kind ≠ .u64) :
    (IntegerFormula.result op a b).natAbs ≤ 85070591730234615865843651857942052864 := by
  have aBounds := aHeld.bounds
  have bBounds := bHeld.bounds
  cases op with
  | multiply =>
      have product := Nat.mul_le_mul (natAbs_le_of_ne_u64 (narrow rfl) aHeld)
        (natAbs_le_of_ne_u64 (narrow rfl) bHeld)
      rw [IntegerFormula.result, Int.natAbs_mul]
      omega
  | divide =>
      have smaller := Int.natAbs_tdiv_le_natAbs a b
      rw [IntegerFormula.result]
      omega
  | modulo =>
      have smaller := Nat.mod_le a.natAbs b.natAbs
      rw [IntegerFormula.result, Int.natAbs_tmod]
      omega
  | _ =>
      simp only [IntegerFormula.result]
      omega

/-- Only the product of two unsigned numbers of 64 bits can need more than 128 bits. -/
theorem integerResult?_exact {op : BinaryOp} (aHeld : kind.Holds a) (bHeld : kind.Holds b)
    (computes : op.Computes a b n) :
    integerResult? op a b = some n ∨
      (op = .multiply ∧ kind = .u64 ∧ integerResult? op a b = none) := by
  have arithmetic : op.isArithmetic = true := by cases computes <;> rfl
  obtain ⟨_, rfl⟩ := (BinaryOp.computes_iff arithmetic).mp computes
  rw [integerResult?_eq arithmetic]
  cases found : intermediate? (IntegerFormula.result op a b) with
  | some m => exact .inl (congrArg some (eq_of_intermediate? found).symm)
  | none =>
      by_cases narrow : op = .multiply → kind ≠ .u64
      · rw [intermediate?_of_le (natAbs_result_le aHeld bHeld narrow)] at found
        simp at found
      · simpa using narrow

/-! ### Operators -/

theorem divides_iff {op : BinaryOp} : divides op = true ↔ op = .divide ∨ op = .modulo := by
  simp [divides]

theorem applyBinary_arithmetic {op : BinaryOp} (arithmetic : op.isArithmetic = true)
    (left right : Value) : applyBinary op left right = Value.arithmetic op left right := by
  cases op with
  | add | subtract | multiply | divide | modulo => rfl
  | _ => simp [BinaryOp.isArithmetic] at arithmetic

theorem applyBinary_null {op : BinaryOp} (arithmetic : op.isArithmetic = true) (other : Value) :
    applyBinary op .null other = .ok .null ∧ applyBinary op other .null = .ok .null := by
  simp [applyBinary_arithmetic arithmetic, Value.arithmetic, isNull]

section Operators

variable (aHeld : kind.Holds a) (bHeld : kind.Holds b) {op : BinaryOp}
  (arithmetic : op.isArithmetic = true)

include arithmetic

theorem applyBinary_divideByZero (zero : (op = .divide ∨ op = .modulo) ∧ b = 0) :
    applyBinary op (.integer ⟨kind, a, aHeld⟩) (.integer ⟨kind, b, bHeld⟩) =
      .error .divideByZero := by
  obtain ⟨text, same⟩ := IntegerFormula.arithmetic_eq op ⟨kind, a, aHeld⟩ ⟨kind, b, bHeld⟩
  have undefined : (divides op && b == 0) = true := by simp [divides_iff, zero]
  rw [applyBinary_arithmetic arithmetic, same, numberResult, if_pos undefined]
  rfl

theorem applyBinary_checked :
    Checked kind (op.Computes a b)
      (applyBinary op (.integer ⟨kind, a, aHeld⟩) (.integer ⟨kind, b, bHeld⟩)) := by
  by_cases zero : (op = .divide ∨ op = .modulo) ∧ b = 0
  · rw [applyBinary_divideByZero aHeld bHeld arithmetic zero]
    refine .divideByZero ?_
    intro n computes
    exact (BinaryOp.computes_iff arithmetic).mp computes |>.1 zero
  · obtain ⟨text, same⟩ := IntegerFormula.arithmetic_eq op ⟨kind, a, aHeld⟩ ⟨kind, b, bHeld⟩
    have defined : ¬(divides op && b == 0) = true := by simpa [divides_iff] using zero
    have only (n : Int) : op.Computes a b n ↔ n = IntegerFormula.result op a b := by
      rw [BinaryOp.computes_iff arithmetic]
      simp only [zero, not_false_eq_true, true_and]
    rw [applyBinary_arithmetic arithmetic, same, numberResult, if_neg defined,
      integerResult?_eq arithmetic]
    cases found : intermediate? (IntegerFormula.result op a b) with
    -- What needs more than 128 bits is beyond every kind, so the early error is the right one.
    | none => exact .overflow only (not_holds_of_intermediate? found) text
    | some n =>
        rw [eq_of_intermediate? found] at only
        exact .ofInt only

end Operators

theorem negate_checked (aHeld : kind.Holds a) :
    Checked kind (· = -a) (applyUnary .negate (.integer ⟨kind, a, aHeld⟩)) :=
  .ofInt fun _ => Iff.rfl

def IsMagnitude (a n : Int) : Prop :=
  0 ≤ n ∧ (n = a ∨ n = -a)

theorem isMagnitude_iff {m : Int} : IsMagnitude a m ↔ m = a.natAbs := by
  rw [IsMagnitude]
  omega

theorem absolute_checked (aHeld : kind.Holds a) (id : Nat) (site : CallSite) {arg : Expr}
    (single : site.args = [arg]) :
    ∃ call, (Standard.absolute (.integer kind)).build id site = .ok (some call) ∧
      ∀ host row, arg.evaluate host row = .ok (.integer ⟨kind, a, aHeld⟩) →
        Checked kind (IsMagnitude a) (call.evaluate host row) := by
  refine ⟨_, rfl, ?_⟩
  intro host row evaluated
  simp only [single, Expr.evaluate, Expr.evaluateAll, evaluated]
  exact .ofInt fun _ => isMagnitude_iff

/-- Arithmetic on integers of one kind, negation and absolute values give the exact result if the
kind has it and an overflow if it does not; a division by zero is the one error besides. With null,
operators give null. The intermediate results, which may have 128 bits, are exact too: only a product
of two unsigned integers of 64 bits can need more, and that is found out. -/
theorem integer_arithmetic_checked {kind : IntegerKind} {a b : Int} (aHeld : kind.Holds a)
    (bHeld : kind.Holds b) {op : BinaryOp} (arithmetic : op.isArithmetic = true) :
    Checked kind (op.Computes a b)
      (applyBinary op (.integer ⟨kind, a, aHeld⟩) (.integer ⟨kind, b, bHeld⟩)) ∧
    (applyBinary op (.integer ⟨kind, a, aHeld⟩) (.integer ⟨kind, b, bHeld⟩) = .error .divideByZero ↔
      (op = .divide ∨ op = .modulo) ∧ b = 0) ∧
    Checked kind (· = -a) (applyUnary .negate (.integer ⟨kind, a, aHeld⟩)) ∧
    (∀ id site arg, site.args = [arg] →
      ∃ call, (Standard.absolute (.integer kind)).build id site = .ok (some call) ∧
        ∀ host row, arg.evaluate host row = .ok (.integer ⟨kind, a, aHeld⟩) →
          Checked kind (IsMagnitude a) (call.evaluate host row)) ∧
    (∀ other, applyBinary op .null other = .ok .null ∧ applyBinary op other .null = .ok .null) ∧
    applyUnary .negate .null = .ok .null ∧
    intermediate? (-a) = some (-a) ∧ intermediate? a.natAbs = some (a.natAbs : Int) ∧
    ∀ n, op.Computes a b n → integerResult? op a b = some n ∨
      (op = .multiply ∧ kind = .u64 ∧ integerResult? op a b = none) := by
  have bounds := aHeld.bounds
  have checked := applyBinary_checked aHeld bHeld arithmetic
  refine ⟨checked, ?_, negate_checked aHeld, fun id site _ => absolute_checked aHeld id site,
    applyBinary_null arithmetic, rfl, intermediate?_of_le (by omega), intermediate?_of_le (by omega),
    fun n => integerResult?_exact aHeld bHeld⟩
  constructor
  · intro failed
    by_contra defined
    have computes : op.Computes a b (IntegerFormula.result op a b) :=
      (BinaryOp.computes_iff arithmetic).mpr ⟨defined, rfl⟩
    obtain ⟨text, overflowed⟩ := checked.eq_overflow computes failed
    simp at overflowed
  · exact applyBinary_divideByZero aHeld bHeld arithmetic

/-- A product that no 128 bits hold, and a quotient that no 64 bits hold. -/
theorem integer_arithmetic_checked_extremes :
    (integerResult? .multiply 18446744073709551615 18446744073709551615 = none ∧
      ∃ text, applyBinary .multiply (.integer ⟨.u64, 18446744073709551615, by decide⟩)
        (.integer ⟨.u64, 18446744073709551615, by decide⟩) =
          .error (.overflow text (.integer .u64))) ∧
    ∃ text, applyBinary .divide (.integer ⟨.i64, -9223372036854775808, by decide⟩)
      (.integer ⟨.i64, -1, by decide⟩) = .error (.overflow text (.integer .i64)) := by
  have greatest : IntegerKind.u64.Holds 18446744073709551615 := by decide
  have least : IntegerKind.i64.Holds (-9223372036854775808) := by decide
  have minusOne : IntegerKind.i64.Holds (-1) := by decide
  have quotient : BinaryOp.divide.Computes (-9223372036854775808) (-1) 9223372036854775808 :=
    .divide (truncatedDivision_iff.mpr ⟨by decide, rfl, rfl⟩)
  have multiplies : BinaryOp.multiply.isArithmetic = true := rfl
  have divides : BinaryOp.divide.isArithmetic = true := rfl
  have product := (integer_arithmetic_checked greatest greatest multiplies).1
  have division := (integer_arithmetic_checked least minusOne divides).1
  exact ⟨⟨rfl, product.overflow_iff.mpr ⟨_, .multiply, by decide⟩⟩,
    division.overflow_iff.mpr ⟨_, quotient, by decide⟩⟩

end Value

end RowQuery
