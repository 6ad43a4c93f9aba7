import RowQuery.Proofs.Calendar.Months
import RowQuery.Proofs.Standard.Calls

/-!
The functions on months fit together: a difference changes its sign with the order of its arguments
and does not decrease with the first of them, and it undoes an addition up to a day that a month
does not have.
-/

namespace RowQuery

def Formula.ofDate (t : DateTime) : Formula :=
  .constant (.dateTime t)

namespace Standard

def DifferenceGrows (answer : Formula → Result Value) (method : String) : Prop :=
  ∀ a b c : DateTime, a.parts ≤ b.parts → ∃ m k : I32, m.1 ≤ k.1 ∧
    answer (.call method [.ofDate a, .ofDate c]) = .ok m.value ∧
    answer (.call method [.ofDate b, .ofDate c]) = .ok k.value

/-- The functions on months fit together. Formulas have the values that `answer` gives. -/
structure MonthsCohere (answer : Formula → Result Value) : Prop where
  negated (a b : DateTime) : ∃ m k : I32, m.1 = -k.1 ∧
    answer (.call "diff_months" [.ofDate a, .ofDate b]) = .ok m.value ∧
    answer (.call "diff_months" [.ofDate b, .ofDate a]) = .ok k.value
  months_grow : DifferenceGrows answer "diff_months"
  years_grow : DifferenceGrows answer "diff_years"
  added (d : DateTime) (n : I32) (value : Value) :
    answer (.call "add_months" [.ofDate d, .ofI32 n]) = .ok value ↔
      ∃ later, d.MonthsLater n later ∧ value = .dateTime later
  undone (d later : DateTime) (n : I32) :
    answer (.call "add_months" [.ofDate d, .ofI32 n]) = .ok (.dateTime later) →
      ∃ m : I32,
        answer (.call "diff_months" [.call "add_months" [.ofDate d, .ofI32 n], .ofDate d]) =
          .ok m.value ∧
        m.1 = if 0 < n.1 ∧ Date.daysInMonth later.date.year later.date.month < d.date.day then
          n.1 - 1 else n.1
  years_as_months (d : DateTime) (y : I32) (value : Value) :
    answer (.call "add_years" [.ofDate d, .ofI32 y]) = .ok value ↔
      ∃ n : I32, n.1 = 12 * y.1 ∧ answer (.call "add_months" [.ofDate d, .ofI32 n]) = .ok value
  years_overflow (d : DateTime) (y : I32) : ¬IntegerKind.i32.Holds (12 * y.1) →
    answer (.call "add_years" [.ofDate d, .ofI32 y]) = .error (outsideCalendar "add_years")

theorem withinCalendar_eq_ok {method : String} {found : Option DateTime} {value : Value} :
    withinCalendar method found = .ok value ↔
      ∃ later, found = some later ∧ value = .dateTime later := by
  cases found <;> simp [withinCalendar, eq_comm]

theorem holds_difference (a b : DateTime) (unit : Int) :
    IntegerKind.i32.Holds ((a.monthsSince b).tdiv unit) := by
  have bounds := DateTime.monthsSince_bounds a b
  have smaller := Int.natAbs_tdiv_le_natAbs (a.monthsSince b) unit
  rw [IntegerKind.holds_i32]
  omega

section

variable {compiler : Compiler} {settings : FunctionSettings} {target : Expr} {host : Host}
  {row : Value} (library : compiler.catalog = .ofSettings settings)
  (standard : settings.standardLibrary = true) {method : String} {unit : Int}

include library standard

theorem answer_monthDifference (listed : monthDifference method unit ∈ calendar)
    {args : List Formula} {a b : DateTime}
    (typed : List.Forall₂ (compiler.Types target) args [.dateTime, .dateTime])
    (read : args.mapM (compiler.answer target host row) = .ok [.dateTime a, .dateTime b]) :
    ∃ m : I32, m.1 = (a.monthsSince b).tdiv unit ∧
      compiler.answer target host row (.call method args) = .ok m.value := by
  refine ⟨⟨_, holds_difference a b unit⟩, rfl, ?_⟩
  rw [answer_call library standard (List.mem_append_right _ listed) typed, read, Result.ok_bind,
    dateArg_eq rfl, Result.ok_bind, dateArg_eq rfl, Result.ok_bind,
    Value.ofInt_of_holds (holds_difference a b unit)]
  rfl

theorem answer_dates (listed : monthDifference method unit ∈ calendar) (a b : DateTime) :
    ∃ m : I32, m.1 = (a.monthsSince b).tdiv unit ∧
      compiler.answer target host row (.call method [.ofDate a, .ofDate b]) = .ok m.value :=
  answer_monthDifference library standard listed
    (Compiler.types_constants [.dateTime a, .dateTime b])
    (Compiler.mapM_answer_constants [.dateTime a, .dateTime b])

theorem difference_grows (listed : monthDifference method unit ∈ calendar) (positive : 0 < unit) :
    DifferenceGrows (compiler.answer target host row) method := by
  intro a b c ordered
  obtain ⟨m, first, aAnswer⟩ := answer_dates library standard listed a c
  obtain ⟨k, second, bAnswer⟩ := answer_dates library standard listed b c
  refine ⟨m, k, ?_, aAnswer, bAnswer⟩
  rw [first, second]
  exact Int.tdiv_le_tdiv positive (DateTime.monthsSince_mono ordered c)

theorem answer_monthAddition (listed : monthAddition method unit ∈ calendar) (d : DateTime)
    (n : I32) : compiler.answer target host row (.call method [.ofDate d, .ofI32 n]) =
      withinCalendar method
        (if IntegerKind.i32.Holds (n.1 * unit) then d.addMonths? (n.1 * unit) else none) := by
  refine (answer_values library standard (List.mem_append_right _ listed) [.dateTime d, n.value] rfl
    host row).trans ?_
  rw [dateArg_eq rfl, Result.ok_bind, indexArg_eq rfl, Result.ok_bind]

theorem answer_months (d : DateTime) (n : I32) (value : Value) :
    compiler.answer target host row (.call "add_months" [.ofDate d, .ofI32 n]) = .ok value ↔
      ∃ later, d.MonthsLater n later ∧ value = .dateTime later := by
  have listed : monthAddition "add_months" 1 ∈ calendar := by simp [calendar]
  rw [answer_monthAddition library standard listed, withinCalendar_eq_ok, Int.mul_one, if_pos n.2]
  simp only [DateTime.addMonths?_eq_some]

theorem answer_years (d : DateTime) (y : I32) :
    compiler.answer target host row (.call "add_years" [.ofDate d, .ofI32 y]) =
      withinCalendar "add_years"
        (if IntegerKind.i32.Holds (12 * y.1) then d.addMonths? (12 * y.1) else none) := by
  have listed : monthAddition "add_years" 12 ∈ calendar := by simp [calendar]
  rw [answer_monthAddition library standard listed, Int.mul_comm]

theorem calendar_months_cohere : MonthsCohere (compiler.answer target host row) := by
  have monthsListed : monthDifference "diff_months" 1 ∈ calendar := by simp [calendar]
  have yearsListed : monthDifference "diff_years" 12 ∈ calendar := by simp [calendar]
  constructor
  case negated =>
    intro a b
    obtain ⟨m, first, forth⟩ := answer_dates library standard monthsListed a b
    obtain ⟨k, second, back⟩ := answer_dates library standard monthsListed b a
    refine ⟨m, k, ?_, forth, back⟩
    rw [first, second, Int.tdiv_one, Int.tdiv_one]
    exact DateTime.monthsSince_neg a b
  case months_grow => exact difference_grows library standard monthsListed (by decide)
  case years_grow => exact difference_grows library standard yearsListed (by decide)
  case added => exact answer_months library standard
  case undone =>
    intro d later n moved
    have addListed : monthAddition "add_months" 1 ∈ calendar := by simp [calendar]
    have moves : compiler.Types target (.call "add_months" [.ofDate d, .ofI32 n]) .dateTime :=
      types_call library standard (List.mem_append_right _ addListed)
        (Compiler.types_constants [.dateTime d, n.value])
    have read : [.call "add_months" [.ofDate d, .ofI32 n], .ofDate d].mapM
        (compiler.answer target host row) = .ok [.dateTime later, .dateTime d] := by
      simp only [List.mapM_cons, List.mapM_nil, moved]
      rfl
    obtain ⟨m, counted, answered⟩ := answer_monthDifference library standard monthsListed
      (.cons moves (.cons (Compiler.types_constant _) .nil)) read
    obtain ⟨_, isLater, same⟩ := (answer_months library standard d n _).mp moved
    obtain rfl := Value.dateTime.inj same
    refine ⟨m, answered, ?_⟩
    rw [counted, Int.tdiv_one, isLater.monthsSince_eq]
  case years_as_months =>
    intro d y value
    simp only [answer_years library standard, withinCalendar_eq_ok, answer_months library standard]
    by_cases held : IntegerKind.i32.Holds (12 * y.1)
    · simp only [if_pos held, DateTime.addMonths?_eq_some]
      constructor
      · intro moved
        exact ⟨⟨12 * y.1, held⟩, rfl, moved⟩
      · rintro ⟨n, same, moved⟩
        rwa [same] at moved
    · simp only [if_neg held, reduceCtorEq, false_and, exists_false, false_iff]
      rintro ⟨n, same, _⟩
      exact held (same ▸ n.2)
  case years_overflow =>
    intro d y beyond
    rw [answer_years library standard, if_neg beyond]
    rfl

end

def monthEnd : DateTime :=
  { DateTime.epoch with date := ⟨2024, 1, 31, by decide⟩ }

def leapDay : DateTime :=
  { DateTime.epoch with date := ⟨2024, 2, 29, by decide⟩ }

/-- A month after the end of January is the end of February, to which it is not a whole month. -/
theorem calendar_months_cohere_leapDay :
    MonthsCohere rowless ∧
      rowless (.call "add_months" [.ofDate monthEnd, .ofI32 .one]) = .ok (.dateTime leapDay) ∧
      rowless (.call "diff_months" [.call "add_months" [.ofDate monthEnd, .ofI32 .one],
        .ofDate monthEnd]) = .ok I32.zero.value := by
  have cohere : MonthsCohere rowless := calendar_months_cohere standard_library rfl
  have isLater : monthEnd.MonthsLater I32.one leapDay := ⟨rfl, rfl, rfl, rfl⟩
  have moved := (cohere.added monthEnd .one _).mpr ⟨leapDay, isLater, rfl⟩
  obtain ⟨m, answered, counted⟩ := cohere.undone monthEnd leapDay .one moved
  have zero : m = .zero := Subtype.ext counted
  rw [zero] at answered
  exact ⟨cohere, moved, answered⟩

end Standard

end RowQuery
