import RowQuery.Proofs.Compiler.Binding
import RowQuery.Proofs.Query.Answer

/-!
Conditions of a query, one by one and all at once. A query with one condition passes over the rows on
which it is not true, whatever it is there. A query with several conditions tests them in turn, and
fails on a row where one that is tested is neither true nor false; otherwise it keeps the rows that
each of the conditions keeps.
-/

namespace RowQuery

def Query.filtered (conditions : List Formula) : Query :=
  { Query.everything with filters := conditions }

namespace CompiledQuery

variable {host : Host} {compiler : Compiler} {source : Ty}

def sieve (source : Ty) (conditions : List Expr) : CompiledQuery :=
  ⟨source, conjunction conditions, [], none, none, none⟩

/-! ### Binding -/

def BoundTo (compiler : Compiler) (source : Ty) : List Formula → List Expr → Prop :=
  List.Forall₂ fun condition expr => compiler.buildAs (.target source) condition .bool = .ok expr

theorem applyBinary_and {left right : Expr} (leftTyped : (left.ty == .bool) = true)
    (rightTyped : (right.ty == .bool) = true) :
    Expr.applyBinary .and left right = .ok (.binary .and left right) := by
  rw [Expr.applyBinary, Ty.eq_of_beq_plain rfl leftTyped, Ty.eq_of_beq_plain rfl rightTyped]
  rfl

theorem buildAs_bool {formula : Formula} {expr : Expr}
    (built : compiler.buildAs (.target source) formula .bool = .ok expr) :
    (expr.ty == .bool) = true :=
  Compiler.bind_ty (Compiler.buildAs_eq_ok.mp built)

theorem bindFilters_of_some {previous : Expr} (typed : (previous.ty == .bool) = true)
    {conditions : List Formula} {exprs : List Expr} (bound : BoundTo compiler source conditions exprs) :
    bindFilters compiler (.target source) (some previous) conditions =
      .ok (some (exprs.foldl (.binary .and) previous)) := by
  induction bound generalizing previous with
  | nil => rfl
  | cons built _ ih =>
      rw [bindFilters, built, Result.ok_bind]
      simp only [applyBinary_and typed (buildAs_bool built), Result.ok_bind]
      exact ih rfl

theorem compile_filtered {conditions : List Formula} {exprs : List Expr}
    (bound : BoundTo compiler source conditions exprs) (held : List Ty) (forge : Forge) :
    compile compiler held source (.filtered conditions) forge =
      (.ok (sieve source exprs), forge) := by
  have filters : bindFilters compiler (.target source) none conditions = .ok (conjunction exprs) := by
    cases bound with
    | nil => rfl
    | cons built rest =>
        rw [bindFilters, built]
        exact bindFilters_of_some (buildAs_bool built) rest
  simp only [compile, Query.filtered, filters]
  rfl

theorem filtered_bound {held : List Ty} {forge after : Forge} {condition : Formula}
    {compiled : CompiledQuery}
    (success : compile compiler held source (.filtered [condition]) forge = (.ok compiled, after)) :
    ∃ expr, compiler.buildAs (.target source) condition .bool = .ok expr ∧
      compiled = sieve source [expr] := by
  obtain ⟨conditions, parts⟩ := compile_bound success
  have filters : BoundTo compiler source [condition] conditions := parts.filters
  have same := success.symm.trans (compile_filtered filters held forge)
  cases filters with
  | cons built rest =>
      cases rest with
      | nil => exact ⟨_, built, by simpa using congrArg Prod.fst same⟩

/-! ### The rows that pass -/

theorem keyedRows_sieve {exprs : List Expr} {rows : List Value} {passes : Value → Bool}
    (admitted : ∀ row ∈ rows, (sieve source exprs).admits host row = .ok (passes row)) :
    (sieve source exprs).keyedRows host rows = .ok ((rows.filter passes).map (·, [])) := by
  induction rows with
  | nil => rfl
  | cons row rest ih =>
      obtain ⟨first, others⟩ := List.forall_mem_cons.mp admitted
      rw [keyedRows, first, Result.ok_bind, List.filter_cons]
      cases passes row with
      | false => exact ih others
      | true =>
          simp only [ih others, if_true, List.map_cons]
          rfl

theorem sortRows_tied {α : Type} {less : α → α → Bool} (rows : List α)
    (tied : ∀ a b, less a b = false) : sortRows less rows = rows := by
  have all : (sortRows less rows).filter (fun _ => true) = rows.filter fun _ => true :=
    filter_sortRows fun a _ b _ _ _ => tied a b
  simpa using all

theorem apply_sieve {exprs : List Expr} {rows : List Value} {passes : Value → Bool}
    (admitted : ∀ row ∈ rows, (sieve source exprs).admits host row = .ok (passes row)) :
    (sieve source exprs).apply host rows = .ok (rows.filter passes) := by
  rw [apply, keyedRows_sieve admitted, Result.ok_bind]
  have tied : ∀ a b : Value × List Value, (compareKeys (sieve source exprs).order a.2 b.2 == .lt) =
      false := fun _ _ => rfl
  have rest : ((rows.filter passes).map (·, ([] : List Value))).map (·.1) = rows.filter passes := by
    simp [List.map_map, Function.comp_def]
  simp only [sortRows_tied _ tied, rest]
  rfl

/-- If the test of a row fails, the query fails as the test of a row does. -/
theorem apply_fault {exprs : List Expr} {rows : List Value}
    (fails : ∃ row ∈ rows, ∃ fault, (sieve source exprs).admits host row = .error fault) :
    ∃ row ∈ rows, ∃ fault, (sieve source exprs).admits host row = .error fault ∧
      (sieve source exprs).apply host rows = .error fault := by
  suffices stops : ∃ row ∈ rows, ∃ fault, (sieve source exprs).admits host row = .error fault ∧
      (sieve source exprs).keyedRows host rows = .error fault by
    obtain ⟨row, member, fault, failed, stopped⟩ := stops
    refine ⟨row, member, fault, failed, ?_⟩
    rw [apply, stopped]
    rfl
  induction rows with
  | nil => simp at fails
  | cons row rest ih =>
      cases outcome : (sieve source exprs).admits host row with
      | error fault =>
          refine ⟨row, List.mem_cons_self, fault, outcome, ?_⟩
          rw [keyedRows, outcome]
          rfl
      | ok b =>
          have later : ∃ other ∈ rest, ∃ fault,
              (sieve source exprs).admits host other = .error fault := by
            simpa [outcome] using fails
          obtain ⟨other, member, fault, failed, stopped⟩ := ih later
          refine ⟨other, List.mem_cons_of_mem _ member, fault, failed, ?_⟩
          rw [keyedRows, outcome, Result.ok_bind, stopped]
          cases b <;> rfl

theorem admits_of_apply {exprs : List Expr} {rows answer : List Value}
    (answered : (sieve source exprs).apply host rows = .ok answer) :
    ∀ row ∈ rows, ∃ b, (sieve source exprs).admits host row = .ok b := by
  intro row member
  cases outcome : (sieve source exprs).admits host row with
  | ok b => exact ⟨b, rfl⟩
  | error fault =>
      obtain ⟨_, _, _, _, stopped⟩ := apply_fault ⟨row, member, fault, outcome⟩
      simp [answered] at stopped

/-! ### One condition -/

theorem bool?_eq_some_true {expr : Expr} {row value : Value}
    (evaluated : expr.evaluate host row = .ok value) :
    (value.bool? == some true) = holds host row expr := by
  rw [holds, evaluated]
  cases value with
  | bool b => cases b <;> rfl
  | _ => rfl

theorem admits_single {expr : Expr} {row value : Value}
    (evaluated : expr.evaluate host row = .ok value) :
    (sieve source [expr]).admits host row = .ok ([expr].all (holds host row)) := by
  simp only [admits, sieve, conjunction, List.foldl_nil, evaluated, Result.ok_bind,
    bool?_eq_some_true evaluated, List.all_cons, List.all_nil, Bool.and_true]
  rfl

/-- A query with one condition has a value of the condition for each row, and answers with the rows
on which it is true. -/
theorem apply_single {expr : Expr} {rows answer : List Value}
    (answered : (sieve source [expr]).apply host rows = .ok answer) :
    (∀ row ∈ rows, ∃ value, expr.evaluate host row = .ok value) ∧
      answer = retained host [expr] rows := by
  have evaluated : ∀ row ∈ rows, ∃ value, expr.evaluate host row = .ok value := by
    intro row member
    obtain ⟨b, admitted⟩ := admits_of_apply answered row member
    obtain ⟨value, evaluated, _⟩ := Result.bind_eq_ok.mp admitted
    exact ⟨value, evaluated⟩
  refine ⟨evaluated, ?_⟩
  have passed : (sieve source [expr]).apply host rows = .ok (retained host [expr] rows) := by
    refine apply_sieve fun row member => ?_
    obtain ⟨value, found⟩ := evaluated row member
    exact admits_single found
  exact Except.ok.inj (answered.symm.trans passed)

/-! ### Several conditions -/

theorem evaluate_conjunction_error {row : Value} {first : Expr} {fault : Error} (rest : List Expr)
    (failed : first.evaluate host row = .error fault) :
    (rest.foldl (.binary .and) first).evaluate host row = .error fault := by
  induction rest generalizing first with
  | nil => exact failed
  | cons condition rest ih =>
      apply ih
      rw [Expr.evaluate, failed]
      rfl

theorem truth_eq_error {value : Value} (strange : value.bool? = none) (place : String) :
    ∃ fault, value.truth place = .error fault ∧ fault.isMismatch = true := by
  rw [Value.truth, strange]
  exact ⟨_, rfl, rfl⟩

theorem eq_bool_of_bool? {value : Value} {b : Bool} (found : value.bool? = some b) :
    value = .bool b := by
  cases value <;> simp_all [Value.bool?]

/-- Two conditions that have values are a mismatch together, or they are tested as their conjunction
is. -/
theorem evaluate_and_cases {row value next : Value} {left right : Expr}
    (evaluated : left.evaluate host row = .ok value)
    (evaluatedNext : right.evaluate host row = .ok next) :
    (∃ fault, (Expr.binary .and left right).evaluate host row = .error fault ∧
      fault.isMismatch = true) ∨
    ∃ b, (Expr.binary .and left right).evaluate host row = .ok (.bool b) ∧
      ∀ rest, Tested host row (.binary .and left right :: rest) →
        Tested host row (left :: right :: rest) := by
  have joined : (Expr.binary .and left right).evaluate host row = _ := evaluate_and_truth evaluated
  rw [evaluatedNext, Result.ok_bind] at joined
  cases found : value.bool? with
  | none =>
      obtain ⟨fault, failed, mismatch⟩ := truth_eq_error found BinaryOp.and.symbol
      rw [failed] at joined
      exact .inl ⟨fault, joined, mismatch⟩
  | some b =>
      obtain rfl := eq_bool_of_bool? found
      cases b with
      | false => exact .inr ⟨false, joined, fun _ _ => ⟨false, evaluated, by simp⟩⟩
      | true =>
          cases foundNext : next.bool? with
          | none =>
              obtain ⟨fault, failed, mismatch⟩ := truth_eq_error foundNext BinaryOp.and.symbol
              rw [failed] at joined
              exact .inl ⟨fault, joined, mismatch⟩
          | some c =>
              obtain rfl := eq_bool_of_bool? foundNext
              refine .inr ⟨c, joined, fun rest tested => ⟨true, evaluated, fun _ => ?_⟩⟩
              obtain ⟨d, same, others⟩ := tested
              obtain rfl : c = d := Value.bool.inj (Except.ok.inj (joined.symm.trans same))
              exact ⟨c, evaluatedNext, others⟩

/-- A condition that is tested and neither true nor false is a mismatch, unless there is no other. -/
theorem evaluate_conjunction_untested {row : Value} {first : Expr} {rest : List Expr}
    (several : rest ≠ []) (evaluated : ∀ condition ∈ first :: rest, ∃ value,
      condition.evaluate host row = .ok value) (untested : ¬Tested host row (first :: rest)) :
    ∃ fault, (rest.foldl (.binary .and) first).evaluate host row = .error fault ∧
      fault.isMismatch = true := by
  induction rest generalizing first with
  | nil => contradiction
  | cons condition rest ih =>
      obtain ⟨⟨value, evaluatedFirst⟩, others⟩ := List.forall_mem_cons.mp evaluated
      obtain ⟨⟨next, evaluatedNext⟩, evaluatedRest⟩ := List.forall_mem_cons.mp others
      rw [List.foldl_cons]
      rcases evaluate_and_cases evaluatedFirst evaluatedNext with
        ⟨fault, failed, mismatch⟩ | ⟨b, joined, merge⟩
      · exact ⟨fault, evaluate_conjunction_error rest failed, mismatch⟩
      · have both : ¬Tested host row (.binary .and first condition :: rest) :=
          fun tested => untested (merge rest tested)
        refine ih ?_ (List.forall_mem_cons.mpr ⟨⟨_, joined⟩, evaluatedRest⟩) both
        rintro rfl
        exact both ⟨b, joined, fun _ => trivial⟩

/-- No test that a query makes comes out neither true nor false. A single condition counts as false
where it does. -/
def Decides (host : Host) (rows : List Value) (conditions : List Expr) : Prop :=
  conditions.length ≤ 1 ∨ ∀ row ∈ rows, Tested host row conditions

section Sieve

variable {rows : List Value} {exprs : List Expr}

theorem admits_of_decides (evaluated : ∀ row ∈ rows, ∀ expr ∈ exprs, ∃ value,
      expr.evaluate host row = .ok value) (decided : Decides host rows exprs) :
    ∀ row ∈ rows, (sieve source exprs).admits host row = .ok (exprs.all (holds host row)) := by
  intro row member
  rcases decided with few | tested
  · match exprs, few with
    | [], _ => rfl
    | [expr], _ =>
        obtain ⟨value, found⟩ := evaluated row member expr (by simp)
        exact admits_single found
  · exact admits_eq rfl (tested row member)

theorem apply_undecided (evaluated : ∀ row ∈ rows, ∀ expr ∈ exprs, ∃ value,
      expr.evaluate host row = .ok value) (undecided : ¬Decides host rows exprs) :
    ∃ fault, (sieve source exprs).apply host rows = .error fault ∧ fault.isMismatch = true := by
  obtain ⟨several, untested⟩ := not_or.mp undecided
  simp only [not_forall] at untested
  obtain ⟨first, second, rest, rfl⟩ : ∃ first second rest, exprs = first :: second :: rest := by
    rcases exprs with _ | ⟨first, _ | ⟨second, rest⟩⟩ <;> simp at several ⊢
  have fails : ∀ row ∈ rows, ¬Tested host row (first :: second :: rest) → ∃ fault,
      (sieve source (first :: second :: rest)).admits host row = .error fault ∧
        fault.isMismatch = true := by
    intro row member notTested
    obtain ⟨fault, failed, mismatch⟩ :=
      evaluate_conjunction_untested (by simp) (evaluated row member) notTested
    refine ⟨fault, ?_, mismatch⟩
    simp only [admits, sieve, conjunction, failed]
    rfl
  obtain ⟨row, member, notTested⟩ := untested
  obtain ⟨fault, failed, _⟩ := fails row member notTested
  obtain ⟨other, inside, found, failedThere, stopped⟩ := apply_fault ⟨row, member, fault, failed⟩
  refine ⟨found, stopped, ?_⟩
  by_cases tested : Tested host other (first :: second :: rest)
  · rw [admits_eq rfl tested] at failedThere
    simp at failedThere
  · obtain ⟨same, failedSame, mismatch⟩ := fails other inside tested
    rw [failedThere] at failedSame
    rwa [Except.error.inj failedSame]

end Sieve

def Answers (compiler : Compiler) (source : Ty) (host : Host) (rows : List Value) (query : Query)
    (answer : List Value) : Prop :=
  ∃ held forge compiled after, compile compiler held source query forge = (.ok compiled, after) ∧
    compiled.apply host rows = .ok answer

theorem exprs_of_answers {rows : List Value} {conditions : List Formula}
    {answers : List (List Value)}
    (each : List.Forall₂ (fun condition answer =>
      Answers compiler source host rows (.filtered [condition]) answer) conditions answers) :
    ∃ exprs, BoundTo compiler source conditions exprs ∧
      (∀ row ∈ rows, ∀ expr ∈ exprs, ∃ value, expr.evaluate host row = .ok value) ∧
      answers = exprs.map fun expr => retained host [expr] rows := by
  induction each with
  | nil => exact ⟨[], .nil, by simp, rfl⟩
  | cons answered _ ih =>
      obtain ⟨exprs, bound, evaluated, rfl⟩ := ih
      obtain ⟨held, forge, compiled, after, success, applied⟩ := answered
      obtain ⟨expr, built, rfl⟩ := filtered_bound success
      obtain ⟨evaluatedFirst, rfl⟩ := apply_single applied
      refine ⟨expr :: exprs, .cons built bound, ?_, rfl⟩
      intro row member
      exact List.forall_mem_cons.mpr ⟨evaluatedFirst row member, evaluated row member⟩

/-- If each condition alone can be answered, then all together can be bound. They keep the rows that
each of them keeps, in their order, unless a test that is made comes out neither true nor false; then
the query fails with a mismatch. -/
theorem filters_conjoin {rows : List Value} {conditions : List Formula} {answers : List (List Value)}
    (each : List.Forall₂ (fun condition answer =>
      Answers compiler source host rows (.filtered [condition]) answer) conditions answers) :
    ∃ exprs, BoundTo compiler source conditions exprs ∧
      (answers = exprs.map fun expr => retained host [expr] rows) ∧
      ∀ held forge, ∃ compiled,
        compile compiler held source (.filtered conditions) forge = (.ok compiled, forge) ∧
        (Decides host rows exprs → ∃ kept : Value → Bool,
          (∀ row ∈ rows, kept row = true ↔ ∀ answer ∈ answers, row ∈ answer) ∧
          compiled.apply host rows = .ok (rows.filter kept)) ∧
        (¬Decides host rows exprs →
          ∃ fault, compiled.apply host rows = .error fault ∧ fault.isMismatch = true) := by
  obtain ⟨exprs, bound, evaluated, rfl⟩ := exprs_of_answers each
  refine ⟨exprs, bound, rfl, fun held forge => ⟨sieve source exprs, ?_, ?_, ?_⟩⟩
  · exact compile_filtered bound held forge
  · intro decided
    refine ⟨fun row => exprs.all (holds host row), ?_, ?_⟩
    · intro row member
      simp [retained, member]
    · exact apply_sieve (admits_of_decides evaluated decided)
  · exact apply_undecided evaluated

theorem BoundTo.unique {conditions : List Formula} {exprs others : List Expr}
    (bound : BoundTo compiler source conditions exprs)
    (again : BoundTo compiler source conditions others) : exprs = others :=
  List.right_unique_forall₂' (fun _ _ _ first second => Except.ok.inj (first.symm.trans second))
    bound again

namespace Shelter

def animal : RecordType :=
  ⟨"Animal", none, [⟨"fed", .bool, .field, .shown, "Animal"⟩,
    ⟨"walked", .bool, .field, .shown, "Animal"⟩], []⟩

def puppy : RecordType :=
  ⟨"Puppy", some animal, [⟨"fed", .bool, .field, .shown, "Animal"⟩,
    ⟨"walked", .nullable .bool, .field, .shown, "Puppy"⟩], []⟩

def dog (fed walked : Bool) : Value :=
  .record animal [.bool fed, .bool walked]

def pup (fed : Bool) : Value :=
  .record puppy [.bool fed, .null]

def conditions : List Formula :=
  [.field "fed", .field "walked"]

def read (index : Nat) (name : String) : Expr :=
  .member (.target (.record animal)) (.record animal index ⟨name, .bool, .field, .shown, "Animal"⟩)

def fed : Expr := read 0 "fed"

def walked : Expr := read 1 "walked"

def forge : Forge := .plain (.new "Row")

theorem conditions_bound :
    BoundTo (.ofCatalog .empty) (.record animal) conditions [fed, walked] :=
  .cons rfl (.cons rfl .nil)

theorem answers_of {condition : Formula} {expr : Expr} {rows answer : List Value}
    (bound : BoundTo (.ofCatalog .empty) (.record animal) [condition] [expr])
    (answered : (sieve (.record animal) [expr]).apply Party.quiet rows = .ok answer) :
    Answers (.ofCatalog .empty) (.record animal) Party.quiet rows (.filtered [condition]) answer :=
  ⟨[], forge, _, forge, compile_filtered bound [] forge, answered⟩

def kennel : List Value :=
  [dog true true, dog true false, pup false]

end Shelter

open Shelter

theorem filters_conjoin_kennel :
    List.Forall₂ (fun condition answer => Answers (.ofCatalog .empty) (.record animal) Party.quiet
        kennel (.filtered [condition]) answer)
      conditions [[dog true true, dog true false], [dog true true]] ∧
    ∃ compiled kept, compile (.ofCatalog .empty) [] (.record animal) (.filtered conditions) forge =
        (.ok compiled, forge) ∧
      (∀ row ∈ kennel, kept row = true ↔
        ∀ answer ∈ [[dog true true, dog true false], [dog true true]], row ∈ answer) ∧
      compiled.apply Party.quiet kennel = .ok (kennel.filter kept) := by
  have each : List.Forall₂ (fun condition answer => Answers (.ofCatalog .empty) (.record animal)
      Party.quiet kennel (.filtered [condition]) answer)
      conditions [[dog true true, dog true false], [dog true true]] :=
    .cons (answers_of (.cons rfl .nil : BoundTo _ _ _ [fed]) rfl)
      (.cons (answers_of (.cons rfl .nil : BoundTo _ _ _ [walked]) rfl) .nil)
  obtain ⟨exprs, bound, _, together⟩ := filters_conjoin each
  obtain rfl := bound.unique conditions_bound
  obtain ⟨compiled, success, answered, _⟩ := together [] forge
  have tested : ∀ row ∈ kennel, Tested Party.quiet row [fed, walked] := by
    intro row member
    simp only [kennel, List.mem_cons, List.not_mem_nil, or_false] at member
    rcases member with rfl | rfl | rfl
    · exact ⟨true, rfl, fun _ => ⟨true, rfl, fun _ => trivial⟩⟩
    · exact ⟨true, rfl, fun _ => ⟨false, rfl, by simp⟩⟩
    · exact ⟨false, rfl, by simp⟩
  obtain ⟨kept, exactly, applied⟩ := answered (.inr tested)
  exact ⟨each, compiled, kept, success, exactly, applied⟩

/-- A puppy that was fed: each condition alone has an answer, and both together have none. -/
theorem null_condition_fails :
    Answers (.ofCatalog .empty) (.record animal) Party.quiet [pup true] (.filtered [.field "fed"])
      [pup true] ∧
    Answers (.ofCatalog .empty) (.record animal) Party.quiet [pup true] (.filtered [.field "walked"])
      [] ∧
    compile (.ofCatalog .empty) [] (.record animal) (.filtered conditions) forge =
      (.ok (sieve (.record animal) [fed, walked]), forge) ∧
    (sieve (.record animal) [fed, walked]).apply Party.quiet [pup true] =
      .error (.typeError "and expects bool, got null") :=
  ⟨answers_of (.cons rfl .nil : BoundTo _ _ _ [fed]) rfl,
    answers_of (.cons rfl .nil : BoundTo _ _ _ [walked]) rfl,
    compile_filtered conditions_bound [] forge, rfl⟩

end CompiledQuery

end RowQuery
