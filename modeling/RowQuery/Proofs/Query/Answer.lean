import RowQuery.Proofs.Expr.Typing
import RowQuery.Proofs.Query.Sorting

/-!
What a query answers: the rows that meet all of its conditions, sorted by its keys, the page of them
that it asks for, and the selection from each row of the page.
-/

namespace RowQuery.CompiledQuery

variable {host : Host}

def conjunction : List Expr → Option Expr
  | [] => none
  | first :: rest => some (rest.foldl (.binary .and) first)

structure Bound (compiler : Compiler) (held : List Ty) (source : Ty) (query : Query) (forge : Forge)
    (conditions : List Expr) (compiled : CompiledQuery) (after : Forge) : Prop where
  filters : List.Forall₂
    (fun formula condition => compiler.buildAs (.target source) formula .bool = .ok condition)
    query.filters conditions
  filter : compiled.filter = conjunction conditions
  order : List.Forall₂
    (fun (key : SortKey) (bound : CompiledKey) =>
      compiler.build (.target source) key.formula = .ok bound.expr ∧ bound.ascending = key.ascending)
    query.order compiled.order
  skip : compiled.skip = query.skip
  take : compiled.take = query.take
  selection : match query.selection with
    | none => compiled.projection = none
    | some selection => ∃ projection, compiled.projection = some projection ∧
        Projection.compile compiler held (.target source) selection forge = (.ok projection, after)

theorem bindFilters_some {compiler : Compiler} {target previous : Expr} {formulas : List Formula}
    {filter : Option Expr} (bound : bindFilters compiler target (some previous) formulas = .ok filter) :
    ∃ conditions, List.Forall₂
      (fun formula condition => compiler.buildAs target formula .bool = .ok condition)
      formulas conditions ∧ filter = some (conditions.foldl (.binary .and) previous) := by
  induction formulas generalizing previous with
  | nil => exact ⟨[], .nil, (Except.ok.inj bound).symm⟩
  | cons formula formulas ih =>
      rw [bindFilters] at bound
      obtain ⟨condition, built, bound⟩ := Result.bind_eq_ok.mp bound
      obtain ⟨both, joined, bound⟩ := Result.bind_eq_ok.mp bound
      obtain ⟨conditions, each, rfl⟩ := ih bound
      obtain ⟨_, _, rfl⟩ := Expr.applyBinary_eq_ok joined
      exact ⟨condition :: conditions, .cons built each, rfl⟩

theorem bindFilters_none {compiler : Compiler} {target : Expr} {formulas : List Formula}
    {filter : Option Expr} (bound : bindFilters compiler target none formulas = .ok filter) :
    ∃ conditions, List.Forall₂
      (fun formula condition => compiler.buildAs target formula .bool = .ok condition)
      formulas conditions ∧ filter = conjunction conditions := by
  cases formulas with
  | nil => exact ⟨[], .nil, (Except.ok.inj bound).symm⟩
  | cons formula formulas =>
      rw [bindFilters] at bound
      obtain ⟨condition, built, bound⟩ := Result.bind_eq_ok.mp bound
      obtain ⟨conditions, each, rfl⟩ := bindFilters_some bound
      exact ⟨condition :: conditions, .cons built each, rfl⟩

theorem bindOrder_eq_ok {compiler : Compiler} {target : Expr} {order : List SortKey}
    {keys : List CompiledKey} (bound : bindOrder compiler target order = .ok keys) :
    List.Forall₂ (fun (key : SortKey) (bound : CompiledKey) =>
      compiler.build target key.formula = .ok bound.expr ∧ bound.ascending = key.ascending)
      order keys := by
  induction order generalizing keys with
  | nil =>
      rw [← Except.ok.inj bound]
      exact .nil
  | cons key order ih =>
      rw [bindOrder] at bound
      obtain ⟨expr, built, bound⟩ := Result.bind_eq_ok.mp bound
      obtain ⟨others, boundOthers, bound⟩ := Result.bind_eq_ok.mp bound
      rw [← Result.pure_eq_ok.mp bound]
      exact .cons ⟨built, rfl⟩ (ih boundOthers)

theorem bindParts_eq_ok {compiler : Compiler} {target : Expr} {query : Query} {filter : Option Expr}
    {keys : List CompiledKey}
    (bound : (do
      let filter ← bindFilters compiler target none query.filters
      let order ← bindOrder compiler target query.order
      return (filter, order)) = Except.ok (filter, keys)) :
    (∃ conditions, List.Forall₂
      (fun formula condition => compiler.buildAs target formula .bool = .ok condition)
      query.filters conditions ∧ filter = conjunction conditions) ∧
    List.Forall₂ (fun (key : SortKey) (bound : CompiledKey) =>
      compiler.build target key.formula = .ok bound.expr ∧ bound.ascending = key.ascending)
      query.order keys := by
  obtain ⟨_, filters, bound⟩ := Result.bind_eq_ok.mp bound
  obtain ⟨_, order, bound⟩ := Result.bind_eq_ok.mp bound
  obtain ⟨rfl, rfl⟩ := Prod.mk.inj (Result.pure_eq_ok.mp bound)
  exact ⟨bindFilters_none filters, bindOrder_eq_ok order⟩

theorem compile_bound {compiler : Compiler} {held : List Ty} {source : Ty} {query : Query}
    {forge after : Forge} {compiled : CompiledQuery}
    (success : compile compiler held source query forge = (.ok compiled, after)) :
    ∃ conditions, Bound compiler held source query forge conditions compiled after := by
  unfold compile at success
  simp only at success
  split at success
  case h_1 => simp at success
  case h_2 filter keys parts none =>
    obtain ⟨⟨conditions, each, rfl⟩, order⟩ := bindParts_eq_ok parts
    obtain ⟨⟨⟩, rfl⟩ := Prod.mk.inj success
    exact ⟨conditions, each, rfl, order, rfl, rfl, by rw [none]⟩
  case h_3 filter keys selection parts chosen =>
    obtain ⟨⟨conditions, each, rfl⟩, order⟩ := bindParts_eq_ok parts
    split at success
    case h_1 => simp at success
    case h_2 projection changed projected =>
      obtain ⟨⟨⟩, rfl⟩ := Prod.mk.inj success
      refine ⟨conditions, each, rfl, order, rfl, rfl, ?_⟩
      rw [chosen]
      exact ⟨projection, rfl, projected⟩

def holds (host : Host) (row : Value) (condition : Expr) : Bool :=
  match condition.evaluate host row with
  | .ok (.bool b) => b
  | _ => false

def retained (host : Host) (conditions : List Expr) (rows : List Value) : List Value :=
  rows.filter fun row => conditions.all (holds host row)

/-- The conditions are tested from the first to the last until one of them is false, and each that is
tested is true or false. -/
def Tested (host : Host) (row : Value) : List Expr → Prop
  | [] => True
  | condition :: rest => ∃ b, condition.evaluate host row = .ok (.bool b) ∧
      (b = true → Tested host row rest)

theorem Tested.of_boolean {row : Value} {conditions : List Expr}
    (boolean : ∀ condition ∈ conditions, ∃ b, condition.evaluate host row = .ok (.bool b)) :
    Tested host row conditions := by
  induction conditions with
  | nil => trivial
  | cons condition rest ih =>
      obtain ⟨⟨b, evaluated⟩, others⟩ := List.forall_mem_cons.mp boolean
      exact ⟨b, evaluated, fun _ => ih others⟩

theorem evaluate_and_truth {row value : Value} {left right : Expr}
    (evaluated : left.evaluate host row = .ok value) :
    (Expr.binary .and left right).evaluate host row =
      value.truth BinaryOp.and.symbol >>= fun b =>
        if b then (do return .bool (← (← right.evaluate host row).truth BinaryOp.and.symbol))
        else .ok (.bool false) := by
  rw [Expr.evaluate, evaluated]
  rfl

theorem evaluate_conjunction {row : Value} {first : Expr} {b : Bool} {rest : List Expr}
    (evaluated : first.evaluate host row = .ok (.bool b)) (tested : b = true → Tested host row rest) :
    (rest.foldl (.binary .and) first).evaluate host row =
      .ok (.bool (b && rest.all (holds host row))) := by
  induction rest generalizing first b with
  | nil => simpa using evaluated
  | cons condition rest ih =>
      rw [List.foldl_cons, List.all_cons]
      have joined : (Expr.binary .and first condition).evaluate host row = _ :=
        evaluate_and_truth evaluated
      cases b with
      | false => exact ih joined (by simp)
      | true =>
          obtain ⟨next, evaluatedNext, others⟩ := tested rfl
          have both : (Expr.binary .and first condition).evaluate host row = .ok (.bool next) := by
            rw [joined, evaluatedNext]
            rfl
          rw [ih both others, holds, evaluatedNext, Bool.true_and]

theorem admits_eq {query : CompiledQuery} {conditions : List Expr} {row : Value}
    (filter : query.filter = conjunction conditions) (tested : Tested host row conditions) :
    query.admits host row = .ok (conditions.all (holds host row)) := by
  cases conditions with
  | nil => simp [admits, filter, conjunction]
  | cons first rest =>
      obtain ⟨b, evaluated, others⟩ := tested
      have whole := evaluate_conjunction evaluated others
      simp only [admits, filter, conjunction, whole, List.all_cons, holds, evaluated]
      cases hb : (b && rest.all (holds host row)) <;> rfl

theorem keyedRows_eq_ok {query : CompiledQuery} {conditions : List Expr} {rows : List Value}
    (filter : query.filter = conjunction conditions)
    (boolean : ∀ row ∈ rows, ∀ condition ∈ conditions, ∃ b,
      condition.evaluate host row = .ok (.bool b))
    (keys : ∀ row ∈ retained host conditions rows, ∃ values,
      Expr.evaluateAll host row (query.order.map (·.expr)) = .ok values) :
    ∃ keyed, query.keyedRows host rows = .ok keyed ∧
      keyed.map (·.1) = retained host conditions rows ∧ ∀ pair ∈ keyed,
        Expr.evaluateAll host pair.1 (query.order.map (·.expr)) = .ok pair.2 := by
  induction rows with
  | nil => exact ⟨[], rfl, rfl, by simp⟩
  | cons row rest ih =>
      obtain ⟨booleanRow, booleanRest⟩ := List.forall_mem_cons.mp boolean
      have admitted := admits_eq filter (.of_boolean booleanRow)
      cases met : conditions.all (holds host row) with
      | false =>
          have same : retained host conditions (row :: rest) = retained host conditions rest := by
            simp [retained, met]
          rw [same] at keys ⊢
          obtain ⟨keyed, found, others⟩ := ih booleanRest keys
          refine ⟨keyed, ?_, others⟩
          rw [keyedRows, admitted, met]
          exact found
      | true =>
          have more : retained host conditions (row :: rest) =
              row :: retained host conditions rest := by
            simp [retained, met]
          rw [more] at keys ⊢
          obtain ⟨⟨values, evaluated⟩, keysRest⟩ := List.forall_mem_cons.mp keys
          obtain ⟨keyed, found, same, others⟩ := ih booleanRest keysRest
          refine ⟨(row, values) :: keyed, ?_, by simp [same], ?_⟩
          · rw [keyedRows, admitted, met]
            simp only [Result.ok_bind, if_true, evaluated, found]
            rfl
          · exact List.forall_mem_cons.mpr ⟨evaluated, others⟩

/-- The order in which a query takes rows: each after those that precede it by the keys, and rows of
which none precedes another as they were. -/
structure Ordered (host : Host) (keys : List CompiledKey) (rows sorted : List Value) : Prop where
  perm : sorted.Perm rows
  ascending : sorted.Pairwise fun earlier later => ¬Precedes host keys later earlier
  stable : ∀ kept : Value → Bool, (∀ a ∈ rows, ∀ b ∈ rows, kept a = true → kept b = true →
    ¬Precedes host keys a b) → sorted.filter kept = rows.filter kept

theorem sortRows_ordered {keys : List CompiledKey} {keyed : List (Value × List Value)}
    (uniform : ∀ key ∈ keys, key.Uniform host (· ∈ keyed.map (·.1)))
    (evaluated : ∀ pair ∈ keyed, Expr.evaluateAll host pair.1 (keys.map (·.expr)) = .ok pair.2) :
    Ordered host keys (keyed.map (·.1))
      ((sortRows (fun a b => compareKeys keys a.2 b.2 == .lt) keyed).map (·.1)) := by
  have compared : ∀ a ∈ keyed, ∀ b ∈ keyed,
      ((compareKeys keys a.2 b.2 == .lt) = true ↔ Precedes host keys a.1 b.1) := by
    intro a memberA b memberB
    rw [beq_iff_eq]
    exact compareKeys_lt uniform (List.mem_map_of_mem memberA) (List.mem_map_of_mem memberB)
      (evaluated a memberA) (evaluated b memberB)
  have order : WeakOrder (· ∈ keyed) fun a b => (compareKeys keys a.2 b.2 == .lt) = true := by
    apply (precedes_weakOrder uniform).pull fun pair row => pair ∈ keyed ∧ pair.1 = row
    · intro pair member
      exact ⟨pair.1, ⟨member, rfl⟩, List.mem_map_of_mem member⟩
    · rintro a b _ _ ⟨memberA, rfl⟩ ⟨memberB, rfl⟩
      exact compared a memberA b memberB
  have perm := sortRows_perm (fun a b => compareKeys keys a.2 b.2 == .lt) keyed
  constructor
  · exact perm.map _
  · rw [List.pairwise_map]
    refine (sortRows_sorted order fun _ member => member).imp_of_mem ?_
    intro earlier later memberEarlier memberLater notBefore
    rwa [compared later (perm.mem_iff.mp memberLater) earlier (perm.mem_iff.mp memberEarlier)]
      at notBefore
  · intro kept tied
    rw [List.filter_map, List.filter_map, filter_sortRows]
    intro a memberA b memberB keptA keptB
    rw [← Bool.not_eq_true, compared a memberA b memberB]
    exact tied a.1 (List.mem_map_of_mem memberA) b.1 (List.mem_map_of_mem memberB) keptA keptB

inductive Selects (host : Host) : Option Projection → List Value → Result (List Value) → Prop where
  | rows (page : List Value) : Selects host none page (.ok page)
  | values (projection : Projection) (page values : List Value)
      (each : List.Forall₂ (fun row value => projection.apply host row = .ok value) page values) :
      Selects host (some projection) page (.ok values)
  | fault (projection : Projection) (before : List Value) (row : Value) (after : List Value)
      (error : Error) (succeed : ∀ earlier ∈ before, ∃ value, projection.apply host earlier = .ok value)
      (fails : projection.apply host row = .error error) :
      Selects host (some projection) (before ++ row :: after) (.error error)

theorem projectAll_selects (host : Host) (projection : Projection) (page : List Value) :
    Selects host (some projection) page (projectAll host projection page) := by
  induction page with
  | nil => exact .values projection [] [] .nil
  | cons row rest ih =>
      rw [projectAll]
      cases outcome : projection.apply host row with
      | error error => exact .fault projection [] row rest error (by simp) outcome
      | ok value =>
          rw [Result.ok_bind]
          generalize projectAll host projection rest = others at ih ⊢
          cases ih with
          | values _ _ values each => exact .values projection _ _ (.cons outcome each)
          | fault _ before failing after error succeed fails =>
              exact .fault projection (row :: before) failing after error
                (List.forall_mem_cons.mpr ⟨⟨value, outcome⟩, succeed⟩) fails

theorem page_eq (query : CompiledQuery) {α : Type} (rows : List α) :
    query.page rows = (rows.drop (query.skip.getD 0)).take (query.take.getD rows.length) := by
  unfold page
  cases query.take with
  | some count => rfl
  | none => simp [List.take_of_length_le]

theorem evaluateAll_of_uniform {among : Value → Prop} {keys : List CompiledKey} {row : Value}
    (uniform : ∀ key ∈ keys, key.Uniform host among) (inside : among row) :
    ∃ values, Expr.evaluateAll host row (keys.map (·.expr)) = .ok values := by
  induction keys with
  | nil => exact ⟨[], rfl⟩
  | cons key keys ih =>
      obtain ⟨⟨_, first⟩, others⟩ := List.forall_mem_cons.mp uniform
      obtain ⟨value, evaluated, _⟩ := first row inside
      obtain ⟨values, evaluatedRest⟩ := ih others
      exact ⟨value :: values, evaluateAll_cons_eq_ok.mpr ⟨value, values, evaluated, evaluatedRest, rfl⟩⟩

/-- A bound query takes the rows of which all conditions are true in the order of its keys, and
answers with the selection from a page of them. -/
theorem apply_answers {compiler : Compiler} {held : List Ty} {source : Ty} {query : Query}
    {forge after : Forge} {compiled : CompiledQuery}
    (success : compile compiler held source query forge = (.ok compiled, after)) :
    ∃ conditions, Bound compiler held source query forge conditions compiled after ∧
      ∀ (host : Host) (rows : List Value),
        (∀ row ∈ rows, ∀ condition ∈ conditions, ∃ b,
          condition.evaluate host row = .ok (.bool b)) →
        (∀ key ∈ compiled.order, key.Uniform host (· ∈ retained host conditions rows)) →
        ∃ sorted, Ordered host compiled.order (retained host conditions rows) sorted ∧
          Selects host compiled.projection
            ((sorted.drop (query.skip.getD 0)).take (query.take.getD sorted.length))
            (compiled.apply host rows) := by
  obtain ⟨conditions, bound⟩ := compile_bound success
  refine ⟨conditions, bound, ?_⟩
  intro host rows boolean uniform
  obtain ⟨keyed, found, same, evaluated⟩ := keyedRows_eq_ok bound.filter boolean
    fun row member => evaluateAll_of_uniform uniform member
  rw [← same] at uniform ⊢
  refine ⟨_, sortRows_ordered uniform evaluated, ?_⟩
  rw [← bound.skip, ← bound.take, ← page_eq, apply, found, Result.ok_bind]
  cases compiled.projection with
  | none => exact .rows _
  | some projection => exact projectAll_selects host projection _

namespace Party

def chair : RecordType :=
  ⟨"Chair", none, [⟨"number", .i32, .field, .shown, "Chair"⟩], []⟩

def guest : RecordType :=
  ⟨"Guest", none, [⟨"coming", .bool, .field, .shown, "Guest"⟩,
    ⟨"age", .nullable .i32, .field, .shown, "Guest"⟩,
    ⟨"chair", .record chair, .field, .shown, "Guest"⟩], []⟩

def query : Query :=
  ⟨some [("at", .field "chair.number")], [.field "coming"], [⟨.field "age", false⟩], some 1, some 2⟩

def forge : Forge := .plain (.new "Seat")

def read (index : Nat) (name : String) (ty : Ty) : Expr :=
  .member (.target (.record guest)) (.record guest index ⟨name, ty, .field, .shown, "Guest"⟩)

def coming : Expr := read 0 "coming" .bool

def age : Expr := read 1 "age" (.nullable .i32)

def number : Expr :=
  .member (read 2 "chair" (.record chair)) (.record chair 0 ⟨"number", .i32, .field, .shown, "Chair"⟩)

def seated : Shape := ⟨0, "Seat#0", 0, [⟨"at", .i32⟩]⟩

def bound : CompiledQuery :=
  ⟨.record guest, some coming, [⟨age, false⟩], some 1, some 2,
    some ⟨seated, .construct seated [(0, number)]⟩⟩

def used : Forge := .plain ⟨"Seat", ⟨0, [0]⟩, [], 0, 1⟩

theorem seated_generated : forge.generate [] [⟨"at", .i32⟩] = (.ok seated, used) := by
  rw [forge, Forge.generate]
  rfl

theorem selection_bound : Projection.compile (.ofCatalog .empty) [] (.target (.record guest))
    [("at", .field "chair.number")] forge = (.ok ⟨seated, .construct seated [(0, number)]⟩, used) := by
  have exprs : Projection.bindSelection (.ofCatalog .empty) (.target (.record guest))
      [("at", .field "chair.number")] = .ok [("at", number)] := rfl
  have property : Projection.propertyFor "at" number = ⟨"at", .i32⟩ := rfl
  rw [Projection.compile, exprs]
  simp only [List.map_cons, List.map_nil, property, seated_generated]
  rfl

theorem query_bound : CompiledQuery.compile (.ofCatalog .empty) [] (.record guest) query forge =
    (.ok bound, used) := by
  have filters : CompiledQuery.bindFilters (.ofCatalog .empty) (.target (.record guest)) none
      query.filters = .ok (some coming) := rfl
  have order : CompiledQuery.bindOrder (.ofCatalog .empty) (.target (.record guest)) query.order =
      .ok [⟨age, false⟩] := rfl
  rw [CompiledQuery.compile, filters, order]
  simp only [query, Result.ok_bind, pure, Except.pure, selection_bound]
  rfl

def quiet : Host := ⟨fun _ value => .ok value, .epoch⟩

def years (age : Int) : Value :=
  ((Integer.ofInt? .i32 age).map .integer).getD .null

def person (coming : Bool) (age chair : Value) : Value :=
  .record guest [.bool coming, age, chair]

def seatOf (number : Value) : Value :=
  .record chair [number]

def guests : List Value :=
  [person true .null .null, person true (years 30) (seatOf (years 1)),
    person true (years 50) (seatOf (years 2)), person false (years 90) (seatOf (years 3)),
    person true (years 30) (seatOf (years 4))]

end Party

open Party

/-- The page has the two guests of one age. The guest without a chair is not on it. -/
theorem apply_answers_party :
    compile (.ofCatalog .empty) [] (.record guest) query forge = (.ok bound, used) ∧
    retained quiet [coming] guests = guests.eraseIdx 3 ∧
    (∃ sorted, Ordered quiet bound.order (retained quiet [coming] guests) sorted ∧
      Selects quiet bound.projection ((sorted.drop 1).take 2) (bound.apply quiet guests)) ∧
    bound.apply quiet guests = .ok [.shape seated [years 1], .shape seated [years 4]] := by
  obtain ⟨conditions, parts, answers⟩ := apply_answers query_bound
  have found : conditions = [coming] := by
    have filters : List.Forall₂ _ [Formula.field "coming"] conditions := parts.filters
    cases filters with
    | cons first rest =>
        cases rest with
        | nil =>
            have built : Compiler.buildAs (.ofCatalog .empty) (.target (.record guest))
              (.field "coming") .bool = .ok coming := rfl
            rw [Except.ok.inj (first.symm.trans built)]
  subst found
  refine ⟨query_bound, rfl, answers quiet guests ?_ ?_, rfl⟩
  · intro row member condition only
    rw [List.mem_singleton.mp only]
    simp only [guests, List.mem_cons, List.not_mem_nil, or_false] at member
    rcases member with rfl | rfl | rfl | rfl | rfl <;> exact ⟨_, rfl⟩
  · intro key only
    rw [List.mem_singleton.mp only]
    refine ⟨.integer, fun row kept => ?_⟩
    have member : row ∈ guests := List.mem_of_mem_filter kept
    simp only [guests, List.mem_cons, List.not_mem_nil, or_false] at member
    rcases member with rfl | rfl | rfl | rfl | rfl
    · exact ⟨_, rfl, .inl rfl⟩
    all_goals exact ⟨_, rfl, .inr (.integer _)⟩

end RowQuery.CompiledQuery
