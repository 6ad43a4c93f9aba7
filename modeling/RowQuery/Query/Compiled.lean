import RowQuery.Query.Projection

/-! Queries bound to a type, and what they make of a list of rows. -/

namespace RowQuery

structure CompiledKey where
  expr : Expr
  ascending : Bool

structure CompiledQuery where
  source : Ty
  filter : Option Expr
  order : List CompiledKey
  skip : Option Nat
  take : Option Nat
  projection : Option Projection

namespace CompiledQuery

def bindFilters (compiler : Compiler) (target : Expr) (before : Option Expr) :
    List Formula → Result (Option Expr)
  | [] => .ok before
  | condition :: rest => do
    let expr ← compiler.buildAs target condition .bool
    let both ← match before with
      | some previous => Expr.applyBinary .and previous expr
      | none => .ok expr
    bindFilters compiler target (some both) rest

def bindOrder (compiler : Compiler) (target : Expr) : List SortKey → Result (List CompiledKey)
  | [] => .ok []
  | key :: rest => do
    let expr ← compiler.build target key.formula
    let others ← bindOrder compiler target rest
    return ⟨expr, key.ascending⟩ :: others

def compile (compiler : Compiler) (held : List Ty) (source : Ty) (query : Query) (forge : Forge) :
    Result CompiledQuery × Forge :=
  let target := Expr.target source
  let before : Result (Option Expr × List CompiledKey) := do
    let filter ← bindFilters compiler target none query.filters
    let order ← bindOrder compiler target query.order
    return (filter, order)
  match before, query.selection with
  | .error fault, _ => (.error fault, forge)
  | .ok (filter, order), none =>
    (.ok ⟨source, filter, order, query.skip, query.take, none⟩, forge)
  | .ok (filter, order), some selection =>
    match Projection.compile compiler held target selection forge with
    | (.error fault, changed) => (.error fault, changed)
    | (.ok projection, changed) =>
      (.ok ⟨source, filter, order, query.skip, query.take, some projection⟩, changed)

def resultType (query : CompiledQuery) : Ty :=
  match query.projection with
  | some projection => .shape projection.shape
  | none => query.source

def compareKeys : List CompiledKey → List Value → List Value → Ordering
  | key :: keys, a :: as, b :: bs =>
    let order := a.sortOrder b
    (if key.ascending then order else order.swap).then (compareKeys keys as bs)
  | _, _, _ => .eq

def insertRow (less : α → α → Bool) (row : α) : List α → List α
  | [] => [row]
  | last :: rest => if less row last then last :: insertRow less row rest else row :: last :: rest

/-- Sorts rows; equal ones keep their order. -/
def sortRows (less : α → α → Bool) (rows : List α) : List α :=
  (rows.foldl (fun sorted row => insertRow less row sorted) []).reverse

/-- Whether a row meets the condition. Null does not. -/
def admits (host : Host) (query : CompiledQuery) (row : Value) : Result Bool :=
  match query.filter with
  | none => .ok true
  | some filter => do return (← filter.evaluate host row).bool? == some true

def keyedRows (host : Host) (query : CompiledQuery) :
    List Value → Result (List (Value × List Value))
  | [] => .ok []
  | row :: rest => do
    if ← query.admits host row then
      let keys ← Expr.evaluateAll host row (query.order.map (·.expr))
      let others ← keyedRows host query rest
      return (row, keys) :: others
    else keyedRows host query rest

def page (query : CompiledQuery) (rows : List α) : List α :=
  let rest := rows.drop (query.skip.getD 0)
  match query.take with
  | some count => rest.take count
  | none => rest

def projectAll (host : Host) (projection : Projection) : List Value → Result (List Value)
  | [] => .ok []
  | row :: rest => do
    let value ← projection.apply host row
    let others ← projectAll host projection rest
    return value :: others

def apply (host : Host) (query : CompiledQuery) (rows : List Value) : Result (List Value) := do
  let keyed ← query.keyedRows host rows
  let less (a b : Value × List Value) : Bool := compareKeys query.order a.2 b.2 == .lt
  let chosen := query.page ((sortRows less keyed).map (·.1))
  match query.projection with
  | some projection => projectAll host projection chosen
  | none => return chosen

end CompiledQuery

end RowQuery
