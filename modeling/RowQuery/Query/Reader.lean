import RowQuery.Query.Basic
import RowQuery.Formula.Reader

/-!
Queries as JSON: an object with the members `select`, `filter`, `order_by`, `skip` and `take`, or an
array of these in order. All of them can be left out. The brackets around a formula count among the
levels of brackets that it may have.
-/

namespace RowQuery.Query

open Json (Document)

structure Draft where
  selection : Option (List (String × Formula.Draft))
  filters : List Formula.Draft
  order : List (Formula.Draft × Bool)
  skip : Option Nat
  take : Option Nat

namespace Draft

def selectionEntries? : List (String × Document) → Option (List (String × Formula.Draft))
  | [] => some []
  | (name, document) :: rest => do
    let draft ← Formula.Draft.read? (Json.maxDepth - 2) document
    let entries ← selectionEntries? rest
    return (name, draft) :: entries

def selection? : Option Document → Option (Option (List (String × Formula.Draft)))
  | none | some .null => some none
  | some (.object members) => (selectionEntries? members).map some
  | some _ => none

def list? (read : Document → Option α) : Option Document → Option (List α)
  | none => some []
  | some (.array items) => items.mapM read
  | some _ => none

def sortKey? (document : Document) : Option (Formula.Draft × Bool) := do
  match ← document.fields? ["expression", "ascending"] with
  | [some expression, ascending] =>
    let draft ← Formula.Draft.read? (Json.maxDepth - 3) expression
    match ascending with
    | none => some (draft, true)
    | some flag => flag.bool?.map (draft, ·)
  | _ => none

def count? : Option Document → Option (Option Nat)
  | none | some .null => some none
  | some document => document.size?.map some

def ofDocument? (document : Document) : Option Draft := do
  match ← document.fields? ["select", "filter", "order_by", "skip", "take"] with
  | [select, filter, order, skip, take] =>
    return ⟨← selection? select, ← list? (Formula.Draft.read? (Json.maxDepth - 2)) filter,
      ← list? sortKey? order, ← count? skip, ← count? take⟩
  | _ => none

def selectionOf (before : Selection) : List (String × Formula.Draft) → Result Selection
  | [] => .ok before
  | (name, draft) :: rest =>
    if before.contains name then
      .error (.invalidProjection ("property '" ++ name ++ "' is selected more than once"))
    else do
      let formula ← draft.formula
      selectionOf (Selection.insert name formula before) rest

def query (draft : Draft) : Result Query := do
  let selection ← match draft.selection with
    | some entries => (selectionOf [] entries).map some
    | none => .ok none
  let filters ← Formula.Draft.formulas draft.filters
  let keys ← Formula.Draft.formulas (draft.order.map (·.1))
  return ⟨selection, filters, keys.zipWith SortKey.mk (draft.order.map (·.2)), draft.skip, draft.take⟩

end Draft

def ofDocument (document : Document) : Result Query :=
  match Draft.ofDocument? document with
  | some draft => draft.query
  | none => .error .unreadableExpression

def read (text : String) : Result Query :=
  match Document.read? text with
  | some document => ofDocument document
  | none => .error .unreadableExpression

end RowQuery.Query
