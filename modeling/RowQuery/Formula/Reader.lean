import RowQuery.Formula.Basic
import RowQuery.Json.Reader
import RowQuery.Json.Writer

/-!
Formulas as JSON: `{"const": ..}`, `{"field": ".."}` or `{"call": "..", "args": [..]}`. The whole
text has to have the right form before any constant in it is looked at.
-/

namespace RowQuery

/-- A formula as it is written, with constants that are still JSON. -/
inductive Formula.Draft where
  | constant (json : Json)
  | field (path : String)
  | call (method : String) (args : List Formula.Draft)

namespace Formula

open Json (Document)

namespace Draft

def named (name : String) (members : List (String × Document)) : List Document :=
  (members.filter (·.1 == name)).map (·.2)

mutual

/-- The first of the three forms that fits. A form does not fit if one of its names comes twice. -/
def ofDocument? : Document → Option Draft
  | .object members =>
    match named "const" members with
    | [document] => document.value?.map constant
    | _ =>
      match named "field" members with
      | [.string path] => some (field path)
      | _ =>
        match named "call" members, argumentLists members with
        | [.string method], [] => some (call method [])
        | [.string method], [some args] => some (call method args)
        | _, _ => none
  | _ => none

def argumentLists : List (String × Document) → List (Option (List Draft))
  | [] => []
  | (name, .array items) :: rest =>
    if name == "args" then ofDocuments? items :: argumentLists rest else argumentLists rest
  | (name, _) :: rest =>
    if name == "args" then none :: argumentLists rest else argumentLists rest

def ofDocuments? : List Document → Option (List Draft)
  | [] => some []
  | document :: rest => do
    let draft ← ofDocument? document
    let drafts ← ofDocuments? rest
    return draft :: drafts

end

def constantValue : Json → Result Value
  | .null => .ok .null
  | .bool b => .ok (.bool b)
  | .string s => .ok (.string s)
  | .number n => Value.ofLiteral n.text
  | json => .error (.malformedExpression ("unsupported constant " ++ json.text))

mutual

def formula : Draft → Result Formula
  | constant json => (constantValue json).map Formula.constant
  | field path => .ok (.field path)
  | call method args => (formulas args).map (Formula.call method)

def formulas : List Draft → Result (List Formula)
  | [] => .ok []
  | draft :: rest => do
    let head ← formula draft
    let tail ← formulas rest
    return head :: tail

end

/-- Reads a part of a document as a formula with at most `levels` levels of brackets. Everything in
it has to have a value, also what the formula does not use. -/
def read? (levels : Nat) (document : Document) : Option Draft := do
  let _ ← document.valueWithin? levels
  ofDocument? document

end Draft

def ofDocument (document : Document) : Result Formula :=
  match Draft.read? Json.maxDepth document with
  | some draft => draft.formula
  | none => .error .unreadableExpression

def read (text : String) : Result Formula :=
  match Document.read? text with
  | some document => ofDocument document
  | none => .error .unreadableExpression

end Formula

end RowQuery
