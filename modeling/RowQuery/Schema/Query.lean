import RowQuery.Query.Reader
import RowQuery.Schema.Reader
import RowQuery.Settings

/-!
Formulas, queries and settings from JSON. Besides their own form, which can also be given as a text,
formulas can be tagged, and queries can be lists of clauses; then constants can be values of any type.
-/

namespace RowQuery.Schema

open Json (Document)

def jsonText (document : Document) : Reading String := do
  return (← .ofOption "number" document.value?).text

mutual

def readFormula (schema : Schema) : Document → Reading Formula
  | .array [.string "c", value] => return .constant (← readValue schema value)
  | .array [.string "n", .string literal] => .ofResult (Formula.number literal)
  | .array [.string "f", .string path] => return .field path
  | .array [.string "m", .string method, .array args] =>
    return .call method (← readFormulas schema args)
  | .string json => .ofResult (Formula.read json)
  | .object members => do .ofResult (Formula.read (← jsonText (.object members)))
  | _ => .malformed "formula"

def readFormulas (schema : Schema) : List Document → Reading (List Formula)
  | [] => return []
  | document :: rest => do
    let formula ← readFormula schema document
    return formula :: (← readFormulas schema rest)

end

def readSize (document : Document) : Reading Nat := do
  return (← whole document).toNat

def readClause (schema : Schema) (query : Query) : Document → Reading Query
  | .array [.string "select", .string name, formula] =>
    return query.select name (← readFormula schema formula)
  | .array [.string "filter", formula] => return query.filter (← readFormula schema formula)
  | .array [.string "order", formula, .bool ascending] =>
    return query.orderBy (← readFormula schema formula) ascending
  | .array [.string "skip", n] => return query.skipping (← readSize n)
  | .array [.string "take", n] => return query.taking (← readSize n)
  | _ => .malformed "clause"

def readQuery (schema : Schema) : Document → Reading Query
  | .array clauses => clauses.foldlM (readClause schema) Query.everything
  | .string json => .ofResult (Query.read json)
  | document => do .ofResult (Query.read (← jsonText document))

/-- A selection as a list of names and formulas. Of one name the last formula counts. -/
def readSelection (schema : Schema) (documents : List Document) : Reading Selection :=
  documents.foldlM (fun selection document =>
    match document with
    | .array [.string name, formula] =>
      return Selection.insert name (← readFormula schema formula) selection
    | _ => .malformed "selection") []

def readSettings : Option Document → Reading Settings
  | none | some .null => return Settings.standard
  | some (.string json) => .ofResult (Settings.read json)
  | some document => do .ofResult (Settings.read (← jsonText document))

end RowQuery.Schema
