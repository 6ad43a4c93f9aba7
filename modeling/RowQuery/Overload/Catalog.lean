import RowQuery.Overload.Basic
import RowQuery.Text.Case

/-!
Catalogs of overloads. Names of methods are the same if their lowercase forms are; of one method no
two overloads have the same parameter types.
-/

namespace RowQuery

structure Catalog where
  /-- The overloads of each method, oldest first, by its lowercase name. None of the lists is empty. -/
  methods : List (String × List Overload)
  issued : Nat

namespace Catalog

def empty : Catalog :=
  ⟨[], 0⟩

def key (method : String) : String :=
  Text.lower method

def lookup (catalog : Catalog) (method : String) : List Overload :=
  match catalog.methods.find? (·.1 == key method) with
  | some (_, overloads) => overloads
  | none => []

def contains (catalog : Catalog) (method : String) : Bool :=
  catalog.methods.any (·.1 == key method)

/-- Changes the overloads of a method. A method that is left without overloads is dropped. -/
def update (name : String) (change : List Overload → List Overload) :
    List (String × List Overload) → List (String × List Overload)
  | [] =>
    match change [] with
    | [] => []
    | overloads => [(name, overloads)]
  | (other, overloads) :: rest =>
    if other == name then
      match change overloads with
      | [] => rest
      | changed => (name, changed) :: rest
    else (other, overloads) :: update name change rest

/-- Adds a definition at the end of the overloads of its method. It takes the place of the one with
the same parameter types. -/
def add (catalog : Catalog) (definition : Definition) : Catalog × Overload :=
  let overload : Overload :=
    ⟨catalog.issued, definition.method, definition.parameters, definition.build catalog.issued⟩
  let change (overloads : List Overload) : List Overload :=
    overloads.filter (·.parameters != overload.parameters) ++ [overload]
  (⟨update (key definition.method) change catalog.methods, catalog.issued + 1⟩, overload)

def addAll (catalog : Catalog) (definitions : List Definition) : Catalog :=
  definitions.foldl (fun catalog definition => (catalog.add definition).1) catalog

def discard (catalog : Catalog) (method : String) (unwanted : Overload → Bool) : Catalog × Nat :=
  ({ catalog with methods := update (key method) (·.filter (!unwanted ·)) catalog.methods },
    (catalog.lookup method).countP unwanted)

def remove (catalog : Catalog) (overload : Overload) : Catalog × Bool :=
  let (rest, count) := catalog.discard overload.method (·.id == overload.id)
  (rest, count != 0)

def undefine (catalog : Catalog) (method : String) : Catalog × Nat :=
  catalog.discard method fun _ => true

def undefineSignature (catalog : Catalog) (method : String) (parameters : List Ty) :
    Catalog × Bool :=
  let (rest, count) := catalog.discard method (·.parameters == parameters)
  (rest, count != 0)

def names (catalog : Catalog) : List String :=
  catalog.methods.map (·.1)

def size (catalog : Catalog) : Nat :=
  catalog.methods.foldr (fun entry count => entry.2.length + count) 0

def isEmpty (catalog : Catalog) : Bool :=
  catalog.methods.isEmpty

end Catalog

end RowQuery
