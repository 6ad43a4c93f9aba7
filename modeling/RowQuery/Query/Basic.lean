import RowQuery.Formula.Basic

/-! Queries before they are bound to a type. -/

namespace RowQuery

abbrev Selection := List (String × Formula)

namespace Selection

/-- Sets the formula of a property. A property that is there already keeps its place. -/
def insert (name : String) (formula : Formula) : Selection → Selection
  | [] => [(name, formula)]
  | (other, old) :: rest =>
    if other = name then (name, formula) :: rest else (other, old) :: insert name formula rest

def contains (name : String) (selection : Selection) : Bool :=
  selection.any (·.1 == name)

end Selection

structure SortKey where
  formula : Formula
  ascending : Bool

structure Query where
  /-- Without a selection the rows come out as they are. -/
  selection : Option Selection
  filters : List Formula
  order : List SortKey
  skip : Option Nat
  take : Option Nat

namespace Query

def everything : Query :=
  ⟨none, [], [], none, none⟩

def select (query : Query) (name : String) (formula : Formula) : Query :=
  { query with selection := some (Selection.insert name formula (query.selection.getD [])) }

def filter (query : Query) (condition : Formula) : Query :=
  { query with filters := query.filters ++ [condition] }

def orderBy (query : Query) (formula : Formula) (ascending : Bool) : Query :=
  { query with order := query.order ++ [⟨formula, ascending⟩] }

def skipping (query : Query) (count : Nat) : Query :=
  { query with skip := some count }

def taking (query : Query) (count : Nat) : Query :=
  { query with take := some count }

end Query

end RowQuery
