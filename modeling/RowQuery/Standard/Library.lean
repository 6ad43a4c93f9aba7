import RowQuery.Overload.Catalog
import RowQuery.Settings
import RowQuery.Standard.Calendar
import RowQuery.Standard.Logic
import RowQuery.Standard.Math
import RowQuery.Standard.Sequences
import RowQuery.Standard.Strings

/-!
The standard library. Narrow kinds of numbers come first, so that a call whose arguments fit only by
widening takes the first kind that has room for all of them.
-/

namespace RowQuery

def Standard.definitions (settings : FunctionSettings) : List Definition :=
  (if settings.standardLibrary then
    NumericKind.all.flatMap math ++ strings ++ sequences ++ calendar ++ conditional
  else []) ++ if settings.includeBoolean then boolean else []

def Catalog.ofSettings (settings : FunctionSettings) : Catalog :=
  Catalog.empty.addAll (Standard.definitions settings)

def Catalog.standard : Catalog :=
  ofSettings Settings.standard.functions

end RowQuery
