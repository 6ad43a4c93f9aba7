import RowQuery.Ty.Basic

/-! Which types can stand for which without a change of the value. -/

namespace RowQuery

def Ty.assignable (source target : Ty) : Bool :=
  source == target || target == .any ||
    match source, target with
    | .null, target => target.admitsNull
    | source, .nullable inner => source == inner
    | .sequence _, .enumerable => true
    | .sequence a, .sequence b => a.isReferenceType && a.assignable b
    | .record a, .record b => a.isSubtypeOf b
    | _, _ => false

end RowQuery
