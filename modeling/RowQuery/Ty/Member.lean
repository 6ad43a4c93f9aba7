import RowQuery.Ty.Basic

/-! Members of types and how a name finds them. -/

namespace RowQuery

inductive Intrinsic where
  | length
  | year
  | month
  | day
  | hour
  | minute
  | second
  | millisecond
  | dayOfYear
  | hasValue
  | value
  | count
  deriving DecidableEq

namespace Intrinsic

def name : Intrinsic → String
  | length => "length"
  | year => "year"
  | month => "month"
  | day => "day"
  | hour => "hour"
  | minute => "minute"
  | second => "second"
  | millisecond => "millisecond"
  | dayOfYear => "dayofyear"
  | hasValue => "hasvalue"
  | value => "value"
  | count => "count"

def membersOf : Ty → List Intrinsic
  | .string => [length]
  | .dateTime => [year, month, day, hour, minute, second, millisecond, dayOfYear]
  | .nullable _ => [hasValue, value]
  | .sequence _ => [count]
  | _ => []

def ty (owner : Ty) : Intrinsic → Ty
  | hasValue => .bool
  | value => owner.underlying
  | _ => .i32

end Intrinsic

inductive MemberRef where
  | record (owner : RecordType) (index : Nat) (member : Member)
  | shape (owner : Shape) (index : Nat) (property : Property)
  | intrinsic (member : Intrinsic) (ty : Ty)

/-- A declared member, whatever the type that it was reached through. -/
structure MemberKey where
  declaringType : String
  member : String
  deriving DecidableEq

namespace MemberRef

def name : MemberRef → String
  | record _ _ member => member.name
  | shape _ _ property => property.name
  | intrinsic member _ => member.name

def ty : MemberRef → Ty
  | record _ _ member => member.ty
  | shape _ _ property => property.ty
  | intrinsic _ ty => ty

def key? : MemberRef → Option MemberKey
  | record _ _ member => some ⟨member.declaringType, member.name⟩
  | shape .. | intrinsic .. => none

def same : MemberRef → MemberRef → Bool
  | record a i _, record b j _ => a.name == b.name && i == j
  | shape a i _, shape b j _ => a.id == b.id && i == j
  | intrinsic a s, intrinsic b t => a == b && s == t
  | _, _ => false

end MemberRef

def Ty.membersNamed (ty : Ty) (name : String) : List MemberRef :=
  match ty with
  | .record decl =>
    (decl.members.zipIdx.filter fun (member, _) => Text.sameName member.name name).map
      fun (member, index) => .record decl index member
  | .shape decl =>
    (decl.properties.zipIdx.filter fun (property, _) => Text.sameName property.name name).map
      fun (property, index) => .shape decl index property
  | ty =>
    (((Intrinsic.membersOf ty).find? fun member => Text.sameName member.name name).map
      fun member => MemberRef.intrinsic member (member.ty ty)).toList

def Ty.memberNamed (ty : Ty) (name path : String) : Result MemberRef :=
  match ty.membersNamed name with
  | [] => .error (.memberNotFound ty.text name path)
  | [member] => .ok member
  | found => .error (.ambiguousMember ty.text name found.length)

end RowQuery
