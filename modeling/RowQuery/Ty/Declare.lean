import RowQuery.Ty.Basic
import RowQuery.Text.Blank

/-! Declarations of enumerations and record types. -/

namespace RowQuery

def EnumType.declare (name : String) (underlying : NumericKind) (variants : List (String × Int)) :
    Result EnumType :=
  match underlying with
  | .integer kind => .ok ⟨name, kind, variants⟩
  | other =>
    .error (.invalidArgument
      ("enum '" ++ name ++ "' must have an integer underlying type, got " ++ other.name))

structure RecordDraft where
  name : String
  base : Option RecordType
  members : List Member
  conversions : List DeclaredConversion

namespace RecordDraft

def named (name : String) : RecordDraft :=
  ⟨name, none, [], []⟩

def extending (draft : RecordDraft) (base : RecordType) : RecordDraft :=
  { draft with base := some base, members := base.members }

/-- Adds a member. It takes the place of an inherited member with exactly its name. -/
def addMember (draft : RecordDraft) (name : String) (ty : Ty) (kind : MemberKind)
    (visibility : Visibility) : RecordDraft :=
  let member : Member := ⟨name, ty, kind, visibility, draft.name⟩
  match draft.members.findIdx? (·.name == name) with
  | some index =>
    if draft.members[index]?.any (·.declaringType != draft.name) then
      { draft with members := draft.members.set index member }
    else
      { draft with members := draft.members ++ [member] }
  | none => { draft with members := draft.members ++ [member] }

def addConversion (draft : RecordDraft) (conversion : DeclaredConversion) : RecordDraft :=
  { draft with conversions := draft.conversions ++ [conversion] }

def memberFault? (record : String) (before : List String) : List Member → Option Error
  | [] => none
  | member :: rest =>
    if Text.allBlank member.name then
      some (.invalidArgument ("record type '" ++ record ++ "' has a member with a blank name"))
    else if before.contains member.name then
      some (.invalidArgument
        ("record type '" ++ record ++ "' declares member '" ++ member.name ++ "' twice"))
    else memberFault? record (before ++ [member.name]) rest

def build (draft : RecordDraft) : Result RecordType :=
  if Text.allBlank draft.name then .error (.invalidArgument "record type name is blank")
  else
    match memberFault? draft.name [] draft.members with
    | some fault => .error fault
    | none => .ok ⟨draft.name, draft.base, draft.members, draft.conversions⟩

end RecordDraft

end RowQuery
