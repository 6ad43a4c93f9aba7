import RowQuery.Expr.Checked
import RowQuery.Expr.Evaluate
import RowQuery.Proofs.Conversion.Typing

/-!
Expressions made by the checked makers. Each node of such an expression evaluates to a value of its
type, or fails for another reason than the type of a value.
-/

namespace RowQuery

namespace Expr

/-! What the makers accept. -/

theorem literalAs_eq_ok {value : Value} {ty : Ty} {expr : Expr}
    (made : literalAs value ty = .ok expr) :
    value.conforms ty = true ∧ expr = .constant value ty := by
  unfold literalAs at made
  split at made
  · rename_i fits
    exact ⟨fits, by simpa using made.symm⟩
  · simp at made

theorem convertTo?_eq_some {operand expr : Expr} {ty : Ty} {implicitOnly : Bool}
    (made : operand.convertTo? ty implicitOnly = some expr) :
    ((operand.ty == ty) = true ∧ expr = operand) ∨
      ∃ conversion, Conversion.plan? implicitOnly operand.ty ty = some conversion ∧
        expr = .convert operand ty conversion := by
  unfold convertTo? at made
  split at made
  · rename_i equal
    exact Or.inl ⟨equal, by simpa using made.symm⟩
  · obtain ⟨conversion, planned, rfl⟩ := Option.map_eq_some_iff.mp made
    exact Or.inr ⟨conversion, planned, rfl⟩

theorem applyUnary_eq_ok {op : UnaryOp} {operand expr : Expr}
    (made : applyUnary op operand = .ok expr) :
    unaryDefined op operand.ty = true ∧ expr = .unary op operand := by
  unfold applyUnary at made
  split at made
  · rename_i defined
    exact ⟨defined, by simpa using made.symm⟩
  · simp at made

theorem applyBinary_eq_ok {op : BinaryOp} {left right expr : Expr}
    (made : applyBinary op left right = .ok expr) :
    (left.ty == right.ty) = true ∧ binaryDefined op left.ty = true ∧
      expr = .binary op left right := by
  unfold applyBinary at made
  split at made
  · simp at made
  · rename_i shared
    split at made
    · rename_i defined
      exact ⟨by simpa [bne] using shared, defined, by simpa using made.symm⟩
    · simp at made

theorem choose_eq_ok {test ifTrue ifFalse expr : Expr}
    (made : choose test ifTrue ifFalse = .ok expr) :
    test.ty = .bool ∧ (ifTrue.ty == ifFalse.ty) = true ∧
      expr = .conditional test ifTrue ifFalse := by
  unfold choose at made
  split at made
  · simp at made
  · rename_i isBool
    split at made
    · simp at made
    · rename_i shared
      refine ⟨Ty.eq_of_beq_plain rfl ?_, ?_, by simpa using made.symm⟩
      · simpa [bne] using isBool
      · simpa [bne] using shared

theorem bindingFault?_eq_none {shape : Shape} {bindings : List (Nat × Expr)}
    (checked : bindingFault? shape bindings = none) :
    ∀ binding ∈ bindings, ∃ property, shape.properties[binding.1]? = some property ∧
      binding.2.ty.assignable property.ty = true := by
  induction bindings with
  | nil => simp
  | cons first rest ih =>
      obtain ⟨slot, expr⟩ := first
      simp only [bindingFault?] at checked
      split at checked
      · simp at checked
      · rename_i property found
        split at checked
        · rename_i assigned
          intro binding member
          rcases List.mem_cons.mp member with same | later
          · subst same
            exact ⟨property, found, assigned⟩
          · exact ih checked binding later
        · simp at checked

theorem fill_eq_ok {shape : Shape} {bindings : List (Nat × Expr)} {expr : Expr}
    (made : fill shape bindings = .ok expr) :
    (∀ binding ∈ bindings, ∃ property, shape.properties[binding.1]? = some property ∧
      binding.2.ty.assignable property.ty = true) ∧ expr = .construct shape bindings := by
  unfold fill at made
  split at made
  · simp at made
  · rename_i checked
    exact ⟨bindingFault?_eq_none checked, by simpa using made.symm⟩

end Expr

/-! Members that belong to a type. -/

def MemberRef.Of (ty : Ty) : MemberRef → Prop
  | .record owner index member => ty = .record owner ∧ owner.members[index]? = some member
  | .shape owner index property => ty = .shape owner ∧ owner.properties[index]? = some property
  | .intrinsic member result => member ∈ Intrinsic.membersOf ty ∧ result = member.ty ty

theorem Ty.membersNamed_of {ty : Ty} {name : String} {member : MemberRef}
    (found : member ∈ ty.membersNamed name) : member.Of ty := by
  unfold Ty.membersNamed at found
  split at found
  · rename_i decl
    obtain ⟨⟨declared, index⟩, chosen, rfl⟩ := List.mem_map.mp found
    have placed := (List.mem_filter.mp chosen).1
    exact ⟨rfl, List.mem_zipIdx_iff_getElem?.mp placed⟩
  · rename_i decl
    obtain ⟨⟨property, index⟩, chosen, rfl⟩ := List.mem_map.mp found
    have placed := (List.mem_filter.mp chosen).1
    exact ⟨rfl, List.mem_zipIdx_iff_getElem?.mp placed⟩
  · rw [Option.mem_toList] at found
    obtain ⟨intrinsic, chosen, rfl⟩ := Option.map_eq_some_iff.mp found
    exact ⟨List.mem_of_find?_eq_some chosen, rfl⟩

theorem Ty.memberNamed_of {ty : Ty} {name path : String} {member : MemberRef}
    (found : ty.memberNamed name path = .ok member) : member.Of ty := by
  unfold Ty.memberNamed at found
  split at found
  · simp at found
  · rename_i only same
    simp only [Except.ok.injEq] at found
    subst found
    have listed : only ∈ ty.membersNamed name := by
      rw [same]
      simp
    exact Ty.membersNamed_of listed
  · simp at found

section Reading

variable {world : Ty → Prop}

theorem Value.ofInt_hasType (n : Int) (kind : IntegerKind) :
    Result.Meets (Value.HasType world (.integer kind)) (fun error => error.isMismatch = false)
      (Value.ofInt n kind) :=
  Result.Meets.mono (Value.ofInt_meets n kind) (fun _ found => Value.hasType_of_numericKind found)
    (fun _ other => other)

theorem MemberRef.Of.ty_known (sound : TypeWorld world) {ty : Ty} {member : MemberRef}
    (belongs : member.Of ty) (known : world ty) : world member.ty := by
  cases member with
  | record owner index declared =>
      obtain ⟨rfl, placed⟩ := belongs
      exact sound.member owner declared known (List.mem_of_getElem? placed)
  | shape owner index property =>
      obtain ⟨rfl, placed⟩ := belongs
      exact sound.property owner property known (List.mem_of_getElem? placed)
  | intrinsic member result =>
      obtain ⟨listed, rfl⟩ := belongs
      cases member with
      | value =>
          cases ty <;> simp [Intrinsic.membersOf] at listed
          exact ((sound.nullable _).mp known).1
      | _ => exact sound.plain _ rfl

theorem Intrinsic.read_meets {place : String} {ty : Ty} {member : Intrinsic}
    (listed : member ∈ Intrinsic.membersOf ty) (other : member ≠ .hasValue) {owner : Value}
    (typed : owner.HasType world ty) (present : owner.isNull = false) :
    Result.Meets (Value.HasType world (member.ty ty)) (fun error => error.isMismatch = false)
      (member.read place owner) := by
  cases ty <;> simp only [Intrinsic.membersOf, List.not_mem_nil] at listed
  case string =>
    simp only [List.mem_singleton] at listed
    subst listed
    rcases Value.conforms_string typed.2 with absent | ⟨s, rfl⟩
    · simp [absent, Value.isNull] at present
    · exact Value.ofInt_hasType _ _
  case dateTime =>
    obtain ⟨t, rfl⟩ := Value.conforms_dateTime typed.2
    simp only [List.mem_cons, List.not_mem_nil, or_false] at listed
    rcases listed with rfl | rfl | rfl | rfl | rfl | rfl | rfl | rfl <;>
      exact Value.ofInt_hasType _ _
  case nullable inner =>
    simp only [List.mem_cons, List.not_mem_nil, or_false] at listed
    rcases listed with rfl | rfl
    · simp at other
    · rcases Value.conforms_nullable typed.2 with absent | ⟨_, fits⟩
      · simp [absent, Value.isNull] at present
      · have same : Intrinsic.read place .value owner = .ok owner := by
          cases owner <;> rfl
        rw [same]
        exact ⟨typed.1, fits⟩
  case sequence element =>
    simp only [List.mem_singleton] at listed
    subst listed
    rcases Value.conforms_sequence typed.2 with absent | ⟨inner, items, rfl⟩
    · simp [absent, Value.isNull] at present
    · exact Value.ofInt_hasType _ _

theorem slotOf_meets {owner : String} {types : List Ty} {slots : List Value}
    (filled : Filled world types slots) {index : Nat} {ty : Ty} (found : types[index]? = some ty) :
    Result.Meets (Value.HasType world ty) (fun error => error.isMismatch = false)
      (slotOf owner slots index) := by
  obtain ⟨value, stored, fits, formed⟩ := filled.slot found
  simp only [slotOf, stored]
  exact ⟨formed, fits⟩

/-- A slot of a record is read by its place in the static type. The value can be of a record type
below, which has the member at the same place. -/
theorem recordSlot_meets (sound : TypeWorld world) {decl actual : RecordType} {fields : List Value}
    {index : Nat} {member : Member} (known : world (.record decl))
    (placed : decl.members[index]? = some member) (subtype : actual.isSubtypeOf decl = true)
    (formed : (Value.record actual fields).Formed world) :
    Result.Meets (Value.HasType world member.ty) (fun error => error.isMismatch = false)
      (slotOf actual.name fields index) := by
  have actualKnown : world (.record actual) := formed.1
  rw [sound.uniqueNames.isSubtypeOf_iff actualKnown known] at subtype
  obtain ⟨below, belowPlaced, belowFits⟩ := sound.member_inPlace actualKnown subtype placed
  have belowFound : (actual.members.map (·.ty))[index]? = some below.ty := by simp [belowPlaced]
  refine Result.Meets.mono (slotOf_meets formed.2 belowFound) ?_ (fun _ other => other)
  intro value typed
  refine ⟨typed.1, typed.1.conforms_trans sound ?_ ?_ typed.2 belowFits⟩
  · exact sound.member actual below actualKnown (List.mem_of_getElem? belowPlaced)
  · exact sound.member decl member known (List.mem_of_getElem? placed)

theorem MemberRef.read_meets (sound : TypeWorld world) {place : String} {ty : Ty}
    {member : MemberRef} (belongs : member.Of ty) (known : world ty) {owner : Value}
    (typed : owner.HasType world ty) :
    Result.Meets (Value.HasType world member.ty) (fun error => error.isMismatch = false)
      (member.read place owner) := by
  by_cases asksNull : ∃ result, member = .intrinsic .hasValue result
  · obtain ⟨result, rfl⟩ := asksNull
    obtain ⟨_, rfl⟩ := belongs
    exact ⟨trivial, rfl⟩
  rcases Value.eq_null_or owner with rfl | present
  · cases member with
    | intrinsic intrinsic result =>
        cases intrinsic <;> first | rfl | exact absurd ⟨result, rfl⟩ asksNull
    | record | shape => rfl
  · cases member with
    | record decl index declared =>
        obtain ⟨rfl, placed⟩ := belongs
        rcases Value.conforms_record typed.2 with rfl | ⟨actual, fields, rfl, subtype⟩
        · simp [Value.isNull] at present
        · exact recordSlot_meets sound known placed subtype typed.1
    | shape decl index property =>
        obtain ⟨rfl, placed⟩ := belongs
        rcases Value.conforms_shape typed.2 with rfl | ⟨actual, slots, rfl, sameId⟩
        · simp [Value.isNull] at present
        · have same := sound.oneShape actual decl typed.1.1 known sameId
          subst same
          exact slotOf_meets typed.1.2 (by simp [placed, MemberRef.ty])
    | intrinsic intrinsic result =>
        obtain ⟨listed, rfl⟩ := belongs
        have other : intrinsic ≠ .hasValue := by
          intro same
          exact asksNull ⟨_, by rw [same]⟩
        have opened : MemberRef.read place (.intrinsic intrinsic (intrinsic.ty ty)) owner =
            intrinsic.read place owner := by
          cases intrinsic <;> simp_all [MemberRef.read]
        rw [opened]
        exact Intrinsic.read_meets listed other typed present

end Reading

end RowQuery
