import RowQuery.Proofs.Compiler.Soundness

/-!
Rows of a derived record type where the base is expected. A member is read by its place in the base.
The derived type has a member of that name at that place, however long the chain of bases is, but it
may have declared it again with a type of its own.
-/

namespace RowQuery

/-- What can be used in place of a type can be used in place of an equal one. -/
theorem Ty.assignable_beq {a b c : Ty} (assigned : a.assignable b = true)
    (equal : (b == c) = true) : a.assignable c = true := by
  apply StandsFor.assignable
  cases standsFor_of_assignable assigned with
  | same first => exact .same (same_trans first equal)
  | any =>
      rw [eq_of_beq_plain rfl (same_symm equal)]
      exact .any
  | null admits =>
      refine .null ?_
      cases b <;> cases c <;> simp_all [beq_eq_same, same, admitsNull, isValueType, isNullable]
  | nullable inside =>
      cases c with
      | nullable inner => exact .nullable (same_trans inside equal)
      | _ => simp [beq_eq_same, same] at equal
  | enumerable =>
      rw [eq_of_beq_plain rfl (same_symm equal)]
      exact .enumerable
  | sequence reference inner =>
      cases c with
      | sequence element => exact .sequence reference (assignable_beq inner equal)
      | _ => simp [beq_eq_same, same] at equal
  | record subtype =>
      cases c with
      | record decl =>
          rw [beq_eq_same, same, beq_iff_eq] at equal
          rw [RecordType.isSubtypeOf, equal] at subtype
          exact .record subtype
      | _ => simp [beq_eq_same, same] at equal
termination_by sizeOf a

/-! ### Members of declared records -/

theorem RecordDraft.memberFault?_eq_none {record : String} {before : List String}
    {members : List Member} (checked : memberFault? record before members = none) :
    (members.map (·.name)).Nodup ∧ ∀ member ∈ members, member.name ∉ before := by
  induction members generalizing before with
  | nil => simp
  | cons member members ih =>
      rw [memberFault?] at checked
      split at checked
      · simp at checked
      · split at checked
        · simp at checked
        · rename_i unused
          obtain ⟨distinct, apart⟩ := ih checked
          simp only [List.mem_append, List.mem_singleton, not_or] at apart
          refine ⟨?_, ?_⟩
          · rw [List.map_cons, List.nodup_cons]
            refine ⟨?_, distinct⟩
            intro again
            obtain ⟨later, inside, sameName⟩ := List.mem_map.mp again
            exact (apart later inside).2 sameName
          · intro other inside
            rcases List.mem_cons.mp inside with rfl | later
            · simpa using unused
            · exact (apart other later).1

theorem RecordType.Declared.nodup {decl : RecordType} (declared : decl.Declared) :
    (decl.members.map (·.name)).Nodup := by
  obtain ⟨draft, _, built⟩ := declared
  have parts := RecordDraft.build_eq_ok built
  unfold RecordDraft.build at built
  split at built
  · simp at built
  · split at built
    · simp at built
    · rename_i checked
      rw [parts]
      exact (RecordDraft.memberFault?_eq_none checked).1

/-- A declared record finds each of its members by its name. -/
theorem RecordType.Declared.indexOf? {decl : RecordType} (declared : decl.Declared) {index : Nat}
    {member : Member} (placed : decl.members[index]? = some member) :
    decl.indexOf? member.name = some index := by
  obtain ⟨bound, here⟩ := List.getElem?_eq_some_iff.mp placed
  rw [RecordType.indexOf?, List.findIdx?_eq_some_iff_getElem]
  refine ⟨bound, by simp [here], ?_⟩
  intro earlier before
  have apart := List.pairwise_iff_getElem.mp (List.pairwise_map.mp declared.nodup) earlier index
    (by omega) bound before
  simpa [here] using apart

inductive RecordType.BaseOf (above : RecordType) : RecordType → Prop
  | self : above.Declared → BaseOf above above
  | extend {base decl : RecordType} : BaseOf above base → decl.Declared → decl.base = some base →
      BaseOf above decl

namespace RecordType.BaseOf

variable {above decl : RecordType}

theorem declared (isBase : above.BaseOf decl) : decl.Declared := by
  cases isBase with
  | self declared => exact declared
  | extend _ declared _ => exact declared

theorem inPlace (isBase : above.BaseOf decl) : InPlace above.members decl.members := by
  induction isBase with
  | self _ => exact InPlace.refl _
  | extend _ declared extended ih =>
      intro index inherited found
      obtain ⟨middle, placed, middleName⟩ := ih index inherited found
      obtain ⟨member, here, sameName⟩ := declared.inPlace extended index middle placed
      exact ⟨member, here, sameName.trans middleName⟩

end RecordType.BaseOf

/-! ### Access by name -/

theorem Text.segments_of_noDot {chars : List Char} (noDot : '.' ∉ chars) :
    Text.segments chars = [chars] := by
  induction chars with
  | nil => rfl
  | cons c chars ih =>
      simp only [List.mem_cons, not_or] at noDot
      have isOther : (c == '.') = false := by simpa using Ne.symm noDot.1
      rw [Text.segments, ih noDot.2, isOther]

/-- A name that finds only one member finds every member that has it. -/
theorem Ty.memberNamed_record {decl : RecordType} {name path : String} {found : MemberRef}
    (resolved : (Ty.record decl).memberNamed name path = .ok found) {index : Nat} {member : Member}
    (placed : decl.members[index]? = some member) (named : Text.sameName member.name name = true) :
    found = .record decl index member := by
  have listed : MemberRef.record decl index member ∈ (Ty.record decl).membersNamed name := by
    refine List.mem_map.mpr ⟨(member, index), List.mem_filter.mpr ⟨?_, named⟩, rfl⟩
    exact List.mem_zipIdx_iff_getElem?.mpr placed
  unfold Ty.memberNamed at resolved
  split at resolved
  · simp at resolved
  · rename_i only single
    rw [single, List.mem_singleton] at listed
    simp only [Except.ok.injEq] at resolved
    rw [← resolved, listed]
  · simp at resolved

/-- A path of one name that stands for a member without an override is the access to the member. -/
theorem Compiler.build_name {compiler : Compiler} {target expr : Expr} {decl : RecordType}
    (typed : target.ty = .record decl) {path : String} (single : '.' ∉ path.toList)
    (built : compiler.build target (.field path) = .ok expr) {index : Nat} {member : Member}
    (placed : decl.members[index]? = some member) (named : Text.sameName member.name path = true)
    (unreplaced : compiler.override? (.record decl index member) true = none) :
    expr = .member target (.record decl index member) := by
  rw [build_eq_ok, binder, bindField_expr] at built
  obtain ⟨resolved, reached, taken⟩ := built
  rw [← Option.some.inj taken]
  simp only [resolvePath, Text.segments_of_noDot single, List.map_cons, List.map_nil,
    String.ofList_toList] at reached
  split at reached
  · simp at reached
  · obtain ⟨found, resolvedName, next⟩ := Result.bind_eq_ok.mp reached
    rw [typed] at resolvedName
    rw [Ty.memberNamed_record resolvedName placed named] at next
    simp only [List.isEmpty_nil, unreplaced, Result.ok_bind, follow, Except.ok.injEq] at next
    exact next.symm

/-! ### Rows of derived types -/

def RecordType.Holds (decl : RecordType) (fields : List Value) : Prop :=
  List.Forall₂ (fun member field => field.conforms member.ty = true) decl.members fields

theorem RecordType.Holds.getElem? {decl : RecordType} {fields : List Value} (filled : decl.Holds fields)
    {index : Nat} {member : Member} (placed : decl.members[index]? = some member) :
    ∃ value, fields[index]? = some value ∧ value.conforms member.ty = true := by
  obtain ⟨bound, rfl⟩ := List.getElem?_eq_some_iff.mp placed
  have inside : index < fields.length := by
    rw [← filled.length_eq]
    exact bound
  exact ⟨fields[index], List.getElem?_eq_getElem inside, filled.get bound inside⟩

/-- However `above` is extended, the access to one of its members reads what a row stores under the
name of the member. That conforms to the type which the type of the row declares for the name. It
conforms to the type of the member too if both types are equal, or if the first can be used in place
of the second and all types that are in use have names of their own. -/
theorem upcast_reads_stored {above decl : RecordType} (isBase : above.BaseOf decl)
    {fields : List Value} (filled : decl.Holds fields)
    {index : Nat} {member : Member} (placed : above.members[index]? = some member)
    {compiler : Compiler} (unreplaced : compiler.override? (.record above index member) true = none)
    {path : String} (single : '.' ∉ path.toList) (named : Text.sameName member.name path = true)
    {access : Expr} (built : compiler.build (.target (.record above)) (.field path) = .ok access)
    (host : Host) :
    access.ty = member.ty ∧
    ∃ stored value, decl.members[index]? = some stored ∧ stored.name = member.name ∧
      access.evaluate host (.record decl fields) = .ok value ∧
      RecordValue.get? ⟨decl, fields⟩ member.name = some value ∧
      value.conforms stored.ty = true ∧
      ((stored.ty == member.ty) = true → value.conforms member.ty = true) ∧
      ∀ world, UniqueNames world → world value.typeOf → world stored.ty → world member.ty →
        stored.ty.assignable member.ty = true → value.conforms member.ty = true := by
  rw [Compiler.build_name rfl single built placed named unreplaced]
  obtain ⟨stored, here, sameName⟩ := isBase.inPlace index member placed
  obtain ⟨value, held, fits⟩ := filled.getElem? here
  have read : slotOf decl.name fields index = .ok value := by rw [slotOf, held]
  refine ⟨rfl, stored, value, here, sameName, read, ?_, fits, ?_, ?_⟩
  · rw [RecordValue.get?, ← sameName, isBase.declared.indexOf? here, Option.bind_some, held]
  · intro equal
    exact Ty.assignable_beq fits equal
  · intro world unique valueKnown storedKnown memberKnown assigned
    exact unique.assignable_trans valueKnown storedKnown memberKnown fits assigned

namespace Kennel

def puppy : RecordType :=
  ⟨"Puppy", some dog, dog.members ++ [⟨"weeks", .i32, .property, .shown, "Puppy"⟩], []⟩

theorem animal_baseOf_puppy : animal.BaseOf puppy := by
  have declared : puppy.Declared :=
    ⟨_, .addMember "weeks" .i32 .property .shown (.extending dog (.named "Puppy")), rfl⟩
  exact .extend (.extend (.self animal_declared) dog_declared rfl) declared rfl

def pup : List Value :=
  [.string "Bo", .string "dog", .null, .integer ⟨.i32, 9, by decide⟩]

/-- The tag of a puppy as that of an animal: the type between them has declared it again. -/
theorem upcast_reads_stored_pup :
    puppy.Holds pup ∧
    ∃ access value, Compiler.build (.ofCatalog .empty) (.target (.record animal)) (.field "Tag") =
        .ok access ∧
      access.evaluate keeper (.record puppy pup) = .ok value ∧
      RecordValue.get? ⟨puppy, pup⟩ "tag" = some value ∧
      value.conforms .string = true ∧ value.conforms .any = true := by
  have filled : puppy.Holds pup := .cons rfl (.cons rfl (.cons rfl (.cons rfl .nil)))
  have placed : animal.members[1]? = some ⟨"tag", .any, .property, .shown, "Animal"⟩ := rfl
  have built : Compiler.build (.ofCatalog .empty) (.target (.record animal)) (.field "Tag") =
      .ok (.member (.target (.record animal))
        (.record animal 1 ⟨"tag", .any, .property, .shown, "Animal"⟩)) := rfl
  obtain ⟨_, stored, value, here, _, read, kept, fits, _, widened⟩ :=
    upcast_reads_stored animal_baseOf_puppy filled placed rfl (by decide) rfl built keeper
  obtain rfl := Option.some.inj here
  have isText : World value.typeOf := by
    rcases Value.conforms_string fits with rfl | ⟨text, rfl⟩
    · exact .plain rfl
    · exact .plain rfl
  exact ⟨filled, _, value, built, read, kept, fits,
    widened World world_sound.uniqueNames isText (.plain rfl) (.plain rfl) rfl⟩

end Kennel

/-! A member that is declared again with a type of its own. -/

namespace Labels

def base : RecordType :=
  ⟨"Base", none, [⟨"id", .i32, .field, .shown, "Base"⟩, ⟨"label", .string, .field, .shown, "Base"⟩],
    []⟩

def derived : RecordType :=
  ⟨"Derived", some base, [⟨"id", .i32, .field, .shown, "Base"⟩,
    ⟨"label", .char, .field, .shown, "Derived"⟩, ⟨"extra", .bool, .field, .shown, "Derived"⟩], []⟩

theorem base_baseOf_derived : base.BaseOf derived := by
  have baseDeclared : base.Declared :=
    ⟨_, .addMember "label" .string .field .shown
      (.addMember "id" .i32 .field .shown (.named "Base")), rfl⟩
  have declared : derived.Declared :=
    ⟨_, .addMember "extra" .bool .field .shown
      (.addMember "label" .char .field .shown (.extending base (.named "Derived"))), rfl⟩
  exact .extend (.self baseDeclared) declared rfl

def labelled : List Value :=
  [.integer ⟨.i32, 0, by decide⟩, .char 'x', .bool false]

/-- Read as a member of the base, which declares a text, the label of the row is a character. -/
theorem redeclared_label_not_text :
    base.BaseOf derived ∧ derived.Holds labelled ∧
    ∃ access, Compiler.build (.ofCatalog .empty) (.target (.record base)) (.field "label") =
        .ok access ∧ access.ty = .string ∧
      access.evaluate Kennel.keeper (.record derived labelled) = .ok (.char 'x') ∧
      (Value.char 'x').conforms .string = false :=
  ⟨base_baseOf_derived, .cons rfl (.cons rfl (.cons rfl .nil)), _, rfl, rfl, rfl, rfl⟩

end Labels

end RowQuery
