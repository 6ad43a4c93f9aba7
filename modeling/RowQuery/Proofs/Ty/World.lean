import RowQuery.Ty.Assignable
import RowQuery.Ty.Declare

/-!
Types that are in use together. In such a world equality of types is identity, inherited members
stand at the places that they have in the base, and assignability orders the types.
-/

namespace RowQuery

/-! Declared records: the members of the base come first, at their places. -/

inductive RecordDraft.Drawn : RecordDraft → Prop
  | named (name : String) : Drawn (.named name)
  | extending {draft} (base : RecordType) : Drawn draft → Drawn (draft.extending base)
  | addMember {draft} (name : String) (ty : Ty) (kind : MemberKind) (visibility : Visibility) :
      Drawn draft → Drawn (draft.addMember name ty kind visibility)
  | addConversion {draft} (conversion : DeclaredConversion) :
      Drawn draft → Drawn (draft.addConversion conversion)

def RecordType.Declared (decl : RecordType) : Prop :=
  ∃ draft : RecordDraft, draft.Drawn ∧ draft.build = .ok decl

/-- Each member of the base has a member of its name at its place. -/
def InPlace (inherited members : List Member) : Prop :=
  ∀ (index : Nat) (above : Member), inherited[index]? = some above →
    ∃ member : Member, members[index]? = some member ∧ member.name = above.name

theorem InPlace.refl (members : List Member) : InPlace members members := by
  intro index above found
  exact ⟨above, found, rfl⟩

theorem InPlace.append {inherited members : List Member} (inPlace : InPlace inherited members)
    (added : Member) : InPlace inherited (members ++ [added]) := by
  intro index above found
  obtain ⟨member, here, sameName⟩ := inPlace index above found
  have bound : index < members.length := (List.getElem?_eq_some_iff.mp here).1
  exact ⟨member, by rw [List.getElem?_append_left bound, here], sameName⟩

theorem InPlace.replace {inherited members : List Member} (inPlace : InPlace inherited members)
    {place : Nat} {old : Member} (added : Member) (there : members[place]? = some old)
    (sameName : old.name = added.name) : InPlace inherited (members.set place added) := by
  intro index above found
  obtain ⟨member, here, named⟩ := inPlace index above found
  have bound : index < members.length := (List.getElem?_eq_some_iff.mp here).1
  by_cases same : place = index
  · subst same
    have : old = member := by
      rw [here] at there
      exact (Option.some.inj there).symm
    subst this
    refine ⟨added, by simp [bound], ?_⟩
    rw [← sameName, named]
  · exact ⟨member, by rw [List.getElem?_set_ne same, here], named⟩

theorem InPlace.addMember {draft : RecordDraft} {inherited : List Member}
    (inPlace : InPlace inherited draft.members) (name : String) (ty : Ty) (kind : MemberKind)
    (visibility : Visibility) :
    InPlace inherited (draft.addMember name ty kind visibility).members := by
  simp only [RecordDraft.addMember]
  split
  · rename_i place found
    split
    · obtain ⟨bound, named, _⟩ := List.findIdx?_eq_some_iff_getElem.mp found
      exact inPlace.replace _ (List.getElem?_eq_getElem bound) (by simpa using named)
    · exact inPlace.append _
  · exact inPlace.append _

theorem RecordDraft.Drawn.inPlace {draft : RecordDraft} (drawn : draft.Drawn) {base : RecordType}
    (extended : draft.base = some base) : InPlace base.members draft.members := by
  induction drawn with
  | named name => simp [RecordDraft.named] at extended
  | extending other _ _ =>
      simp only [RecordDraft.extending, Option.some.injEq] at extended
      subst extended
      exact InPlace.refl _
  | @addMember draft name ty kind visibility _ ih =>
      have kept : (draft.addMember name ty kind visibility).base = draft.base := by
        simp only [RecordDraft.addMember]
        split
        · split <;> rfl
        · rfl
      rw [kept] at extended
      exact (ih extended).addMember name ty kind visibility
  | addConversion conversion _ ih => exact ih extended

theorem RecordDraft.build_eq_ok {draft : RecordDraft} {decl : RecordType}
    (built : draft.build = .ok decl) :
    decl = ⟨draft.name, draft.base, draft.members, draft.conversions⟩ := by
  unfold RecordDraft.build at built
  split at built
  · simp at built
  · split at built
    · simp at built
    · simpa using built.symm

theorem RecordType.Declared.inPlace {decl base : RecordType} (declared : decl.Declared)
    (extended : decl.base = some base) : InPlace base.members decl.members := by
  obtain ⟨draft, drawn, built⟩ := declared
  have parts := RecordDraft.build_eq_ok built
  subst parts
  exact drawn.inPlace extended

/-! The world of types. -/

def Ty.isPlain : Ty → Bool
  | .null | .bool | .char | .numeric _ | .string | .dateTime | .any | .enumerable => true
  | .nullable _ | .sequence _ | .enum _ | .record _ | .shape _ => false

def DeclaredConversion.operand (conversion : DeclaredConversion) (decl : RecordType) : Ty :=
  match conversion.direction with
  | .incoming source => source
  | .outgoing _ => .record decl

def DeclaredConversion.result (conversion : DeclaredConversion) (decl : RecordType) : Ty :=
  match conversion.direction with
  | .incoming _ => .record decl
  | .outgoing target => target

/-- Types that are in use together: all that a type of the world is made of is in the world. Null is
added to value types only and only once, a name stands for one declaration and a number for one
shape, and a record that declares an inherited member again does so at a type that can stand for the
inherited one. -/
structure TypeWorld (world : Ty → Prop) : Prop where
  plain : ∀ ty : Ty, ty.isPlain = true → world ty
  nullable : ∀ inner, world (.nullable inner) ↔
    world inner ∧ inner.isValueType = true ∧ inner.isNullable = false
  sequence : ∀ element, world (.sequence element) → world element
  base : ∀ decl base : RecordType, world (.record decl) → decl.base = some base →
    world (.record base)
  member : ∀ (decl : RecordType) (member : Member), world (.record decl) → member ∈ decl.members →
    world member.ty
  conversion : ∀ (decl : RecordType) (conversion : DeclaredConversion), world (.record decl) →
    conversion ∈ decl.conversions →
    world (conversion.operand decl) ∧ world (conversion.result decl)
  property : ∀ (shape : Shape) (property : Property), world (.shape shape) →
    property ∈ shape.properties → world property.ty
  oneEnum : ∀ a b : EnumType, world (.enum a) → world (.enum b) → a.name = b.name → a = b
  oneRecord : ∀ a b : RecordType, world (.record a) → world (.record b) → a.name = b.name → a = b
  oneShape : ∀ a b : Shape, world (.shape a) → world (.shape b) → a.id = b.id → a = b
  declared : ∀ decl : RecordType, world (.record decl) → decl.Declared
  redeclared : ∀ (decl base : RecordType) (member inherited : Member), world (.record decl) →
    decl.base = some base → member ∈ decl.members → inherited ∈ base.members →
    member.name = inherited.name → member.ty.assignable inherited.ty = true

namespace Ty

theorem beq_eq_same (a b : Ty) : (a == b) = a.same b := rfl

theorem same_refl : (ty : Ty) → ty.same ty = true
  | null | bool | char | string | dateTime | any | enumerable => rfl
  | numeric kind => by simp [same]
  | nullable inner => same_refl inner
  | sequence element => same_refl element
  | enum decl => by simp [same]
  | record decl => by simp [same]
  | shape decl => by simp [same]

@[simp] theorem beq_self (ty : Ty) : (ty == ty) = true :=
  same_refl ty

theorem same_symm {a b : Ty} (equal : a.same b = true) : b.same a = true := by
  fun_induction same a b with
  | case14 a b => simp at equal
  | _ => simp_all [same]

theorem same_trans {a b c : Ty} (first : a.same b = true) (second : b.same c = true) :
    a.same c = true := by
  fun_induction same a b generalizing c with
  | case14 a b => simp at first
  | _ => cases c <;> simp_all [same]

theorem same_signature {types first second : List Ty} (isFirst : (types == first) = true)
    (isSecond : (types == second) = true) : (first == second) = true := by
  induction types generalizing first second with
  | nil =>
      cases first <;> cases second <;> simp_all
  | cons ty types ih =>
      obtain _ | ⟨a, as⟩ := first
      · simp at isFirst
      obtain _ | ⟨b, bs⟩ := second
      · simp at isSecond
      rw [List.cons_beq_cons, Bool.and_eq_true] at isFirst isSecond ⊢
      exact ⟨same_trans (same_symm isFirst.1) isSecond.1, ih isFirst.2 isSecond.2⟩

theorem signature_symm {first second : List Ty} (equal : (first == second) = true) :
    (second == first) = true := by
  induction first generalizing second with
  | nil => cases second <;> simp_all
  | cons a first ih =>
      obtain _ | ⟨b, second⟩ := second
      · simp at equal
      rw [List.cons_beq_cons, Bool.and_eq_true] at equal ⊢
      exact ⟨same_symm equal.1, ih equal.2⟩

theorem eq_of_beq_plain {a b : Ty} (plain : b.isPlain = true) (equal : (a == b) = true) :
    a = b := by
  rw [beq_eq_same] at equal
  cases a <;> cases b <;> simp_all [same, isPlain]

@[simp] theorem assignable_refl (ty : Ty) : ty.assignable ty = true := by
  rw [assignable.eq_def]
  simp

@[simp] theorem assignable_any (ty : Ty) : ty.assignable .any = true := by
  rw [assignable.eq_def]
  simp

theorem assignable_of_beq {a b : Ty} (equal : (a == b) = true) : a.assignable b = true := by
  rw [assignable.eq_def]
  simp [equal]

inductive StandsFor : Ty → Ty → Prop
  | same {a b} : (a == b) = true → StandsFor a b
  | any {a} : StandsFor a .any
  | null {b} : b.admitsNull = true → StandsFor .null b
  | nullable {a inner} : (a == inner) = true → StandsFor a (.nullable inner)
  | enumerable {element} : StandsFor (.sequence element) .enumerable
  | sequence {a b} : a.isReferenceType = true → a.assignable b = true →
      StandsFor (.sequence a) (.sequence b)
  | record {a b} : a.isSubtypeOf b = true → StandsFor (.record a) (.record b)

theorem StandsFor.assignable {a b : Ty} (stands : StandsFor a b) : a.assignable b = true := by
  cases stands with
  | same equal => exact assignable_of_beq equal
  | any => exact assignable_any a
  | null admits => cases b <;> simp_all [Ty.assignable]
  | nullable equal => cases a <;> simp_all [Ty.assignable, Ty.admitsNull, isNullable]
  | enumerable => rfl
  | sequence reference inner => simp [Ty.assignable, reference, inner]
  | record subtype => simp [Ty.assignable, subtype]

theorem standsFor_of_assignable {a b : Ty} (assigned : a.assignable b = true) : StandsFor a b := by
  rw [Ty.assignable.eq_def, Bool.or_eq_true, Bool.or_eq_true] at assigned
  rcases assigned with (equal | top) | structural
  · exact .same equal
  · rw [eq_of_beq_plain rfl top]
    exact .any
  · split at structural
    · exact .null structural
    · exact .nullable structural
    · exact .enumerable
    · rw [Bool.and_eq_true] at structural
      exact .sequence structural.1 structural.2
    · exact .record structural
    · simp at structural

theorem null_assignable (target : Ty) : null.assignable target = target.admitsNull := by
  cases target <;> rfl

theorem eq_of_assignable_value {source target : Ty} (value : target.isValueType = true)
    (bare : target.isNullable = false) (assigned : source.assignable target = true) :
    (source == target) = true := by
  cases standsFor_of_assignable assigned with
  | same equal => exact equal
  | null admits => simp [admitsNull, value, bare] at admits
  | any | nullable _ | enumerable | sequence _ _ | record _ => simp [isValueType, isNullable] at *

end Ty

theorem RecordType.self_mem_ancestry (decl : RecordType) : decl ∈ decl.ancestry := by
  rcases decl with ⟨name, _ | base, members, conversions⟩
  · simp [RecordType.ancestry]
  · simp [RecordType.ancestry]

theorem RecordType.ancestry_trans {decl above top : RecordType} (inherits : above ∈ decl.ancestry)
    (further : top ∈ above.ancestry) : top ∈ decl.ancestry := by
  induction decl using RecordType.ancestry.induct with
  | case1 name members conversions =>
      simp only [RecordType.ancestry, List.mem_singleton] at inherits
      rwa [← inherits]
  | case2 name base members conversions ih =>
      simp only [RecordType.ancestry, List.mem_cons] at inherits ⊢
      rcases inherits with same | higher
      · rw [same] at further
        simpa [RecordType.ancestry] using further
      · exact Or.inr (ih higher)

/-- What a record type derives from has a shorter ancestry than the record type itself. -/
theorem RecordType.length_ancestry_lt {decl above : RecordType} (inherits : above ∈ decl.ancestry) :
    above = decl ∨ above.ancestry.length < decl.ancestry.length := by
  induction decl using RecordType.ancestry.induct with
  | case1 name members conversions =>
      simp only [RecordType.ancestry, List.mem_singleton] at inherits
      exact .inl inherits
  | case2 name base members conversions ih =>
      simp only [RecordType.ancestry, List.mem_cons] at inherits
      rcases inherits with same | higher
      · exact .inl same
      · right
        simp only [RecordType.ancestry, List.length_cons]
        rcases ih higher with same | shorter
        · rw [same]
          omega
        · omega

theorem RecordType.ancestry_antisymm {a b : RecordType} (up : b ∈ a.ancestry)
    (down : a ∈ b.ancestry) : a = b := by
  rcases RecordType.length_ancestry_lt up with same | shorter
  · exact same.symm
  · rcases RecordType.length_ancestry_lt down with same | longer
    · exact same
    · omega

/-- Types of which each is known by its name, and to which null is added at most once. -/
structure UniqueNames (world : Ty → Prop) : Prop where
  nullable : ∀ inner, world (.nullable inner) →
    world inner ∧ inner.isValueType = true ∧ inner.isNullable = false
  sequence : ∀ element, world (.sequence element) → world element
  base : ∀ decl base : RecordType, world (.record decl) → decl.base = some base →
    world (.record base)
  oneEnum : ∀ a b : EnumType, world (.enum a) → world (.enum b) → a.name = b.name → a = b
  oneRecord : ∀ a b : RecordType, world (.record a) → world (.record b) → a.name = b.name → a = b
  oneShape : ∀ a b : Shape, world (.shape a) → world (.shape b) → a.id = b.id → a = b

theorem TypeWorld.uniqueNames {world : Ty → Prop} (sound : TypeWorld world) : UniqueNames world where
  nullable inner := (sound.nullable inner).mp
  sequence := sound.sequence
  base := sound.base
  oneEnum := sound.oneEnum
  oneRecord := sound.oneRecord
  oneShape := sound.oneShape

namespace UniqueNames

variable {world : Ty → Prop}

theorem eq_of_beq (unique : UniqueNames world) {a b : Ty} (first : world a) (second : world b)
    (equal : (a == b) = true) : a = b := by
  rw [Ty.beq_eq_same] at equal
  fun_induction Ty.same a b with
  | case1 | case2 | case3 | case4 | case5 | case6 | case7 => rfl
  | case8 a b => simp_all
  | case9 a b ih =>
      rw [ih (unique.nullable a first).1 (unique.nullable b second).1 equal]
  | case10 a b ih => rw [ih (unique.sequence a first) (unique.sequence b second) equal]
  | case11 a b => rw [unique.oneEnum a b first second (by simpa using equal)]
  | case12 a b => rw [unique.oneRecord a b first second (by simpa using equal)]
  | case13 a b => rw [unique.oneShape a b first second (by simpa using equal)]
  | case14 => simp at equal

theorem mem_ancestry (unique : UniqueNames world) {decl above : RecordType}
    (present : world (.record decl)) (inherits : above ∈ decl.ancestry) :
    world (.record above) := by
  induction decl using RecordType.ancestry.induct with
  | case1 name members conversions =>
      simp only [RecordType.ancestry, List.mem_singleton] at inherits
      rwa [inherits]
  | case2 name base members conversions ih =>
      simp only [RecordType.ancestry, List.mem_cons] at inherits
      rcases inherits with same | higher
      · rwa [same]
      · exact ih (unique.base _ base present rfl) higher

theorem isSubtypeOf_iff (unique : UniqueNames world) {decl above : RecordType}
    (present : world (.record decl)) (known : world (.record above)) :
    decl.isSubtypeOf above = true ↔ above ∈ decl.ancestry := by
  simp only [RecordType.isSubtypeOf, List.any_eq_true, beq_iff_eq]
  constructor
  · rintro ⟨found, inherits, sameName⟩
    have same := unique.oneRecord found above (unique.mem_ancestry present inherits) known sameName
    rwa [← same]
  · intro inherits
    exact ⟨above, inherits, rfl⟩

theorem value_of_nullable (unique : UniqueNames world) {ty inner : Ty} (known : world ty)
    (present : world (.nullable inner)) (equal : (ty == inner) = true) :
    ty.isValueType = true ∧ ty.isNullable = false := by
  obtain ⟨inside, value, bare⟩ := unique.nullable inner present
  rw [unique.eq_of_beq known inside equal]
  exact ⟨value, bare⟩

theorem assignable_trans (unique : UniqueNames world) {a b c : Ty} (first : world a) (second : world b)
    (third : world c) (ab : a.assignable b = true) (bc : b.assignable c = true) :
    a.assignable c = true := by
  by_cases equal : (a == b) = true
  · rwa [unique.eq_of_beq first second equal]
  cases Ty.standsFor_of_assignable bc with
  | same equal => rwa [← unique.eq_of_beq second third equal]
  | any => exact Ty.assignable_any a
  | null admits =>
      cases Ty.standsFor_of_assignable ab with
      | same equal => contradiction
      | null _ => exact bc
  | nullable inside =>
      -- What becomes nullable is a value type, and only itself is used for a value type.
      obtain ⟨value, bare⟩ := unique.value_of_nullable second third inside
      exact absurd (Ty.eq_of_assignable_value value bare ab) equal
  | enumerable =>
      cases Ty.standsFor_of_assignable ab with
      | same equal => contradiction
      | null _ => rfl
      | sequence _ _ => rfl
  | sequence _ outer =>
      cases Ty.standsFor_of_assignable ab with
      | same equal => contradiction
      | null _ => rfl
      | sequence reference inner =>
          apply Ty.StandsFor.assignable
          apply Ty.StandsFor.sequence reference
          exact unique.assignable_trans (unique.sequence _ first) (unique.sequence _ second)
            (unique.sequence _ third) inner outer
  | record further =>
      cases Ty.standsFor_of_assignable ab with
      | same equal => contradiction
      | null _ => rfl
      | record subtype =>
          rw [unique.isSubtypeOf_iff first second] at subtype
          rw [unique.isSubtypeOf_iff second third] at further
          apply Ty.StandsFor.assignable
          apply Ty.StandsFor.record
          rw [unique.isSubtypeOf_iff first third]
          exact RecordType.ancestry_trans subtype further
termination_by sizeOf a

theorem assignable_antisymm (unique : UniqueNames world) {a b : Ty} (first : world a)
    (second : world b) (ab : a.assignable b = true) (ba : b.assignable a = true) :
    (a == b) = true := by
  by_cases equal : (b == a) = true
  · exact Ty.same_symm equal
  cases Ty.standsFor_of_assignable ab with
  | same equal => exact equal
  | any =>
      cases Ty.standsFor_of_assignable ba with
      | same equal => contradiction
      | any => rfl
      | nullable inside =>
          obtain ⟨value, _⟩ := unique.value_of_nullable second first inside
          simp [Ty.isValueType] at value
  | null admits =>
      cases Ty.standsFor_of_assignable ba with
      | same equal => contradiction
      | null _ => rfl
  | nullable inside =>
      obtain ⟨value, bare⟩ := unique.value_of_nullable first second inside
      exact absurd (Ty.eq_of_assignable_value value bare ba) equal
  | enumerable =>
      cases Ty.standsFor_of_assignable ba with
      | same equal => contradiction
  | @sequence low high _ up =>
      cases Ty.standsFor_of_assignable ba with
      | same equal => contradiction
      | sequence _ down =>
          have elements : (low == high) = true :=
            unique.assignable_antisymm (unique.sequence _ first) (unique.sequence _ second) up down
          exact elements
  | record up =>
      cases Ty.standsFor_of_assignable ba with
      | same equal => contradiction
      | record down =>
          rw [unique.isSubtypeOf_iff first second] at up
          rw [unique.isSubtypeOf_iff second first] at down
          rw [RecordType.ancestry_antisymm up down]
          exact Ty.beq_self _
termination_by sizeOf a

end UniqueNames

namespace TypeWorld

variable {world : Ty → Prop}

theorem member_inPlace (sound : TypeWorld world) {decl above : RecordType}
    (present : world (.record decl)) (inherits : above ∈ decl.ancestry) {index : Nat}
    {inherited : Member} (found : above.members[index]? = some inherited) :
    ∃ member : Member, decl.members[index]? = some member ∧
      member.ty.assignable inherited.ty = true := by
  induction decl using RecordType.ancestry.induct with
  | case1 name members conversions =>
      simp only [RecordType.ancestry, List.mem_singleton] at inherits
      exact ⟨inherited, by rw [← inherits, found], Ty.assignable_refl _⟩
  | case2 name base members conversions ih =>
      have baseKnown := sound.base _ base present rfl
      simp only [RecordType.ancestry, List.mem_cons] at inherits
      rcases inherits with same | higher
      · exact ⟨inherited, by rw [← same, found], Ty.assignable_refl _⟩
      · obtain ⟨middle, placed, middleFits⟩ := ih baseKnown higher
        obtain ⟨member, here, sameName⟩ := (sound.declared _ present).inPlace rfl index middle placed
        have memberIn := List.mem_of_getElem? here
        have middleIn := List.mem_of_getElem? placed
        have memberFits := sound.redeclared _ base member middle present rfl memberIn middleIn sameName
        have aboveKnown := sound.uniqueNames.mem_ancestry baseKnown higher
        exact ⟨member, here, sound.uniqueNames.assignable_trans (sound.member _ _ present memberIn)
          (sound.member _ _ baseKnown middleIn)
          (sound.member _ _ aboveKnown (List.mem_of_getElem? found)) memberFits middleFits⟩

end TypeWorld

end RowQuery
