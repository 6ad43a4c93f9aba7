import RowQuery.Proofs.Outcome
import RowQuery.Proofs.Ty.World
import RowQuery.Value.Record

/-!
Values of types. What a value looks like is read off the type that it conforms to; the slots of
records and shapes inside of a well-formed value conform to their declarations.
-/

namespace RowQuery

namespace Value

theorem eq_null_or (value : Value) : value = .null ∨ value.isNull = false := by
  cases value <;> simp [isNull]

@[simp] theorem conforms_typeOf (value : Value) : value.conforms value.typeOf = true :=
  Ty.assignable_refl _

theorem null_conforms (ty : Ty) : null.conforms ty = ty.admitsNull :=
  Ty.null_assignable ty

/-! Canonical forms. -/

theorem conforms_value {value : Value} {ty : Ty} (valueType : ty.isValueType = true)
    (bare : ty.isNullable = false) (fits : value.conforms ty = true) :
    (value.typeOf == ty) = true :=
  Ty.eq_of_assignable_value valueType bare fits

theorem conforms_bool {value : Value} (fits : value.conforms .bool = true) :
    ∃ b, value = .bool b := by
  have equal := conforms_value rfl rfl fits
  cases value <;> simp_all [typeOf, Ty.beq_eq_same, Ty.same]

theorem conforms_dateTime {value : Value} (fits : value.conforms .dateTime = true) :
    ∃ t, value = .dateTime t := by
  have equal := conforms_value rfl rfl fits
  cases value <;> simp_all [typeOf, Ty.beq_eq_same, Ty.same]

theorem conforms_numeric {value : Value} {kind : NumericKind}
    (fits : value.conforms (.numeric kind) = true) : value.numericKind? = some kind := by
  have equal := conforms_value rfl rfl fits
  cases value <;> simp_all [typeOf, Ty.beq_eq_same, Ty.same, numericKind?]

theorem conforms_of_numericKind {value : Value} {kind : NumericKind}
    (found : value.numericKind? = some kind) : value.conforms (.numeric kind) = true := by
  cases value <;> simp_all [numericKind?, conforms, typeOf]
  all_goals subst found; exact Ty.assignable_refl _

/-- A value of a primitive type has a number. -/
theorem conforms_primitive {value : Value} {ty : Ty} (primitive : Conversion.isPrimitive ty = true)
    (fits : value.conforms ty = true) :
    value.isNull = false ∧ ∃ number, value.number? = some number := by
  cases ty <;> simp [Conversion.isPrimitive] at primitive <;>
    have equal := conforms_value rfl rfl fits <;>
    cases value <;> simp_all [typeOf, Ty.beq_eq_same, Ty.same, number?, isNull]

theorem conforms_string {value : Value} (fits : value.conforms .string = true) :
    value = .null ∨ ∃ s, value = .string s := by
  cases value <;> simp_all [conforms, typeOf, Ty.assignable, Ty.beq_eq_same, Ty.same]

theorem conforms_sequence {value : Value} {element : Ty}
    (fits : value.conforms (.sequence element) = true) :
    value = .null ∨ ∃ inner items, value = .sequence inner items := by
  cases value <;> simp_all [conforms, typeOf, Ty.assignable, Ty.beq_eq_same, Ty.same]

theorem conforms_nullable {value : Value} {inner : Ty}
    (fits : value.conforms (.nullable inner) = true) :
    value = .null ∨ (value.isNull = false ∧ value.conforms inner = true) := by
  rcases eq_null_or value with absent | present
  · exact Or.inl absent
  · refine Or.inr ⟨present, ?_⟩
    apply Ty.assignable_of_beq
    cases value <;> simp_all [conforms, typeOf, Ty.assignable, Ty.beq_eq_same, Ty.same, isNull]

theorem conforms_record {value : Value} {decl : RecordType}
    (fits : value.conforms (.record decl) = true) :
    value = .null ∨ ∃ actual fields, value = .record actual fields ∧
      actual.isSubtypeOf decl = true := by
  cases value <;> simp_all [conforms, typeOf, Ty.assignable, Ty.beq_eq_same, Ty.same]
  rcases fits with sameName | subtype
  · rename_i actual fields
    simp only [RecordType.isSubtypeOf, List.any_eq_true, beq_iff_eq]
    exact ⟨actual, actual.self_mem_ancestry, sameName⟩
  · exact subtype

theorem conforms_shape {value : Value} {shape : Shape}
    (fits : value.conforms (.shape shape) = true) :
    value = .null ∨ ∃ actual slots, value = .shape actual slots ∧ actual.id = shape.id := by
  cases value <;> simp_all [conforms, typeOf, Ty.assignable, Ty.beq_eq_same, Ty.same]

theorem default_conforms (ty : Ty) : (default ty).conforms ty = true := by
  cases ty with
  | numeric kind =>
      apply conforms_of_numericKind
      rcases kind with kind | _ | _ | _ <;> rfl
  | enum decl => exact conforms_typeOf (.enum decl 0)
  | null | bool | char | string | dateTime | any | enumerable | nullable _ | sequence _
  | record _ | shape _ => rfl

end Value

/-! Well-formed values. -/

mutual

/-- The types of all parts of the value are in the world, and the slots of all records and shapes in
it conform to their declarations, one for each. -/
def Value.Formed (world : Ty → Prop) : Value → Prop
  | .enum decl _ => world (.enum decl)
  | .sequence element items => world (.sequence element) ∧ AllFormed world items
  | .record decl fields => world (.record decl) ∧ Filled world (decl.members.map (·.ty)) fields
  | .shape decl slots => world (.shape decl) ∧ Filled world (decl.properties.map (·.ty)) slots
  | _ => True

def AllFormed (world : Ty → Prop) : List Value → Prop
  | [] => True
  | value :: rest => value.Formed world ∧ AllFormed world rest

def Filled (world : Ty → Prop) : List Ty → List Value → Prop
  | [], [] => True
  | ty :: types, value :: rest =>
    value.conforms ty = true ∧ value.Formed world ∧ Filled world types rest
  | _, _ => False

end

section Filled

variable {world : Ty → Prop}

theorem Filled.slot {types : List Ty} {values : List Value} (filled : Filled world types values)
    {index : Nat} {ty : Ty} (found : types[index]? = some ty) :
    ∃ value, values[index]? = some value ∧ value.conforms ty = true ∧ value.Formed world := by
  induction types generalizing values index with
  | nil => simp at found
  | cons first types ih =>
      cases values with
      | nil => simp [Filled] at filled
      | cons value rest =>
          simp only [Filled] at filled
          cases index with
          | zero =>
              simp only [List.getElem?_cons_zero, Option.some.injEq] at found
              subst found
              exact ⟨value, by simp, filled.1, filled.2.1⟩
          | succ index =>
              simp only [List.getElem?_cons_succ] at found ⊢
              exact ih filled.2.2 found

theorem Filled.store {types : List Ty} {values : List Value} (filled : Filled world types values)
    {index : Nat} {ty : Ty} (found : types[index]? = some ty) {value : Value}
    (fits : value.conforms ty = true) (formed : value.Formed world) :
    Filled world types (values.set index value) := by
  induction types generalizing values index with
  | nil => simp at found
  | cons first types ih =>
      cases values with
      | nil => simp [Filled] at filled
      | cons old rest =>
          simp only [Filled] at filled
          cases index with
          | zero =>
              simp only [List.getElem?_cons_zero, Option.some.injEq] at found
              subst found
              simp only [List.set_cons_zero, Filled]
              exact ⟨fits, formed, filled.2.2⟩
          | succ index =>
              simp only [List.getElem?_cons_succ] at found
              simp only [List.set_cons_succ, Filled]
              exact ⟨filled.1, filled.2.1, ih filled.2.2 found⟩

end Filled

namespace Value

variable {world : Ty → Prop}

theorem Formed.typeOf (sound : TypeWorld world) {value : Value} (formed : value.Formed world) :
    world value.typeOf := by
  cases value with
  | enum decl discriminant => exact formed
  | sequence element items => exact formed.1
  | record decl fields => exact formed.1
  | shape decl slots => exact formed.1
  | _ => exact sound.plain _ rfl

/-- What is taken for one type is taken for every type that it can stand for. -/
theorem Formed.conforms_trans (sound : TypeWorld world) {value : Value}
    (formed : value.Formed world) {low high : Ty} (lowKnown : world low) (highKnown : world high)
    (fits : value.conforms low = true) (assigned : low.assignable high = true) :
    value.conforms high = true :=
  sound.uniqueNames.assignable_trans (formed.typeOf sound) lowKnown highKnown fits assigned

theorem default_formed {ty : Ty} (known : world ty) : (default ty).Formed world := by
  cases ty with
  | enum decl => exact known
  | numeric kind => rcases kind with kind | _ | _ | _ <;> trivial
  | _ => trivial

theorem defaults_filled (types : List Ty) (known : ∀ ty ∈ types, world ty) :
    Filled world types (types.map default) := by
  induction types with
  | nil => simp [Filled]
  | cons ty types ih =>
      simp only [List.map_cons, Filled]
      exact ⟨default_conforms ty, default_formed (known ty (by simp)),
        ih fun other member => known other (by simp [member])⟩

end Value

theorem ShapeValue.new_formed {world : Ty → Prop} (sound : TypeWorld world) {shape : Shape}
    (known : world (.shape shape)) : (ShapeValue.new shape).toValue.Formed world := by
  refine ⟨known, ?_⟩
  simp only [ShapeValue.new]
  have defaults : (shape.properties.map fun property => Value.default property.ty) =
      (shape.properties.map (·.ty)).map Value.default := by simp
  rw [defaults]
  apply Value.defaults_filled
  intro ty member
  obtain ⟨property, present, rfl⟩ := List.mem_map.mp member
  exact sound.property shape property known present

/-- A value that conforms to the property is stored, and the rest stays well formed. -/
theorem ShapeValue.setSlot_formed {world : Ty → Prop} {row : ShapeValue} {index : Nat}
    {property : Property} {value : Value} (formed : row.toValue.Formed world)
    (found : row.shape.properties[index]? = some property)
    (fits : value.conforms property.ty = true) (valueFormed : value.Formed world) :
    ∃ changed, row.setSlot index value = .ok changed ∧ changed.shape = row.shape ∧
      changed.toValue.Formed world := by
  refine ⟨{ row with slots := row.slots.set index value }, ?_, rfl, formed.1, ?_⟩
  · simp [ShapeValue.setSlot, found, fits]
  · exact Filled.store formed.2 (by simp [found]) fits valueFormed

end RowQuery
