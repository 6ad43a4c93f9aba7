import RowQuery.Proofs.Value.Formed

/-!
Planned conversions of well-typed values. A conversion that was planned from one type to another takes
values of the first to values of the second, or fails for another reason than their type.
-/

namespace RowQuery

/-- What the host promises: its code for a declared conversion, given a value of the operand type,
returns a value of the result type if it returns one. -/
def Host.KeepsTypes (host : Host) (world : Ty → Prop) : Prop :=
  ∀ (decl : RecordType) (conversion : DeclaredConversion), world (.record decl) →
    conversion ∈ decl.conversions → ∀ value result : Value, value.Formed world →
      value.conforms (conversion.operand decl) = true →
      host.convert conversion.id value = .ok result →
      result.Formed world ∧ result.conforms (conversion.result decl) = true

def Value.HasType (world : Ty → Prop) (ty : Ty) (value : Value) : Prop :=
  value.Formed world ∧ value.conforms ty = true

def KeepsTypes (world : Ty → Prop) (parameters : List Ty) (result : Ty)
    (invoke : List Value → Result Value) : Prop :=
  ∀ values value, Filled world parameters values → invoke values = .ok value →
    value.HasType world result

namespace Conversion

def hosted? : Conversion → Option DeclaredConversion
  | declared conversion => some conversion
  | lifted inner | unwrap inner => hosted? inner
  | reference | numeric _ | char | enum _ => none

/-- The errors of a conversion of a well-typed value: no mismatch, unless host code returned it. -/
def MayFail (host : Host) (conversion : Conversion) (value : Value) (error : Error) : Prop :=
  error.isMismatch = false ∨ ∃ declared, conversion.hosted? = some declared ∧
    host.convert declared.id value = .error error

end Conversion

/-! Numbers as values. -/

theorem Value.ofInt_of_holds {n : Int} {kind : IntegerKind} (held : kind.Holds n) :
    Value.ofInt n kind = .ok (.integer ⟨kind, n, held⟩) := by
  simp only [Value.ofInt, Integer.ofInt?, dif_pos held]

theorem Value.ofInt_of_not_holds {n : Int} {kind : IntegerKind} (beyond : ¬kind.Holds n) :
    Value.ofInt n kind = .error (.overflow (toString n) (.integer kind)) := by
  simp only [Value.ofInt, Integer.ofInt?, dif_neg beyond]

theorem Value.ofInt_meets (n : Int) (kind : IntegerKind) :
    Result.Meets (fun value => value.numericKind? = some (.integer kind))
      (fun error => error.isMismatch = false) (Value.ofInt n kind) := by
  by_cases held : kind.Holds n
  · rw [Value.ofInt_of_holds held]
    rfl
  · rw [Value.ofInt_of_not_holds held]
    rfl

theorem Value.ofNumber_meets (number : Number) (kind : NumericKind) :
    Result.Meets (fun value => value.numericKind? = some kind)
      (fun error => error.isMismatch = false) (Value.ofNumber number kind) := by
  cases kind with
  | f64 => rfl
  | f32 =>
      simp only [Value.ofNumber]
      split <;> rfl
  | decimal =>
      simp only [Value.ofNumber]
      split <;> rfl
  | integer kind =>
      cases number with
      | integer n => exact Value.ofInt_meets n kind
      | decimal d => exact Value.ofInt_meets d.truncate kind
      | float x =>
          simp only [Value.ofNumber]
          split
          · split
            · exact Value.ofInt_meets _ kind
            · rfl
          · rfl

theorem Value.bool_hasType {world : Ty → Prop} (b : Bool) : (Value.bool b).HasType world .bool :=
  ⟨trivial, rfl⟩

theorem Value.hasType_of_numericKind {world : Ty → Prop} {value : Value} {kind : NumericKind}
    (found : value.numericKind? = some kind) : value.HasType world (.numeric kind) := by
  refine ⟨?_, Value.conforms_of_numericKind found⟩
  cases value <;> simp_all [Value.numericKind?, Value.Formed]

namespace Conversion

variable {world : Ty → Prop} {host : Host}

theorem operand_eq {value : Value} {number : Number} (present : value.isNull = false)
    (found : value.number? = some number) : operand value = .ok number := by
  simp [operand, present, found]

theorem apply_numeric {value : Value} {number : Number} (present : value.isNull = false)
    (found : value.number? = some number) (kind : NumericKind) :
    (numeric kind).apply host value = Value.ofNumber number kind := by
  rw [apply, operand_eq present found, Result.ok_bind]

theorem toChar_meets (number : Number) :
    Result.Meets (Value.HasType world .char) (fun error => error.isMismatch = false)
      (toChar number) := by
  refine Result.Meets.bind (Value.ofNumber_meets number (.integer .u16)) ?_
  intro code _
  split
  · split
    · exact ⟨trivial, rfl⟩
    · rfl
  · rfl

theorem toEnum_meets {decl : EnumType} (known : world (.enum decl)) (number : Number) :
    Result.Meets (Value.HasType world (.enum decl)) (fun error => error.isMismatch = false)
      (toEnum decl number) := by
  refine Result.Meets.bind (Value.ofNumber_meets number (.integer decl.underlying)) ?_
  intro found _
  split
  · exact ⟨known, Ty.assignable_refl _⟩
  · rfl

theorem toPrimitive_meets {target : Ty} {conversion : Conversion} {value : Value} {number : Number}
    (known : world target) (planned : toPrimitive? target = some conversion)
    (present : value.isNull = false) (found : value.number? = some number) :
    Result.Meets (Value.HasType world target) (fun error => error.isMismatch = false)
      (conversion.apply host value) := by
  have operandFound := operand_eq present found
  cases target <;> simp only [toPrimitive?, Option.some.injEq, reduceCtorEq] at planned
  · subst planned
    simp only [apply, operandFound]
    exact Result.Meets.mono (toChar_meets number) (fun _ typed => typed) (fun _ other => other)
  · subst planned
    simp only [apply, operandFound]
    exact Result.Meets.mono (Value.ofNumber_meets number _)
      (fun _ kind => Value.hasType_of_numericKind kind) (fun _ other => other)
  · subst planned
    simp only [apply, operandFound]
    exact toEnum_meets known number

/-! Declared conversions. One that is found is declared on a record of the world; the source can
stand for what it is applied to, and what it results in is the target. -/

theorem outgoing?_sound (sound : TypeWorld world) {implicitOnly : Bool} {source : RecordType}
    {target : Ty} (sourceKnown : world (.record source)) (targetKnown : world target)
    {conversion : DeclaredConversion}
    (found : outgoing? implicitOnly source target = some conversion) :
    ∃ decl : RecordType, world (.record decl) ∧ conversion ∈ decl.conversions ∧
      (Ty.record source).assignable (conversion.operand decl) = true ∧
      conversion.result decl = target := by
  obtain ⟨decl, inherits, declares⟩ := List.exists_of_findSome?_eq_some found
  have declKnown := sound.uniqueNames.mem_ancestry sourceKnown inherits
  have member := List.mem_of_find?_eq_some declares
  have chosen := List.find?_some declares
  have resultKnown := (sound.conversion decl conversion declKnown member).2
  have stands : (Ty.record source).assignable (.record decl) = true := by
    apply Ty.StandsFor.assignable
    apply Ty.StandsFor.record
    rw [sound.uniqueNames.isSubtypeOf_iff sourceKnown declKnown]
    exact inherits
  refine ⟨decl, declKnown, member, ?_⟩
  simp only [Bool.and_eq_true] at chosen
  rcases conversion with ⟨id, direction, implicit⟩
  cases direction with
  | incoming origin => simp at chosen
  | outgoing goal => exact ⟨stands, sound.uniqueNames.eq_of_beq resultKnown targetKnown chosen.2⟩

theorem incoming?_sound {implicitOnly : Bool} {source : Ty} {target : RecordType}
    (targetKnown : world (.record target)) {conversion : DeclaredConversion}
    (found : incoming? implicitOnly source target = some conversion) :
    ∃ decl : RecordType, world (.record decl) ∧ conversion ∈ decl.conversions ∧
      source.assignable (conversion.operand decl) = true ∧
      conversion.result decl = .record target := by
  have member := List.mem_of_find?_eq_some found
  have chosen := List.find?_some found
  refine ⟨target, targetKnown, member, ?_⟩
  simp only [Bool.and_eq_true] at chosen
  rcases conversion with ⟨id, direction, implicit⟩
  cases direction with
  | incoming origin => exact ⟨chosen.2, rfl⟩
  | outgoing goal => simp at chosen

theorem declared?_cases {implicitOnly : Bool} {source target : Ty} {conversion : DeclaredConversion}
    (found : declared? implicitOnly source target = some conversion) :
    (∃ decl, source = .record decl ∧ outgoing? implicitOnly decl target = some conversion) ∨
      ∃ decl, target = .record decl ∧ incoming? implicitOnly source decl = some conversion := by
  unfold declared? at found
  extract_lets out at found
  cases taken : out with
  | some chosen =>
      simp only [taken, Option.some.injEq] at found
      subst found
      cases source <;> simp only [out, reduceCtorEq] at taken
      exact Or.inl ⟨_, rfl, taken⟩
  | none =>
      rw [taken] at found
      cases target <;> simp only [reduceCtorEq] at found
      exact Or.inr ⟨_, rfl, found⟩

theorem declared?_sound (sound : TypeWorld world) {implicitOnly : Bool} {source target : Ty}
    (sourceKnown : world source) (targetKnown : world target) {conversion : DeclaredConversion}
    (found : declared? implicitOnly source target = some conversion) :
    ∃ decl : RecordType, world (.record decl) ∧ conversion ∈ decl.conversions ∧
      source.assignable (conversion.operand decl) = true ∧ conversion.result decl = target := by
  rcases declared?_cases found with ⟨low, rfl, out⟩ | ⟨high, rfl, into⟩
  · exact outgoing?_sound sound sourceKnown targetKnown out
  · exact incoming?_sound targetKnown into

theorem declared_meets (sound : TypeWorld world) (keeps : host.KeepsTypes world)
    {implicitOnly : Bool} {source target : Ty} (sourceKnown : world source)
    (targetKnown : world target) {conversion : DeclaredConversion}
    (found : declared? implicitOnly source target = some conversion) {value : Value}
    (typed : value.HasType world source) :
    Result.Meets (Value.HasType world target) (MayFail host (declared conversion) value)
      (apply host (declared conversion) value) := by
  obtain ⟨decl, declKnown, member, stands, resultSame⟩ :=
    declared?_sound sound sourceKnown targetKnown found
  obtain ⟨operandKnown, _⟩ := sound.conversion decl conversion declKnown member
  have fits := typed.1.conforms_trans sound sourceKnown operandKnown typed.2 stands
  simp only [apply]
  split
  · exact Or.inl rfl
  · cases returned : host.convert conversion.id value with
    | ok result =>
        have kept := keeps decl conversion declKnown member value result typed.1 fits returned
        rw [resultSame] at kept
        exact kept
    | error error => exact Or.inr ⟨conversion, rfl, returned⟩

/-! Plans. -/

theorem reference_meets (sound : TypeWorld world) {source target : Ty} (sourceKnown : world source)
    (targetKnown : world target) (assigned : source.assignable target = true) {value : Value}
    (typed : value.HasType world source) :
    Result.Meets (Value.HasType world target) (MayFail host reference value)
      (apply host reference value) :=
  ⟨typed.1, typed.1.conforms_trans sound sourceKnown targetKnown typed.2 assigned⟩

theorem direct_meets (sound : TypeWorld world) (keeps : host.KeepsTypes world)
    {implicitOnly : Bool} {source target : Ty} (sourceKnown : world source)
    (targetKnown : world target) {conversion : Conversion}
    (planned : direct? implicitOnly source target = some conversion) {value : Value}
    (typed : value.HasType world source) :
    Result.Meets (Value.HasType world target) (MayFail host conversion value)
      (conversion.apply host value) := by
  unfold direct? at planned
  split at planned
  · rename_i assigned
    simp only [Option.some.injEq] at planned
    subst planned
    exact reference_meets sound sourceKnown targetKnown assigned typed
  · split at planned
    · simp at planned
    · split at planned
      · rename_i primitives
        rw [Bool.and_eq_true] at primitives
        obtain ⟨present, number, found⟩ := Value.conforms_primitive primitives.1 typed.2
        have target : toPrimitive? target = some conversion := by
          unfold primitive? at planned
          split at planned
          · exact planned
          · simp at planned
        exact Result.Meets.mono (toPrimitive_meets targetKnown target present found)
          (fun _ reached => reached) (fun _ other => Or.inl other)
      · obtain ⟨chosen, found, rfl⟩ := Option.map_eq_some_iff.mp planned
        exact declared_meets sound keeps sourceKnown targetKnown found typed

theorem HasType.orNull {inner : Ty} {value : Value} (typed : value.HasType world inner)
    (valueType : inner.isValueType = true) (bare : inner.isNullable = false) :
    value.HasType world (.nullable inner) := by
  refine ⟨typed.1, ?_⟩
  apply Ty.StandsFor.assignable
  exact .nullable (Value.conforms_value valueType bare typed.2)

theorem fromBare_meets (sound : TypeWorld world) (keeps : host.KeepsTypes world)
    {implicitOnly : Bool} {source target : Ty} (sourceKnown : world source)
    (targetKnown : world target) {conversion : Conversion}
    (planned : fromBare? implicitOnly source target = some conversion) {value : Value}
    (typed : value.HasType world source) :
    Result.Meets (Value.HasType world target) (MayFail host conversion value)
      (conversion.apply host value) := by
  fun_induction fromBare? implicitOnly source target with
  | case1 inner assigned =>
      simp only [Option.some.injEq] at planned
      subst planned
      exact reference_meets sound sourceKnown targetKnown assigned typed
  | case2 inner _ ih =>
      obtain ⟨innerKnown, valueType, bare⟩ := (sound.nullable inner).mp targetKnown
      exact Result.Meets.mono (ih innerKnown planned)
        (fun _ reached => HasType.orNull reached valueType bare) (fun _ other => other)
  | case3 target _ => exact direct_meets sound keeps sourceKnown targetKnown planned typed

theorem plan_of_bare {implicitOnly : Bool} {source target : Ty} (bare : source.isNullable = false) :
    plan? implicitOnly source target = fromBare? implicitOnly source target := by
  cases source with
  | nullable inner => simp [Ty.isNullable] at bare
  | _ => rfl

theorem plan_meets (sound : TypeWorld world) (keeps : host.KeepsTypes world)
    {implicitOnly : Bool} {source target : Ty} (sourceKnown : world source)
    (targetKnown : world target) {conversion : Conversion}
    (planned : plan? implicitOnly source target = some conversion) {value : Value}
    (typed : value.HasType world source) :
    Result.Meets (Value.HasType world target) (MayFail host conversion value)
      (conversion.apply host value) := by
  cases source with
  | nullable source =>
      -- Null is added only once, so what is inside is converted as it stands.
      obtain ⟨insideKnown, _, bare⟩ := (sound.nullable source).mp sourceKnown
      simp only [plan?, plan_of_bare bare] at planned
      split at planned
      · rename_i assigned
        rw [← Option.some.inj planned]
        exact reference_meets sound sourceKnown targetKnown assigned typed
      · split at planned
        · rename_i inner _
          obtain ⟨innerPlan, innerPlanned, rfl⟩ := Option.map_eq_some_iff.mp planned
          obtain ⟨innerKnown, valueType, bareInner⟩ := (sound.nullable inner).mp targetKnown
          simp only [apply]
          rcases Value.conforms_nullable typed.2 with absent | ⟨present, fits⟩
          · subst absent
            exact ⟨trivial, rfl⟩
          · rw [present]
            exact Result.Meets.mono
              (fromBare_meets sound keeps insideKnown innerKnown innerPlanned ⟨typed.1, fits⟩)
              (fun _ reached => HasType.orNull reached valueType bareInner) (fun _ other => other)
        · split at planned
          · simp at planned
          · obtain ⟨innerPlan, innerPlanned, rfl⟩ := Option.map_eq_some_iff.mp planned
            simp only [apply]
            rcases Value.conforms_nullable typed.2 with absent | ⟨present, fits⟩
            · subst absent
              exact Or.inl rfl
            · rw [present]
              exact fromBare_meets sound keeps insideKnown targetKnown innerPlanned
                ⟨typed.1, fits⟩
  | _ => exact fromBare_meets sound keeps sourceKnown targetKnown planned typed

end Conversion

end RowQuery
