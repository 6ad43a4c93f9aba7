import RowQuery.Proofs.Conversion.Typing
import RowQuery.Proofs.Value.Interchange

/-!
The types of values that were read from JSON. A value that was read as a type conforms to it, and its
parts conform to the types that are asked of them, with one exception: where any collection will do,
a plain value is let through.
-/

namespace RowQuery

/-- Null is added to value types only and only once, here and in all types inside. -/
inductive Ty.Proper : Ty → Prop
  | plain {ty : Ty} : ty.isPlain = true → Proper ty
  | enum (decl : EnumType) : Proper (.enum decl)
  | nullable {inner : Ty} : inner.isValueType = true → inner.isNullable = false →
      Proper (.nullable inner)
  | sequence {element : Ty} : Proper element → Proper (.sequence element)
  | record {decl : RecordType} : (∀ member ∈ decl.members, Proper member.ty) → Proper (.record decl)
  | shape {decl : Shape} : (∀ property ∈ decl.properties, Proper property.ty) →
      Proper (.shape decl)

namespace Value

/-! ### Parts -/

def parts : Value → List (Value × Ty)
  | sequence element items => items.map (·, element)
  | record decl fields => fields.zip (decl.members.map (·.ty))
  | shape decl slots => slots.zip (decl.properties.map (·.ty))
  | _ => []

def isPlain : Value → Bool
  | null | sequence .. | record .. | shape .. => false
  | _ => true

def isWhole : Value → Bool
  | record decl fields => fields.length == decl.members.length
  | shape decl slots => slots.length == decl.properties.length
  | _ => true

inductive Sound : Value → Prop
  | intro {value : Value} : value.isWhole = true →
      (∀ part ty, (part, ty) ∈ value.parts → part.conforms ty = true) →
      (∀ part ty, (part, ty) ∈ value.parts → Sound part) → Sound value

/-- A plain value stands where a collection is asked for, here or in a part. -/
inductive Stray : Value → Ty → Prop
  | here {value : Value} : value.isPlain = true → Stray value .enumerable
  | part {value part : Value} {slot ty : Ty} : (part, slot) ∈ value.parts → Stray part slot →
      Stray value ty

theorem sound_of_no_parts {value : Value} (whole : value.isWhole = true) (none : value.parts = []) :
    value.Sound :=
  .intro whole (by simp [none]) (by simp [none])

theorem sound_null : null.Sound :=
  sound_of_no_parts rfl rfl

theorem sound_of_isPlain {value : Value} (plain : value.isPlain = true) : value.Sound := by
  apply sound_of_no_parts <;> cases value <;> simp_all [isPlain, isWhole, parts]

theorem isPlain_of_conforms {value : Value} {ty : Ty} (isValue : ty.isValueType = true)
    (bare : ty.isNullable = false) (fits : value.conforms ty = true) : value.isPlain = true := by
  have equal := conforms_value isValue bare fits
  cases value <;> cases ty <;>
    simp_all [isPlain, typeOf, Ty.beq_eq_same, Ty.same, Ty.isValueType, Ty.isNullable]

theorem conforms_enumerable {value : Value} (plain : value.isPlain = true) :
    value.conforms .enumerable = false := by
  cases value <;> simp [isPlain] at plain <;> rfl

theorem Sound.not_stray {value : Value} {ty : Ty} (sound : value.Sound)
    (fits : value.conforms ty = true) : ¬value.Stray ty := by
  intro stray
  induction stray with
  | here plain => simp [conforms_enumerable plain] at fits
  | part inside _ ih =>
      cases sound with
      | intro _ conforming sounds => exact ih (sounds _ _ inside) (conforming _ _ inside)

end Value

/-! ### Where JSON is read -/

namespace Json

def parts : Json → Ty → List (Json × Ty)
  | array items, .sequence element => items.map (·, element)
  | object members, .record decl =>
    members.filterMap fun entry =>
      (decl.members.find? fun member => Value.sameKey member.name entry.1).map (entry.2, ·.ty)
  | _, _ => []

def isPlain : Json → Bool
  | bool _ | number _ | string _ => true
  | null | array _ | object _ => false

inductive Stray : Json → Ty → Prop
  | here {json : Json} : json.isPlain = true → Stray json .enumerable
  | part {json part : Json} {slot ty : Ty} : (part, slot) ∈ json.parts ty → Stray part slot →
      Stray json ty

end Json

namespace Value

/-- What is known of a value that was read: it is well typed but for plain values in place of
collections, and those are there only if `blame` holds. -/
structure Decoded (blame : Prop) (ty : Ty) (value : Value) : Prop where
  typed : ¬value.Stray ty → value.conforms ty = true ∧ value.Sound
  cause : value.Stray ty → blame

section

variable {blame : Prop} {json : Json} {ty : Ty} {value : Value}

theorem Decoded.of_sound (fits : value.conforms ty = true) (sound : value.Sound) :
    Decoded blame ty value :=
  ⟨fun _ => ⟨fits, sound⟩, fun stray => absurd stray (sound.not_stray fits)⟩

theorem Decoded.mono {larger : Prop} (decoded : Decoded blame ty value) (larger_of : blame → larger) :
    Decoded larger ty value :=
  ⟨decoded.typed, fun stray => larger_of (decoded.cause stray)⟩

theorem Decoded.null (admits : ty.admitsNull = true) : Decoded blame ty .null :=
  .of_sound (by rwa [null_conforms]) sound_null

/-! ### Plain values -/

theorem fitNumeric?_conforms {fitted : Value} {kind : NumericKind}
    (fit : value.fitNumeric? kind = some fitted) : fitted.conforms (.numeric kind) = true := by
  obtain ⟨number, _, made⟩ := Option.bind_eq_some_iff.mp fit
  split at made
  · simp at made
  · have meets := ofNumber_meets number kind
    rw [Result.eq_ok_of_toOption made] at meets
    exact conforms_of_numericKind meets

theorem fitEnum?_conforms {fitted : Value} {decl : EnumType}
    (fit : value.fitEnum? decl = some fitted) : fitted.conforms (.enum decl) = true := by
  suffices made : ∃ discriminant, fitted = .enum decl discriminant by
    obtain ⟨discriminant, rfl⟩ := made
    exact conforms_typeOf (.enum decl discriminant)
  rw [fitEnum?.eq_def] at fit
  split at fit
  · obtain ⟨discriminant, _, rfl⟩ := Option.map_eq_some_iff.mp fit
    exact ⟨discriminant, rfl⟩
  · split at fit
    · split at fit
      · exact ⟨_, (Option.some.inj fit).symm⟩
      · simp at fit
    · simp at fit

/-- A constant that fits a type to which null was not added conforms to it. -/
theorem fit?_conforms {fitted : Value} (bare : ty.isNullable = false)
    (fit : value.fit? ty = some fitted) : fitted.conforms ty = true := by
  rw [fit?.eq_def] at fit
  split at fit
  · rename_i fits
    rwa [← Option.some.inj fit]
  · split at fit
    · simp at fit
    · split at fit
      · simp [Ty.isNullable] at bare
      · exact fitNumeric?_conforms fit
      · obtain ⟨t, _, rfl⟩ := Option.map_eq_some_iff.mp fit
        exact conforms_typeOf (.dateTime t)
      · obtain ⟨c, _, rfl⟩ := Option.map_eq_some_iff.mp fit
        exact conforms_typeOf (.char c)
      · exact fitEnum?_conforms fit
      · simp at fit

theorem ofJsonNumber_conforms {number : Json.Number} {kind : NumericKind}
    (decoded : ofJsonNumber number kind = .ok value) : value.conforms (.numeric kind) = true := by
  rw [ofJsonNumber] at decoded
  split at decoded
  · simp at decoded
  · split at decoded
    · rename_i fit
      rw [← Except.ok.inj decoded]
      exact fit?_conforms rfl fit
    · simp at decoded

theorem ofJsonText_conforms {text : String} (bare : ty.isNullable = false)
    (decoded : ofJsonText text ty = .ok value) : value.conforms ty = true := by
  rw [ofJsonText] at decoded
  split at decoded
  · rename_i fit
    rw [← Except.ok.inj decoded]
    exact fit?_conforms bare fit
  · simp at decoded

theorem ofJson_value (isValue : ty.isValueType = true) (bare : ty.isNullable = false)
    (decoded : ofJson json ty = .ok value) : value.conforms ty = true := by
  cases ty <;> simp [Ty.isValueType, Ty.isNullable] at isValue bare <;>
    cases json <;> simp [ofJson, bareType, Ty.admitsNull, Ty.isValueType, Ty.isNullable] at decoded
  case bool.bool b =>
      rw [← decoded]
      exact conforms_typeOf (.bool b)
  case numeric.number => exact ofJsonNumber_conforms decoded
  case char.string | dateTime.string | enum.string => exact ofJsonText_conforms rfl decoded

/-! ### Collections -/

theorem sound_sequence {element : Ty} {items : List Value}
    (conforming : ∀ item ∈ items, item.conforms element = true)
    (sounds : ∀ item ∈ items, item.Sound) : (sequence element items).Sound := by
  refine .intro rfl ?_ ?_
  · simp only [parts, List.mem_map, Prod.mk.injEq]
    rintro _ _ ⟨item, member, rfl, rfl⟩
    exact conforming item member
  · simp only [parts, List.mem_map, Prod.mk.injEq]
    rintro _ _ ⟨item, member, rfl, rfl⟩
    exact sounds item member

theorem ofFreeNumber_isPlain (number : Json.Number) : (ofFreeNumber number).isPlain = true := by
  rw [ofFreeNumber]
  split
  · rfl
  · split <;> rfl

mutual

theorem ofFreeJson_sound (json : Json) {value : Value} (decoded : ofFreeJson json = .ok value) :
    value.Sound := by
  cases json with
  | null =>
      rw [← Except.ok.inj decoded]
      exact sound_null
  | bool _ | string _ =>
      rw [← Except.ok.inj decoded]
      exact sound_of_isPlain rfl
  | number number =>
      rw [← Except.ok.inj decoded]
      exact sound_of_isPlain (ofFreeNumber_isPlain number)
  | array items =>
      obtain ⟨values, read, rfl⟩ := Result.map_eq_ok.mp decoded
      exact sound_sequence (fun item _ => Ty.assignable_any _) (ofFreeItems_sound items read)
  | object members => simp [ofFreeJson] at decoded

theorem ofFreeItems_sound (items : List Json) {values : List Value}
    (decoded : ofFreeItems items = .ok values) : ∀ value ∈ values, value.Sound := by
  cases items with
  | nil =>
      rw [← Except.ok.inj decoded]
      simp
  | cons item rest =>
      obtain ⟨value, read, others⟩ := Result.bind_eq_ok.mp decoded
      obtain ⟨values, readRest, same⟩ := Result.bind_eq_ok.mp others
      rw [← Except.ok.inj same]
      exact List.forall_mem_cons.mpr ⟨ofFreeJson_sound item read, ofFreeItems_sound rest readRest⟩

end

/-- Where no type is asked for and where any collection will do, JSON is read alike. -/
theorem ofJson_enumerable (json : Json) : ofJson json .enumerable = ofFreeJson json := by
  cases json <;> rfl

theorem ofJson_any (json : Json) : ofJson json .any = ofFreeJson json := by
  cases json <;> rfl

theorem decoded_enumerable (decoded : ofFreeJson json = .ok value) :
    Decoded (json.Stray .enumerable) .enumerable value := by
  have sound := ofFreeJson_sound json decoded
  cases json with
  | null =>
      rw [← Except.ok.inj decoded]
      exact .null rfl
  | bool _ | string _ =>
      rw [← Except.ok.inj decoded]
      exact ⟨fun proper => absurd (.here rfl) proper, fun _ => .here rfl⟩
  | number number =>
      rw [← Except.ok.inj decoded]
      exact ⟨fun proper => absurd (.here (ofFreeNumber_isPlain number)) proper, fun _ => .here rfl⟩
  | array items =>
      obtain ⟨values, read, rfl⟩ := Result.map_eq_ok.mp decoded
      exact .of_sound rfl sound
  | object members => simp [ofFreeJson] at decoded

theorem ofJsonItems_decoded {element : Ty} {items : List Json} {values : List Value}
    (each : ∀ item ∈ items, ∀ value, ofJson item element = .ok value → Decoded blame element value)
    (decoded : ofJsonItems items element = .ok values) :
    ∀ value ∈ values, Decoded blame element value := by
  induction items generalizing values with
  | nil =>
      rw [← Except.ok.inj decoded]
      simp
  | cons item rest ih =>
      obtain ⟨first, others⟩ := List.forall_mem_cons.mp each
      obtain ⟨value, read, further⟩ := Result.bind_eq_ok.mp decoded
      obtain ⟨values, readRest, same⟩ := Result.bind_eq_ok.mp further
      rw [← Except.ok.inj same]
      exact List.forall_mem_cons.mpr ⟨first value read, ih others readRest⟩

theorem decoded_sequence {element : Ty} {items : List Value}
    (each : ∀ item ∈ items, Decoded blame element item) :
    Decoded blame (.sequence element) (.sequence element items) := by
  constructor
  · intro proper
    have typed : ∀ item ∈ items, item.conforms element = true ∧ item.Sound := by
      intro item member
      refine (each item member).typed fun stray => proper (.part ?_ stray)
      exact List.mem_map.mpr ⟨item, member, rfl⟩
    refine ⟨conforms_typeOf (.sequence element items), ?_⟩
    exact sound_sequence (fun item member => (typed item member).1)
      (fun item member => (typed item member).2)
  · intro stray
    cases stray with
    | part inside stray =>
        obtain ⟨item, member, same⟩ := List.mem_map.mp inside
        cases same
        exact (each _ member).cause stray

/-! ### Records -/

structure Filling (blame : Prop) (types : List Ty) (fields : List Value) : Prop where
  counted : fields.length = types.length
  conforming : ∀ field ty, (field, ty) ∈ fields.zip types → field.conforms ty = true
  decoded : ∀ field ty, (field, ty) ∈ fields.zip types → Decoded blame ty field

theorem mem_zip {fields : List Value} {types : List Ty} {field : Value} :
    (field, ty) ∈ fields.zip types ↔
      ∃ index : Nat, fields[index]? = some field ∧ types[index]? = some ty := by
  simp only [List.mem_iff_getElem?, List.getElem?_zip_eq_some]

theorem mem_zip_set {fields : List Value} {types : List Ty} {index : Nat} {field : Value}
    (inside : (field, ty) ∈ (fields.set index value).zip types) :
    field = value ∧ types[index]? = some ty ∨ (field, ty) ∈ fields.zip types := by
  obtain ⟨place, found, asked⟩ := mem_zip.mp inside
  rw [List.getElem?_set] at found
  split at found
  · rename_i same
    subst same
    split at found
    · exact .inl ⟨(Option.some.inj found).symm, asked⟩
    · simp at found
  · exact .inr (mem_zip.mpr ⟨place, found, asked⟩)

theorem sound_default (ty : Ty) : (default ty).Sound := by
  cases ty with
  | numeric kind => rcases kind with kind | _ | _ | _ <;> exact sound_of_isPlain rfl
  | bool | char | dateTime | enum _ => exact sound_of_isPlain rfl
  | _ => exact sound_null

theorem Filling.new (blame : Prop) (decl : RecordType) :
    Filling blame (decl.members.map (·.ty)) (RecordValue.new decl).fields := by
  have defaults : ∀ field ty, (field, ty) ∈ (RecordValue.new decl).fields.zip
      (decl.members.map (·.ty)) → field = Value.default ty := by
    intro field ty inside
    obtain ⟨index, found, asked⟩ := mem_zip.mp inside
    rw [List.getElem?_map, Option.map_eq_some_iff] at asked
    obtain ⟨member, listed, rfl⟩ := asked
    simpa [RecordValue.new, listed, eq_comm] using found
  refine ⟨by simp [RecordValue.new], ?_, ?_⟩
  · intro field ty inside
    rw [defaults field ty inside]
    exact default_conforms ty
  · intro field ty inside
    rw [defaults field ty inside]
    exact .of_sound (default_conforms ty) (sound_default ty)

theorem Filling.set {types : List Ty} {fields : List Value} (filling : Filling blame types fields)
    {index : Nat} (asked : types[index]? = some ty) (fits : value.conforms ty = true)
    (decoded : Decoded blame ty value) : Filling blame types (fields.set index value) := by
  refine ⟨by rw [List.length_set, filling.counted], ?_, ?_⟩
  · intro field slot inside
    rcases mem_zip_set inside with ⟨rfl, found⟩ | before
    · obtain rfl := Option.some.inj (asked.symm.trans found)
      exact fits
    · exact filling.conforming field slot before
  · intro field slot inside
    rcases mem_zip_set inside with ⟨rfl, found⟩ | before
    · obtain rfl := Option.some.inj (asked.symm.trans found)
      exact decoded
    · exact filling.decoded field slot before

/-- The place that a key is stored in is that of the member it was taken for. -/
theorem indexOf?_of_find {decl : RecordType} {key : String} {member : Member}
    (found : decl.members.find? (fun member => sameKey member.name key) = some member) :
    ∃ index, decl.indexOf? member.name = some index ∧ decl.members[index]? = some member := by
  obtain ⟨taken, before, after, split, missed⟩ := List.find?_eq_some_iff_append.mp found
  refine ⟨before.length, RecordType.indexOf?_append split ?_, by simp [split]⟩
  intro other inside
  have apart := missed other inside
  simp only [sameKey, Bool.not_eq_true', beq_eq_false_iff_ne, beq_iff_eq] at apart taken ⊢
  rwa [taken]

/-- What is stored in a record was checked against the member once more. -/
theorem set_eq_ok {record changed : RecordValue} {name : String} {index : Nat} {member : Member}
    (placed : record.decl.indexOf? name = some index)
    (found : record.decl.members[index]? = some member)
    (stored : record.set name value = .ok changed) :
    value.conforms member.ty = true ∧ changed = ⟨record.decl, record.fields.set index value⟩ := by
  simp only [RecordValue.set, placed, found] at stored
  split at stored
  · rename_i fits
    exact ⟨fits, (Except.ok.inj stored).symm⟩
  · simp at stored

theorem ofJsonMembers_filling {decl : RecordType} {members : List (String × Json)}
    {fields : List Value} {after : RecordValue}
    (each : ∀ entry ∈ members, ∀ member value,
      decl.members.find? (fun member => sameKey member.name entry.1) = some member →
      ofJson entry.2 member.ty = .ok value → Decoded blame member.ty value)
    (filling : Filling blame (decl.members.map (·.ty)) fields)
    (stored : ofJsonMembers members ⟨decl, fields⟩ = .ok after) :
    ∃ filled, after = ⟨decl, filled⟩ ∧ Filling blame (decl.members.map (·.ty)) filled := by
  induction members generalizing fields with
  | nil => exact ⟨fields, (Except.ok.inj stored).symm, filling⟩
  | cons entry rest ih =>
      obtain ⟨first, others⟩ := List.forall_mem_cons.mp each
      rw [ofJsonMembers] at stored
      split at stored
      · simp at stored
      · rename_i member found
        obtain ⟨value, read, further⟩ := Result.bind_eq_ok.mp stored
        obtain ⟨changed, set, remaining⟩ := Result.bind_eq_ok.mp further
        obtain ⟨index, placed, asked⟩ := indexOf?_of_find found
        obtain ⟨fits, rfl⟩ := set_eq_ok placed asked set
        -- a key that comes twice overwrites what it stored before, which keeps the fields filled
        refine ih others (filling.set ?_ fits (first member value found read)) remaining
        simp [asked]

theorem decoded_record {decl : RecordType} {fields : List Value}
    (filling : Filling blame (decl.members.map (·.ty)) fields) :
    Decoded blame (.record decl) (.record decl fields) := by
  constructor
  · intro proper
    refine ⟨conforms_typeOf (.record decl fields), .intro ?_ filling.conforming ?_⟩
    · simpa [isWhole] using filling.counted
    · intro field slot inside
      exact ((filling.decoded field slot inside).typed fun stray => proper (.part inside stray)).2
  · intro stray
    cases stray with
    | part inside stray => exact (filling.decoded _ _ inside).cause stray

/-! ### All types -/

theorem decoded_of_value (isValue : ty.isValueType = true) (bare : ty.isNullable = false)
    (decoded : ofJson json ty = .ok value) : Decoded blame ty value := by
  have fits := ofJson_value isValue bare decoded
  exact .of_sound fits (sound_of_isPlain (isPlain_of_conforms isValue bare fits))

theorem ofJson_nullable_cases {inner : Ty} (decoded : ofJson json (.nullable inner) = .ok value) :
    value = .null ∨ ofJson json inner = .ok value := by
  cases json with
  | null => exact .inl (Except.ok.inj decoded).symm
  | _ => exact .inr decoded

theorem decoded_plain (plain : ty.isPlain = true) (decoded : ofJson json ty = .ok value) :
    Decoded (json.Stray ty) ty value := by
  cases ty <;> simp only [Ty.isPlain, Bool.false_eq_true] at plain
  case bool | char | numeric | dateTime => exact decoded_of_value rfl rfl decoded
  case any =>
      rw [ofJson_any] at decoded
      exact .of_sound (Ty.assignable_any _) (ofFreeJson_sound json decoded)
  case enumerable =>
      rw [ofJson_enumerable] at decoded
      exact decoded_enumerable decoded
  case null =>
      cases json with
      | null =>
          rw [← Except.ok.inj decoded]
          exact .null rfl
      | _ => simp [ofJson, bareType] at decoded
  case string =>
      cases json with
      | null =>
          rw [← Except.ok.inj decoded]
          exact .null rfl
      | string s =>
          rw [← Except.ok.inj decoded]
          exact .of_sound rfl (sound_of_isPlain rfl)
      | _ => simp [ofJson, bareType] at decoded

theorem ofJson_shape {decl : Shape} (decoded : ofJson json (.shape decl) = .ok value) :
    value = .null := by
  cases json with
  | null => exact (Except.ok.inj decoded).symm
  | _ => simp [ofJson, bareType] at decoded

theorem ofJson_sequence {element : Ty} (decoded : ofJson json (.sequence element) = .ok value) :
    value = .null ∨ ∃ items values, json = .array items ∧ ofJsonItems items element = .ok values ∧
      value = .sequence element values := by
  cases json with
  | null => exact .inl (Except.ok.inj decoded).symm
  | array items =>
      obtain ⟨values, read, rfl⟩ := Result.map_eq_ok.mp decoded
      exact .inr ⟨items, values, rfl, read, rfl⟩
  | _ => simp [ofJson, bareType] at decoded

theorem ofJson_record {decl : RecordType} (decoded : ofJson json (.record decl) = .ok value) :
    value = .null ∨ ∃ members after, json = .object members ∧
      ofJsonMembers members (.new decl) = .ok after ∧ value = after.toValue := by
  cases json with
  | null => exact .inl (Except.ok.inj decoded).symm
  | object members =>
      obtain ⟨after, stored, rfl⟩ := Result.map_eq_ok.mp decoded
      exact .inr ⟨members, after, rfl, stored, rfl⟩
  | _ => simp [ofJson, bareType] at decoded

theorem ofJson_decoded (proper : ty.Proper) (decoded : ofJson json ty = .ok value) :
    Decoded (json.Stray ty) ty value := by
  -- by induction on the type: parts of the JSON are read as parts of the type
  induction proper generalizing json value with
  | plain plain => exact decoded_plain plain decoded
  | enum decl => exact decoded_of_value rfl rfl decoded
  | nullable isValue bare =>
      rcases ofJson_nullable_cases decoded with rfl | inside
      · exact .null rfl
      · have fits := ofJson_value isValue bare inside
        have equal := conforms_value isValue bare fits
        refine .of_sound (Ty.StandsFor.assignable (.nullable equal)) ?_
        exact sound_of_isPlain (isPlain_of_conforms isValue bare fits)
  | shape =>
      rw [ofJson_shape decoded]
      exact .null rfl
  | sequence _ ih =>
      rcases ofJson_sequence decoded with rfl | ⟨items, values, rfl, read, rfl⟩
      · exact .null rfl
      · refine decoded_sequence (ofJsonItems_decoded (fun item listed value readItem => ?_) read)
        exact (ih readItem).mono (.part (List.mem_map.mpr ⟨item, listed, rfl⟩))
  | @record decl _ ih =>
      rcases ofJson_record decoded with rfl | ⟨members, after, rfl, stored, rfl⟩
      · exact .null rfl
      · have each : ∀ entry ∈ members, ∀ member value,
            decl.members.find? (fun member => sameKey member.name entry.1) = some member →
            ofJson entry.2 member.ty = .ok value →
            Decoded ((Json.object members).Stray (.record decl)) member.ty value := by
          intro entry listed member value found readField
          refine (ih member (List.mem_of_find?_eq_some found) readField).mono (.part ?_)
          exact List.mem_filterMap.mpr ⟨entry, listed, by rw [found]; rfl⟩
        obtain ⟨filled, rfl, filling⟩ := ofJsonMembers_filling each (.new _ decl) stored
        exact decoded_record filling

/-- A value that was read as a type is well typed throughout if and only if no plain value stands in
it where a collection is asked for; and none does unless the JSON has one there. -/
theorem ofJson_wellTyped (proper : ty.Proper) (decoded : ofJson json ty = .ok value) :
    (value.conforms ty = true ∧ value.Sound ↔ ¬value.Stray ty) ∧ (value.Stray ty → json.Stray ty) := by
  have outcome := ofJson_decoded proper decoded
  exact ⟨⟨fun typed => typed.2.not_stray typed.1, outcome.typed⟩, outcome.cause⟩

end

/-- A plain value is read where any collection will do, and is not a collection. -/
theorem ofJson_enumerable_bool :
    Ty.enumerable.Proper ∧ ofJson (.bool true) .enumerable = .ok (.bool true) ∧
    (Value.bool true).conforms .enumerable = false :=
  ⟨.plain rfl, rfl, rfl⟩

end Value

namespace Cargo

def box : RecordType :=
  ⟨"Box", none, [⟨"number", .nullable (.integer .u8), .field, .shown, "Box"⟩,
    ⟨"labels", .enumerable, .field, .shown, "Box"⟩], []⟩

def load : Ty := .sequence (.record box)

def manifest : Json :=
  .array [.object [("LABELS", .array [.string "glass", .bool true]), ("Number", .number (.integer 7))],
    .object [("number", .null)], .null]

def loaded : Value :=
  .sequence (.record box) [
    .record box [.integer ⟨.u8, 7, by decide⟩, .sequence .any [.string "glass", .bool true]],
    .record box [.null, .null], .null]

theorem load_proper : load.Proper := by
  refine .sequence (.record ?_)
  simp only [box, List.forall_mem_cons, List.not_mem_nil, false_implies, implies_true, and_true]
  exact ⟨.nullable rfl rfl, .plain rfl⟩

theorem not_stray_of_parts {json : Json} {ty : Ty} (notPlain : json.isPlain = false ∨ ty ≠ .enumerable)
    (each : ∀ entry ∈ json.parts ty, ¬entry.1.Stray entry.2) : ¬json.Stray ty := by
  rintro (plain | ⟨inside, stray⟩)
  · simp [plain] at notPlain
  · exact each _ inside stray

theorem manifest_not_stray : ¬manifest.Stray load := by
  refine not_stray_of_parts (.inl rfl) ?_
  have labels : ¬(Json.array [.string "glass", .bool true]).Stray .enumerable :=
    not_stray_of_parts (.inl rfl) (List.forall_mem_nil _)
  have number (json : Json) : ¬json.Stray (.nullable (.integer .u8)) := by
    refine not_stray_of_parts (.inr (by simp)) ?_
    cases json <;> exact List.forall_mem_nil _
  have first : ¬(Json.object [("LABELS", .array [.string "glass", .bool true]),
      ("Number", .number (.integer 7))]).Stray (.record box) :=
    not_stray_of_parts (.inl rfl) (List.forall_mem_cons.mpr ⟨labels, List.forall_mem_cons.mpr
      ⟨number _, List.forall_mem_nil _⟩⟩)
  have second : ¬(Json.object [("number", .null)]).Stray (.record box) :=
    not_stray_of_parts (.inl rfl) (List.forall_mem_cons.mpr ⟨number _, List.forall_mem_nil _⟩)
  have gap : ¬Json.null.Stray (.record box) :=
    not_stray_of_parts (.inl rfl) (List.forall_mem_nil _)
  exact List.forall_mem_cons.mpr ⟨first, List.forall_mem_cons.mpr ⟨second, List.forall_mem_cons.mpr
    ⟨gap, List.forall_mem_nil _⟩⟩⟩

theorem ofJson_wellTyped_manifest :
    load.Proper ∧ Value.ofJson manifest load = .ok loaded ∧ loaded.conforms load = true ∧ loaded.Sound := by
  have decoded : Value.ofJson manifest load = .ok loaded := rfl
  have outcome := Value.ofJson_wellTyped load_proper decoded
  have typed := outcome.1.mpr fun stray => manifest_not_stray (outcome.2 stray)
  exact ⟨load_proper, decoded, typed.1, typed.2⟩

end Cargo

end RowQuery
