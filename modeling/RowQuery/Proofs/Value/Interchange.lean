import RowQuery.Proofs.Calendar.Text
import RowQuery.Proofs.Outcome
import RowQuery.Proofs.Value.Formed
import RowQuery.Value.Interchange

/-!
Values that JSON can carry. Writing goes by the value and reading goes by the type, and what was
written for a value of a type is read as that value of the type.
-/

namespace RowQuery

/-- The types of which JSON can carry all that matters. Names that differ in case only would be taken
for each other. -/
inductive Ty.Portable : Ty → Prop
  | bool : Portable .bool
  | char : Portable .char
  | string : Portable .string
  | integer (kind : IntegerKind) : Portable (.integer kind)
  | dateTime : Portable .dateTime
  | enum {decl : EnumType} : decl.variants.Pairwise (fun a b => Text.sameName a.1 b.1 = false) →
      Portable (.enum decl)
  | nullable {inner : Ty} : Portable inner → inner.isValueType = true → inner.isNullable = false →
      Portable (.nullable inner)
  | sequence {element : Ty} : Portable element → Portable (.sequence element)
  | record {decl : RecordType} :
      decl.members.Pairwise (fun a b => Value.sameKey a.name b.name = false) →
      (∀ member ∈ decl.members, Portable member.ty) → Portable (.record decl)

/-- The values of exactly a type: no value of a derived record stands for one of its base, and the
parts of a value are of exactly their types in turn. -/
inductive Value.IsOf : Value → Ty → Prop
  | null {ty : Ty} : ty.admitsNull = true → IsOf .null ty
  | bool (b : Bool) : IsOf (.bool b) .bool
  | char (c : Char) : IsOf (.char c) .char
  | string (s : String) : IsOf (.string s) .string
  | integer (n : Integer) : IsOf (.integer n) (.integer n.kind)
  | dateTime {t : DateTime} : t.Portable → IsOf (.dateTime t) .dateTime
  | enum {decl : EnumType} {discriminant : Int} {name : String} :
      decl.nameOf? discriminant = some name → IsOf (.enum decl discriminant) (.enum decl)
  | nullable {value : Value} {inner : Ty} : IsOf value inner → IsOf value (.nullable inner)
  | sequence {element : Ty} {items : List Value} : (∀ item ∈ items, IsOf item element) →
      IsOf (.sequence element items) (.sequence element)
  | record {decl : RecordType} {fields : List Value} : fields.length = decl.members.length →
      (∀ field member, (field, member) ∈ fields.zip decl.members → IsOf field member.ty) →
      IsOf (.record decl fields) (.record decl)

/-! ### Names -/

/-- The variant that a value is written as is the one that its name is read as. -/
theorem EnumType.valueOf?_nameOf? {decl : EnumType}
    (distinct : decl.variants.Pairwise fun a b => Text.sameName a.1 b.1 = false) {value : Int}
    {name : String} (named : decl.nameOf? value = some name) : decl.valueOf? name = some value := by
  obtain ⟨⟨written, discriminant⟩, found, rfl⟩ := Option.map_eq_some_iff.mp named
  obtain ⟨isValue, before, after, split, _⟩ := List.find?_eq_some_iff_append.mp found
  obtain rfl : discriminant = value := beq_iff_eq.mp isValue
  rw [split, List.pairwise_append] at distinct
  have again : decl.variants.find? (fun variant => Text.sameName variant.1 written) =
      some (written, discriminant) := by
    refine List.find?_eq_some_iff_append.mpr ⟨by simp [Text.sameName], before, after, split, ?_⟩
    intro variant inside
    simpa using distinct.2.2 variant inside _ List.mem_cons_self
  rw [valueOf?, again]
  rfl

namespace Value

theorem sameKey_refl (name : String) : sameKey name name = true := by
  simp [sameKey]

end Value

section

variable {decl : RecordType} {before after : List Member} {member : Member}

theorem RecordType.find_member
    (distinct : decl.members.Pairwise fun a b => Value.sameKey a.name b.name = false)
    (split : decl.members = before ++ member :: after) :
    decl.members.find? (fun other => Value.sameKey other.name member.name) = some member := by
  refine List.find?_eq_some_iff_append.mpr ⟨Value.sameKey_refl _, before, after, split, ?_⟩
  intro other inside
  rw [split, List.pairwise_append] at distinct
  simpa using distinct.2.2 other inside _ List.mem_cons_self

theorem RecordType.indexOf?_append (split : decl.members = before ++ member :: after)
    (apart : ∀ other ∈ before, Value.sameKey other.name member.name = false) :
    decl.indexOf? member.name = some before.length := by
  have missed : before.findIdx? (fun other => other.name == member.name) = none := by
    rw [List.findIdx?_eq_none_iff]
    intro other inside
    rw [beq_eq_false_iff_ne]
    intro same
    have different := apart other inside
    rw [same, Value.sameKey_refl] at different
    exact absurd different (by decide)
  simp [RecordType.indexOf?, split, List.findIdx?_append, missed, List.findIdx?_cons]

theorem RecordType.indexOf?_member
    (distinct : decl.members.Pairwise fun a b => Value.sameKey a.name b.name = false)
    (split : decl.members = before ++ member :: after) :
    decl.indexOf? member.name = some before.length := by
  apply RecordType.indexOf?_append split
  rw [split, List.pairwise_append] at distinct
  exact fun other inside => distinct.2.2 other inside _ List.mem_cons_self

end

namespace Value

/-! ### Parts of values -/

theorem fit?_integer_of_eq {n m : Integer} (same : m.value = n.value) :
    (integer m).fit? (.integer n.kind) = some (integer n) := by
  rw [fit?.eq_def]
  split
  · rename_i fits
    have kinds := conforms_numeric fits
    simp only [numericKind?, Option.some.injEq, NumericKind.integer.injEq] at kinds
    cases n
    cases m
    simp_all
  · simp [isNull, fitNumeric?, numeral?, numericKind?, number?, Number.isWhole, ofNumber, ofInt,
      Integer.ofInt?, same, n.holds, Except.toOption]

theorem numberLiteral?_integer (n : Integer) :
    ∃ literal : Integer, numberLiteral? (.integer n.value) (.integer n.kind) =
      some (integer literal) ∧ literal.value = n.value := by
  obtain ⟨least, greatest⟩ : -Int.pow 2 63 ≤ n.value ∧ n.value ≤ Int.pow 2 64 - 1 := by
    have lowest : -Int.pow 2 63 ≤ n.kind.least := by cases n.kind <;> decide
    have highest : n.kind.greatest ≤ Int.pow 2 64 - 1 := by cases n.kind <;> decide
    exact ⟨Int.le_trans lowest n.holds.1, Int.le_trans n.holds.2 highest⟩
  -- Only a number that leaves no room for a sign is read without one.
  by_cases small : n.value < Int.pow 2 63
  · have holds : IntegerKind.i64.Holds n.value := ⟨least, Int.le_sub_one_of_lt small⟩
    have signed : (Json.Number.integer n.value).toSigned? = some n.value := if_pos small
    have made : Integer.ofInt? .i64 n.value = some ⟨.i64, n.value, holds⟩ := dif_pos holds
    refine ⟨⟨.i64, n.value, holds⟩, ?_, rfl⟩
    simp only [numberLiteral?, signed, made, Option.map_some]
  · have natural : 0 ≤ n.value := Int.le_trans (by decide) (Int.not_lt.mp small)
    have holds : IntegerKind.u64.Holds n.value := ⟨natural, greatest⟩
    have signed : (Json.Number.integer n.value).toSigned? = none := if_neg small
    have unsigned : (Json.Number.integer n.value).toUnsigned? = some n.value := if_pos natural
    have made : Integer.ofInt? .u64 n.value = some ⟨.u64, n.value, holds⟩ := dif_pos holds
    refine ⟨⟨.u64, n.value, holds⟩, ?_, rfl⟩
    simp only [numberLiteral?, signed, unsigned, made, Option.map_some]

theorem ofJsonNumber_integer (n : Integer) :
    ofJsonNumber (.integer n.value) (.integer n.kind) = .ok (integer n) := by
  obtain ⟨literal, found, same⟩ := numberLiteral?_integer n
  simp only [ofJsonNumber, found, fit?_integer_of_eq same]

theorem ofJsonText_char (c : Char) : ofJsonText (String.singleton c) .char = .ok (char c) := by
  have strange (text : String) : (string text).conforms .char = false := rfl
  simp [ofJsonText, fit?, strange, isNull, string?, onlyChar?]

theorem ofJsonText_dateTime {t : DateTime} (portable : t.Portable) :
    ofJsonText (t.write 'T' 3) .dateTime = .ok (dateTime t) := by
  have strange (text : String) : (string text).conforms .dateTime = false := rfl
  simp [ofJsonText, fit?, strange, isNull, string?, DateTime.read?_write portable]

theorem ofJsonText_enum {decl : EnumType} {name : String} {discriminant : Int}
    (found : decl.valueOf? name = some discriminant) :
    ofJsonText name (.enum decl) = .ok (enum decl discriminant) := by
  have strange : (string name).conforms (.enum decl) = false := rfl
  simp [ofJsonText, fit?, strange, isNull, fitEnum?, found]

theorem ofJsonItems_itemsToJson {items : List Value} {element : Ty}
    (decodes : ∀ item ∈ items, ofJson item.toJson element = .ok item) :
    ofJsonItems (itemsToJson items) element = .ok items := by
  induction items with
  | nil => rfl
  | cons item items ih =>
      have first := decodes item List.mem_cons_self
      have rest := ih fun other inside => decodes other (List.mem_cons_of_mem _ inside)
      simp only [itemsToJson, ofJsonItems, first, rest, Result.ok_bind]

theorem ofJson_nullable {json : Json} {inner : Ty} {value : Value}
    (decoded : ofJson json inner = .ok value) : ofJson json (.nullable inner) = .ok value := by
  cases json with
  | null =>
      have isNull : null = value := by
        rw [ofJson] at decoded
        split at decoded
        · exact Except.ok.inj decoded
        · simp at decoded
      rw [← isNull]
      rfl
  | _ => exact decoded

theorem IsOf.conforms {value : Value} {ty : Ty} (isOf : value.IsOf ty) (portable : ty.Portable) :
    value.conforms ty = true := by
  induction isOf with
  | null admits => rwa [null_conforms]
  | bool | char | string | integer | dateTime | enum | sequence | record => exact conforms_typeOf _
  | nullable isOf ih =>
      cases portable with
      | nullable inside isValue bare =>
          have equal := conforms_value isValue bare (ih inside)
          exact Ty.StandsFor.assignable (.nullable equal)

theorem set_member {decl : RecordType} {before after : List Member} {member : Member}
    {done rest : List Value} {old value : Value}
    (distinct : decl.members.Pairwise fun a b => sameKey a.name b.name = false)
    (split : decl.members = before ++ member :: after) (reached : done.length = before.length)
    (fits : value.conforms member.ty = true) :
    RecordValue.set ⟨decl, done ++ old :: rest⟩ member.name value = .ok ⟨decl, done ++ value :: rest⟩ := by
  have placed : decl.members[before.length]? = some member := by simp [split]
  simp only [RecordValue.set, RecordType.indexOf?_member distinct split, placed, fits, if_true]
  simp [← reached]

theorem ofJsonMembers_zip {decl : RecordType} {before after : List Member}
    {done todo defaults : List Value}
    (distinct : decl.members.Pairwise fun a b => sameKey a.name b.name = false)
    (split : decl.members = before ++ after) (reached : done.length = before.length)
    (ahead : todo.length = after.length) (fresh : defaults.length = after.length)
    (decodes : ∀ field member, (field, member) ∈ todo.zip after →
      ofJson field.toJson member.ty = .ok field ∧ field.conforms member.ty = true) :
    ofJsonMembers ((after.map (·.name)).zip (itemsToJson todo)) ⟨decl, done ++ defaults⟩ =
      .ok ⟨decl, done ++ todo⟩ := by
  -- The members before are done and those after still have their defaults.
  induction after generalizing before done todo defaults with
  | nil =>
      rw [List.length_nil, List.length_eq_zero_iff] at ahead fresh
      rw [ahead, fresh]
      rfl
  | cons member after ih =>
      obtain ⟨field, todo, rfl⟩ := List.exists_cons_of_length_eq_add_one ahead
      obtain ⟨old, defaults, rfl⟩ := List.exists_cons_of_length_eq_add_one fresh
      obtain ⟨decoded, fits⟩ := decodes field member List.mem_cons_self
      have stored : RecordValue.set ⟨decl, done ++ old :: defaults⟩ member.name field =
          .ok ⟨decl, done ++ field :: defaults⟩ := set_member distinct split reached fits
      have onward : decl.members = (before ++ [member]) ++ after := by simp [split]
      have counted : (done ++ [field]).length = (before ++ [member]).length := by simp [reached]
      have later := ih onward counted (Nat.succ.inj ahead) (Nat.succ.inj fresh)
        fun other next inside => decodes other next (List.mem_cons_of_mem _ inside)
      simp only [List.append_assoc, List.singleton_append] at later
      simp only [itemsToJson, List.map_cons, List.zip_cons_cons, ofJsonMembers,
        RecordType.find_member distinct split, decoded, stored, Result.ok_bind]
      exact later

/-- What was written for a value of exactly a type is read as that value of the type. -/
theorem ofJson_toJson {value : Value} {ty : Ty} (isOf : value.IsOf ty) (portable : ty.Portable) :
    ofJson value.toJson ty = .ok value := by
  induction isOf with
  | null admits => simp [toJson, ofJson, admits]
  | bool b => rfl
  | string s => rfl
  | char c => exact ofJsonText_char c
  | integer n => exact ofJsonNumber_integer n
  | dateTime whole =>
      simp only [toJson, ofJson, bareType]
      exact ofJsonText_dateTime whole
  | enum named =>
      cases portable with
      | enum distinct =>
          simp only [toJson, named]
          exact ofJsonText_enum (EnumType.valueOf?_nameOf? distinct named)
  | nullable _ ih =>
      cases portable with
      | nullable inside _ _ => exact ofJson_nullable (ih inside)
  | sequence _ ih =>
      cases portable with
      | sequence inside =>
          have items := ofJsonItems_itemsToJson fun item listed => ih item listed inside
          simp only [toJson, ofJson, bareType, items]
          rfl
  | @record decl fields counted each ih =>
      cases portable with
      | record distinct inside =>
          have decodes : ∀ field member, (field, member) ∈ fields.zip decl.members →
              ofJson field.toJson member.ty = .ok field ∧ field.conforms member.ty = true := by
            intro field member paired
            have known := inside member (List.of_mem_zip paired).2
            exact ⟨ih field member paired known, (each field member paired).conforms known⟩
          have fresh : (RecordValue.new decl).fields.length = decl.members.length := List.length_map _
          have stored : ofJsonMembers ((decl.members.map (·.name)).zip (itemsToJson fields))
              ⟨decl, [] ++ (RecordValue.new decl).fields⟩ = .ok ⟨decl, [] ++ fields⟩ :=
            ofJsonMembers_zip distinct (List.nil_append _).symm rfl counted fresh decodes
          simp only [toJson, ofJson, bareType]
          exact congrArg (Except.map RecordValue.toValue) stored

end Value

namespace Logbook

def mood : EnumType :=
  ⟨"Mood", .i8, [("Calm", 0), ("Cross", -1), ("Quiet", 0)]⟩

def entry : RecordType :=
  ⟨"Entry", none, [⟨"number", .integer .u64, .field, .shown, "Entry"⟩,
    ⟨"at", .dateTime, .field, .shown, "Entry"⟩,
    ⟨"mood", .nullable (.enum mood), .field, .shown, "Entry"⟩,
    ⟨"mark", .char, .field, .shown, "Entry"⟩], []⟩

def log : RecordType :=
  ⟨"Log", none, [⟨"owner", .string, .field, .shown, "Log"⟩,
    ⟨"entries", .sequence (.record entry), .field, .shown, "Log"⟩], []⟩

theorem entry_portable : (Ty.record entry).Portable := by
  refine .record (by decide) ?_
  simp only [entry, List.forall_mem_cons, List.not_mem_nil, false_implies, implies_true, and_true]
  exact ⟨.integer .u64, .dateTime, .nullable (.enum (by decide)) rfl rfl, .char⟩

theorem log_portable : (Ty.record log).Portable := by
  refine .record (by decide) ?_
  simp only [log, List.forall_mem_cons, List.not_mem_nil, false_implies, implies_true, and_true]
  exact ⟨.string, .sequence entry_portable⟩

def leapDay : DateTime :=
  ⟨⟨0, 2, 29, by decide⟩, 86399, 999000000, by decide, by decide⟩

def noted (number : Int) (holds : IntegerKind.u64.Holds number) (feeling : Value) (mark : Char) :
    Value :=
  .record entry [.integer ⟨.u64, number, holds⟩, .dateTime leapDay, feeling, .char mark]

def kept : Value :=
  .record log [.null, .sequence (.record entry) [noted 0 (by decide) .null 'é',
    noted 18446744073709551615 (by decide) (.enum mood (-1)) '"', .null]]

theorem leapDay_portable : leapDay.Portable :=
  ⟨by decide, by decide, rfl, rfl⟩

theorem noted_isOf {number : Int} {holds : IntegerKind.u64.Holds number} {feeling : Value}
    {mark : Char} (felt : feeling.IsOf (.nullable (.enum mood))) :
    (noted number holds feeling mark).IsOf (.record entry) := by
  refine .record rfl ?_
  intro field member paired
  simp only [entry, List.zip_cons_cons, List.zip_nil_left, List.mem_cons, List.not_mem_nil, or_false,
    Prod.mk.injEq] at paired
  rcases paired with ⟨rfl, rfl⟩ | ⟨rfl, rfl⟩ | ⟨rfl, rfl⟩ | ⟨rfl, rfl⟩
  · exact .integer _
  · exact .dateTime leapDay_portable
  · exact felt
  · exact .char _

theorem kept_isOf : kept.IsOf (.record log) := by
  refine .record rfl ?_
  intro field member paired
  simp only [log, List.zip_cons_cons, List.zip_nil_left, List.mem_cons, List.not_mem_nil, or_false,
    Prod.mk.injEq] at paired
  rcases paired with ⟨rfl, rfl⟩ | ⟨rfl, rfl⟩
  · exact .null rfl
  · refine .sequence ?_
    simp only [List.forall_mem_cons, List.not_mem_nil, false_implies, implies_true, and_true]
    exact ⟨noted_isOf (.null rfl), noted_isOf (.nullable (.enum rfl)), .null rfl⟩

theorem ofJson_toJson_kept :
    kept.IsOf (.record log) ∧ (Ty.record log).Portable ∧
    Value.ofJson kept.toJson (.record log) = .ok kept :=
  ⟨kept_isOf, log_portable, Value.ofJson_toJson kept_isOf log_portable⟩

end Logbook

end RowQuery
