import RowQuery.Proofs.Conversion.Order

/-!
Which of the conversions that record types declare can be used. A conversion to or from a type
without null can, the first kind also by the record types that derive from the one that declares it.
Null is taken off a nullable type before the declarations are looked at, so that a conversion which
is declared for the nullable type itself is passed over.
-/

namespace RowQuery.Conversion

theorem outgoing?_of_mem {decl below : RecordType} {conversion : DeclaredConversion}
    (listed : conversion ∈ decl.conversions) (inherits : decl ∈ below.ancestry)
    {implicitOnly : Bool} (allowed : implicitOnly = true → conversion.implicit = true) {target : Ty}
    (leaves : conversion.direction = .outgoing target) :
    (outgoing? implicitOnly below target).isSome = true := by
  simp only [outgoing?, List.findSome?_isSome_iff, List.find?_isSome]
  refine ⟨decl, inherits, conversion, listed, ?_⟩
  cases implicitOnly with
  | false => simp [leaves]
  | true => simp [leaves, allowed rfl]

theorem incoming?_of_mem {decl : RecordType} {conversion : DeclaredConversion}
    (listed : conversion ∈ decl.conversions) {implicitOnly : Bool}
    (allowed : implicitOnly = true → conversion.implicit = true) {origin source : Ty}
    (enters : conversion.direction = .incoming origin) (assigned : source.assignable origin = true) :
    (incoming? implicitOnly source decl).isSome = true := by
  simp only [incoming?, List.find?_isSome]
  refine ⟨conversion, listed, ?_⟩
  cases implicitOnly with
  | false => simp [enters, assigned]
  | true => simp [enters, assigned, allowed rfl]

theorem can_of_outgoing {decl below : RecordType} {conversion : DeclaredConversion}
    (listed : conversion ∈ decl.conversions) (inherits : decl ∈ below.ancestry)
    {implicitOnly : Bool} (allowed : implicitOnly = true → conversion.implicit = true) {target : Ty}
    (leaves : conversion.direction = .outgoing target) (bare : target.isNullable = false) :
    can implicitOnly (.record below) target = true := by
  have found : (declared? implicitOnly (.record below) target).isSome = true :=
    declared?_isSome.mpr (.inl ⟨below, rfl, outgoing?_of_mem listed inherits allowed leaves⟩)
  rw [can_of_bare rfl bare, direct?_isSome]
  simp [isPrimitive, Ty.isNull, found]

/-- A conversion into a record is open to every type without null that can stand for its source. -/
theorem can_of_incoming {decl : RecordType} {conversion : DeclaredConversion}
    (listed : conversion ∈ decl.conversions) {implicitOnly : Bool}
    (allowed : implicitOnly = true → conversion.implicit = true) {origin source : Ty}
    (enters : conversion.direction = .incoming origin) (assigned : source.assignable origin = true)
    (bare : source.isNullable = false) : can implicitOnly source (.record decl) = true := by
  have found : (declared? implicitOnly source (.record decl)).isSome = true :=
    declared?_isSome.mpr (.inr ⟨decl, rfl, incoming?_of_mem listed allowed enters assigned⟩)
  rw [can_of_bare bare rfl, direct?_isSome]
  cases absent : source.isNull with
  | true =>
      obtain rfl : source = .null := by cases source <;> simp_all [Ty.isNull]
      rfl
  | false => simp [isPrimitive, found]

/-- A record converts to a nullable type just as to the type inside of it. -/
theorem record_can_nullable {implicitOnly : Bool} {decl : RecordType} {inner : Ty} :
    can implicitOnly (.record decl) (.nullable inner) = can implicitOnly (.record decl) inner := by
  rw [can_nullable rfl, Bool.or_eq_right_iff_imp]
  intro assigned
  cases Ty.standsFor_of_assignable assigned with
  | same equal => simp [Ty.beq_eq_same, Ty.same] at equal
  | nullable equal => exact can_of_assignable (Ty.assignable_of_beq equal)

theorem nullable_can_record {implicitOnly : Bool} {inner : Ty} {decl : RecordType} :
    can implicitOnly (.nullable inner) (.record decl) =
      (!implicitOnly && can implicitOnly inner (.record decl)) := by
  have unassigned : (Ty.nullable inner).assignable (.record decl) = false := rfl
  rw [nullable_can rfl, unassigned, Bool.false_or]

theorem assignable_nullable_self (ty : Ty) : ty.assignable (.nullable ty) = true :=
  Ty.StandsFor.assignable (.nullable (Ty.beq_self ty))

/-- Of the conversions that a record type declares, those that are declared for a type without null
can be used. One that goes to a nullable type is passed over: the record, and each record that derives
from it, converts to that type if and only if it converts to the type inside. One that comes from a
nullable type is never used implicitly, and explicitly if the type inside converts to the record,
which it does unless it is nullable once more. -/
theorem declared_usable_iff {decl : RecordType} {conversion : DeclaredConversion}
    (listed : conversion ∈ decl.conversions) (implicitOnly : Bool)
    (allowed : implicitOnly = true → conversion.implicit = true) :
    (∀ target, conversion.direction = .outgoing target →
      ∀ below : RecordType, decl ∈ below.ancestry →
        (can implicitOnly (.record below) target = true ↔
          (target.isNullable = true →
            can implicitOnly (.record below) target.underlying = true))) ∧
    ∀ source, conversion.direction = .incoming source →
      (can implicitOnly source (.record decl) = true ↔
        (source.isNullable = true → implicitOnly = false ∧
          can false source.underlying (.record decl) = true)) ∧
      (source.isNullable = true → source.underlying.isNullable = false →
        can false source (.record decl) = true) := by
  refine ⟨?_, ?_⟩
  · intro target leaves below inherits
    cases optional : target.isNullable with
    | false => simp [can_of_outgoing listed inherits allowed leaves optional]
    | true =>
        rw [Ty.eq_nullable optional, record_can_nullable]
        simp [Ty.underlying]
  · intro source enters
    cases optional : source.isNullable with
    | false => simp [can_of_incoming listed allowed enters (Ty.assignable_refl source) optional]
    | true =>
        have same := Ty.eq_nullable optional
        generalize source.underlying = inner at same
        subst same
        refine ⟨?_, ?_⟩
        · rw [nullable_can_record]
          cases implicitOnly <;> simp
        · intro _ bare
          have explicitly : false = true → conversion.implicit = true := by simp
          rw [nullable_can_record]
          exact can_of_incoming listed explicitly enters (assignable_nullable_self inner) bare

/-! A fare with conversions for types with null and without, and a fare that derives from it. -/

namespace Fares

def fare : RecordType :=
  ⟨"Fare", none, [⟨"amount", .numeric .decimal, .field, .shown, "Fare"⟩],
    [⟨0, .outgoing (.nullable .f64), true⟩, ⟨1, .incoming (.nullable (.numeric .decimal)), true⟩,
      ⟨2, .outgoing .string, true⟩]⟩

def reduced : RecordType :=
  ⟨"Reduced", some fare, fare.members, []⟩

/-- A reduced fare becomes a text without being asked, and an amount that may be missing becomes a
fare when it is asked for. -/
theorem declared_usable_iff_reduced :
    ⟨2, .outgoing .string, true⟩ ∈ fare.conversions ∧ fare ∈ reduced.ancestry ∧
    can true (.record reduced) .string = true ∧
    ⟨1, .incoming (.nullable (.numeric .decimal)), true⟩ ∈ fare.conversions ∧
    can false (.nullable (.numeric .decimal)) (.record fare) = true := by
  have text : ⟨2, .outgoing .string, true⟩ ∈ fare.conversions := by simp [fare]
  have amount : ⟨1, .incoming (.nullable (.numeric .decimal)), true⟩ ∈ fare.conversions := by
    simp [fare]
  have inherits : fare ∈ reduced.ancestry :=
    List.mem_cons_of_mem _ (RecordType.self_mem_ancestry fare)
  have written := (declared_usable_iff text true (fun _ => rfl)).1 _ rfl reduced inherits
  have read := (declared_usable_iff amount true (fun _ => rfl)).2 _ rfl
  exact ⟨text, inherits, written.mpr (by simp [Ty.isNullable]), amount, read.2 rfl rfl⟩

/-- A fare declares a conversion to numbers that may be missing and one from amounts that may be
missing, both implicit. The first cannot be used even if asked for, the second not implicitly. -/
theorem declared_for_nullable_refused :
    ⟨0, .outgoing (.nullable .f64), true⟩ ∈ fare.conversions ∧
    can false (.record fare) (.nullable .f64) = false ∧
    ⟨1, .incoming (.nullable (.numeric .decimal)), true⟩ ∈ fare.conversions ∧
    can true (.nullable (.numeric .decimal)) (.record fare) = false :=
  ⟨by simp [fare], rfl, by simp [fare], rfl⟩

end Fares

end RowQuery.Conversion
