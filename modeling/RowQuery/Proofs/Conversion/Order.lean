import RowQuery.Conversion.Plan
import RowQuery.Proofs.Conversion.Typing

/-!
Conversions as orders. Between types that declare no conversions, a type converts implicitly to those
that it can stand for and to those that its numbers widen to, where null can be added on the way but
not taken away. Both relations are partial orders.
-/

namespace RowQuery

namespace Ty

theorem underlying_of_bare {ty : Ty} (bare : ty.isNullable = false) : ty.underlying = ty := by
  cases ty with
  | nullable inner => simp [isNullable] at bare
  | _ => rfl

theorem eq_nullable {ty : Ty} (optional : ty.isNullable = true) : ty = nullable ty.underlying := by
  cases ty with
  | nullable inner => rfl
  | _ => simp [isNullable] at optional

theorem eq_underlying_or (ty : Ty) : ty = ty.underlying ∨ ty = nullable ty.underlying := by
  cases optional : ty.isNullable with
  | false => exact .inl (underlying_of_bare optional).symm
  | true => exact .inr (eq_nullable optional)

end Ty

/-! ### Widening -/

namespace NumericKind

theorem widenings_subset (kind : NumericKind) :
    ∀ wider ∈ kind.widenings, wider.widenings ⊆ kind.widenings := by
  rcases kind with kind | _ | _ | _
  · cases kind <;> decide
  all_goals decide

theorem not_mem_widenings (kind : NumericKind) : kind ∉ kind.widenings := by
  rcases kind with kind | _ | _ | _
  · cases kind <;> decide
  all_goals decide

end NumericKind

theorem charWidenings_subset : ∀ kind ∈ charWidenings, kind.widenings ⊆ charWidenings := by
  decide

namespace Conversion

theorem widens_trans {a b c : Ty} (ab : widens a b = true) (bc : widens b c = true) :
    widens a c = true := by
  cases b with
  | numeric middle =>
      cases c with
      | numeric widest =>
          simp only [widens, NumericKind.widensTo, List.contains_iff_mem] at bc
          cases a with
          | numeric narrow =>
              simp only [widens, NumericKind.widensTo, List.contains_iff_mem] at ab ⊢
              exact narrow.widenings_subset middle ab bc
          | char =>
              simp only [widens, List.contains_iff_mem] at ab ⊢
              exact charWidenings_subset middle ab bc
          | _ => simp [widens] at ab
      | _ => simp [widens] at bc
  | _ => cases a <;> simp [widens] at ab

theorem widens_irrefl (ty : Ty) : widens ty ty = false := by
  cases ty with
  | numeric kind => simp [widens, NumericKind.widensTo, kind.not_mem_widenings]
  | _ => rfl

theorem isPrimitive_of_widens {a b : Ty} (widening : widens a b = true) :
    isPrimitive a = true ∧ isPrimitive b = true := by
  cases a <;> cases b <;> simp_all [widens, isPrimitive]

theorem toPrimitive?_isSome (ty : Ty) : (toPrimitive? ty).isSome = isPrimitive ty := by
  cases ty <;> rfl

/-! ### Which conversions there are -/

theorem primitive?_isSome {implicitOnly : Bool} {a b : Ty} :
    (primitive? implicitOnly a b).isSome =
      ((!implicitOnly || widens a b) && isPrimitive b) := by
  rw [primitive?]
  cases !implicitOnly || widens a b with
  | true => simp [toPrimitive?_isSome]
  | false => rfl

/-- Between types that are not nullable there are the conversions to what a type can stand for,
those of primitive types and those that are declared. -/
theorem direct?_isSome {implicitOnly : Bool} {a b : Ty} :
    (direct? implicitOnly a b).isSome =
      (a.assignable b ||
        if isPrimitive a && isPrimitive b then !implicitOnly || widens a b
        else !a.isNull && (declared? implicitOnly a b).isSome) := by
  rw [direct?]
  cases assigned : a.assignable b with
  | true => rfl
  | false =>
      cases absent : a.isNull with
      | true => cases a <;> simp_all [Ty.isNull, isPrimitive]
      | false =>
          cases primitives : isPrimitive a && isPrimitive b with
          | true =>
              have target := ((Bool.and_eq_true _ _).mp primitives).2
              simp [primitive?_isSome, target]
          | false => simp

theorem fromBare_of_bare {implicitOnly : Bool} {a b : Ty} (bare : b.isNullable = false) :
    fromBare? implicitOnly a b = direct? implicitOnly a b := by
  cases b with
  | nullable inner => simp [Ty.isNullable] at bare
  | _ => rfl

theorem can_of_bare {implicitOnly : Bool} {a b : Ty} (source : a.isNullable = false)
    (target : b.isNullable = false) : can implicitOnly a b = (direct? implicitOnly a b).isSome := by
  rw [can, plan_of_bare source, fromBare_of_bare target]

theorem can_nullable {implicitOnly : Bool} {a inner : Ty} (source : a.isNullable = false) :
    can implicitOnly a (.nullable inner) =
      (a.assignable (.nullable inner) || can implicitOnly a inner) := by
  rw [can, can, plan_of_bare source, plan_of_bare source, fromBare?]
  cases a.assignable (.nullable inner) <;> rfl

theorem nullable_can_nullable {implicitOnly : Bool} {source target : Ty} :
    can implicitOnly (.nullable source) (.nullable target) =
      ((Ty.nullable source).assignable (.nullable target) || can implicitOnly source target) := by
  rw [can, can, plan?]
  cases (Ty.nullable source).assignable (.nullable target) <;> simp

theorem nullable_can {implicitOnly : Bool} {source b : Ty} (target : b.isNullable = false) :
    can implicitOnly (.nullable source) b =
      ((Ty.nullable source).assignable b || (!implicitOnly && can implicitOnly source b)) := by
  have apart : ∀ inner, b = .nullable inner → False := by
    rintro inner rfl
    simp [Ty.isNullable] at target
  rw [can, can, plan?]
  · cases (Ty.nullable source).assignable b <;> cases implicitOnly <;> simp
  · exact apart

theorem can_of_assignable {implicitOnly : Bool} {a b : Ty} (assigned : a.assignable b = true) :
    can implicitOnly a b = true := by
  rw [can]
  cases a with
  | nullable inner => simp [plan?, assigned]
  | _ => cases b <;> simp [plan?, fromBare?, direct?, assigned]

/-! ### Implicit and explicit conversions -/

theorem outgoing?_mono {source : RecordType} {target : Ty}
    (found : (outgoing? true source target).isSome = true) :
    (outgoing? false source target).isSome = true := by
  simp only [outgoing?, List.findSome?_isSome_iff, List.find?_isSome] at found ⊢
  obtain ⟨decl, inherits, conversion, declares, chosen⟩ := found
  exact ⟨decl, inherits, conversion, declares, ((Bool.and_eq_true _ _).mp chosen).2⟩

theorem incoming?_mono {source : Ty} {target : RecordType}
    (found : (incoming? true source target).isSome = true) :
    (incoming? false source target).isSome = true := by
  simp only [incoming?, List.find?_isSome] at found ⊢
  obtain ⟨conversion, declares, chosen⟩ := found
  exact ⟨conversion, declares, ((Bool.and_eq_true _ _).mp chosen).2⟩

theorem declared?_isSome {implicitOnly : Bool} {a b : Ty} :
    (declared? implicitOnly a b).isSome = true ↔
      (∃ decl, a = .record decl ∧ (outgoing? implicitOnly decl b).isSome = true) ∨
        ∃ decl, b = .record decl ∧ (incoming? implicitOnly a decl).isSome = true := by
  cases a with
  | record decl =>
      cases leaving : outgoing? implicitOnly decl b with
      | some conversion => simp [declared?, leaving]
      | none => cases b <;> simp [declared?, leaving]
  | _ => cases b <;> simp [declared?]

theorem declared?_mono {a b : Ty} (found : (declared? true a b).isSome = true) :
    (declared? false a b).isSome = true := by
  rw [declared?_isSome] at found ⊢
  rcases found with ⟨decl, source, leaving⟩ | ⟨decl, target, entering⟩
  · exact .inl ⟨decl, source, outgoing?_mono leaving⟩
  · exact .inr ⟨decl, target, incoming?_mono entering⟩

theorem direct?_mono {a b : Ty} (found : (direct? true a b).isSome = true) :
    (direct? false a b).isSome = true := by
  rw [direct?_isSome, Bool.or_eq_true] at found ⊢
  refine found.imp_right fun converts => ?_
  cases primitives : isPrimitive a && isPrimitive b with
  | true => rfl
  | false =>
      rw [primitives, if_neg Bool.false_ne_true, Bool.and_eq_true] at converts
      rw [if_neg Bool.false_ne_true, Bool.and_eq_true]
      exact ⟨converts.1, declared?_mono converts.2⟩

theorem fromBare?_mono {a b : Ty} (found : (fromBare? true a b).isSome = true) :
    (fromBare? false a b).isSome = true := by
  fun_induction fromBare? true a b with
  | case1 inner assigned => simp [fromBare?, assigned]
  | case2 inner unassigned ih => simpa [fromBare?, unassigned] using ih found
  | case3 target bare =>
      rw [fromBare_of_bare (by cases target <;> simp_all [Ty.isNullable])]
      exact direct?_mono found

theorem can_mono {a b : Ty} (converts : can true a b = true) : can false a b = true := by
  cases a with
  | nullable source =>
      cases target : b.isNullable with
      | true =>
          rw [Ty.eq_nullable target, nullable_can_nullable, Bool.or_eq_true] at converts ⊢
          exact converts.imp_right can_mono
      | false =>
          rw [nullable_can target, Bool.or_eq_true] at converts
          rcases converts with assigned | converts
          · exact can_of_assignable assigned
          · simp at converts
  | _ =>
      rw [can, plan_of_bare rfl] at converts ⊢
      exact fromBare?_mono converts
termination_by sizeOf a

/-! ### Widening under null -/

/-- A type widens to another if its numbers do, where null can be added but not taken away. -/
def Widens (a b : Ty) : Prop :=
  widens a.underlying b.underlying = true ∧ (a.isNullable = true → b.isNullable = true)

theorem Widens.trans {a b c : Ty} (ab : Widens a b) (bc : Widens b c) : Widens a c :=
  ⟨widens_trans ab.1 bc.1, fun nullable => bc.2 (ab.2 nullable)⟩

theorem Widens.irrefl (ty : Ty) : ¬ Widens ty ty := by
  intro widening
  rw [Widens, widens_irrefl] at widening
  exact absurd widening.1 (by decide)

theorem isNullable_of_admitsNull {ty : Ty} (primitive : isPrimitive ty.underlying = true)
    (admits : ty.admitsNull = true) : ty.isNullable = true := by
  cases ty <;> simp_all [Ty.underlying, isPrimitive, Ty.admitsNull, Ty.isValueType]

/-! ### Types that declare no conversions -/

section Undeclared

variable {world : Ty → Prop} (unique : UniqueNames world)

include unique

/-- What can stand for a type of numbers, or a type of numbers can stand for. -/
theorem assignable_cases {a b : Ty} (first : world a) (second : world b)
    (primitive : isPrimitive a.underlying = true ∨ isPrimitive b.underlying = true)
    (assigned : a.assignable b = true) :
    b = .any ∨ (a = .null ∧ b.admitsNull = true) ∨
      (a.underlying = b.underlying ∧ (a.isNullable = true → b.isNullable = true)) := by
  cases Ty.standsFor_of_assignable assigned with
  | same equal =>
      rw [unique.eq_of_beq first second equal]
      exact .inr (.inr ⟨rfl, id⟩)
  | any => exact .inl rfl
  | null admits => exact .inr (.inl ⟨rfl, admits⟩)
  | nullable equal =>
      obtain ⟨inside, _, bare⟩ := unique.nullable _ second
      obtain rfl := unique.eq_of_beq first inside equal
      exact .inr (.inr ⟨Ty.underlying_of_bare bare, fun _ => rfl⟩)
  | enumerable | sequence _ _ | record _ => simp [Ty.underlying, isPrimitive] at primitive

theorem assignable_nullable {a inner : Ty}
    (second : world (.nullable inner)) (assigned : a.underlying.assignable inner = true) :
    a.assignable (.nullable inner) = true := by
  obtain ⟨_, value, bare⟩ := unique.nullable inner second
  have equal := Ty.eq_of_assignable_value value bare assigned
  cases sourceNull : a.isNullable with
  | false =>
      rw [Ty.underlying_of_bare sourceNull] at equal
      exact Ty.StandsFor.assignable (.nullable equal)
  | true =>
      rw [Ty.eq_nullable sourceNull]
      exact Ty.assignable_of_beq equal

theorem Widens.of_assignable {a b c : Ty} (first : world a)
    (second : world b) (ab : a.assignable b = true) (bc : Widens b c) :
    a.assignable c = true ∨ Widens a c := by
  have primitive := (isPrimitive_of_widens bc.1).1
  rcases assignable_cases unique first second (.inr primitive) ab with
    rfl | ⟨rfl, admits⟩ | ⟨same, optional⟩
  · simp [Ty.underlying, isPrimitive] at primitive
  · have target := bc.2 (isNullable_of_admitsNull primitive admits)
    left
    rw [Ty.null_assignable, Ty.admitsNull, target, Bool.or_true]
  · right
    rw [Widens, same]
    exact ⟨bc.1, fun source => bc.2 (optional source)⟩

theorem Widens.assignable {a b c : Ty} (second : world b)
    (third : world c) (ab : Widens a b) (bc : b.assignable c = true) :
    a.assignable c = true ∨ Widens a c := by
  have primitive := (isPrimitive_of_widens ab.1).2
  rcases assignable_cases unique second third (.inl primitive) bc with
    rfl | ⟨rfl, _⟩ | ⟨same, optional⟩
  · exact .inl (Ty.assignable_any a)
  · simp [Ty.underlying, isPrimitive] at primitive
  · right
    rw [Widens, ← same]
    exact ⟨ab.1, fun source => optional (ab.2 source)⟩

theorem Widens.not_assignable {a b : Ty} (first : world a)
    (second : world b) (widening : Widens a b) : b.assignable a = false := by
  rw [← Bool.not_eq_true]
  intro assigned
  have primitive := isPrimitive_of_widens widening.1
  rcases assignable_cases unique second first (.inl primitive.2) assigned with
    rfl | ⟨rfl, _⟩ | ⟨same, _⟩
  · simp [Ty.underlying, isPrimitive] at primitive
  · simp [Ty.underlying, isPrimitive] at primitive
  · rw [Widens, same, widens_irrefl] at widening
    exact absurd widening.1 (by decide)

variable (undeclared : ∀ decl, world (.record decl) → decl.conversions = [])

include undeclared

theorem declared?_eq_none {implicitOnly : Bool}
    {a b : Ty} (first : world a) (second : world b) : declared? implicitOnly a b = none := by
  rw [← Option.not_isSome_iff_eq_none, declared?_isSome]
  rintro (⟨decl, rfl, found⟩ | ⟨decl, rfl, found⟩)
  · simp only [outgoing?, List.findSome?_isSome_iff] at found
    obtain ⟨above, inherits, found⟩ := found
    simp [undeclared above (unique.mem_ancestry first inherits)] at found
  · simp [incoming?, undeclared decl second] at found

theorem direct?_iff {a b : Ty} (first : world a)
    (second : world b) :
    (direct? true a b).isSome = true ↔ a.assignable b = true ∨ widens a b = true := by
  rw [direct?_isSome, declared?_eq_none unique undeclared first second]
  simp only [Bool.or_eq_true]
  refine or_congr_right ?_
  split
  · simp
  · rename_i primitives
    refine ⟨fun found => by simp at found, fun widening => ?_⟩
    have both := isPrimitive_of_widens widening
    simp [both] at primitives

theorem can_nullable_iff {a inner : Ty}
    (first : world a) (second : world (.nullable inner)) :
    can true a (.nullable inner) = true ↔
      a.assignable (.nullable inner) = true ∨ widens a.underlying inner = true := by
  obtain ⟨inside, _, bareInner⟩ := unique.nullable inner second
  have absorbed : a.assignable (.nullable inner) = true ∨ a.underlying.assignable inner = true ↔
      a.assignable (.nullable inner) = true :=
    or_iff_left_of_imp (assignable_nullable unique second)
  cases bare : a.isNullable with
  | false =>
      rw [Ty.underlying_of_bare bare] at absorbed ⊢
      rw [can_nullable bare, Bool.or_eq_true, can_of_bare bare bareInner,
        direct?_iff unique undeclared first inside, ← or_assoc, absorbed]
  | true =>
      rw [Ty.eq_nullable bare] at first absorbed ⊢
      obtain ⟨known, _, bareSource⟩ := unique.nullable _ first
      rw [nullable_can_nullable, Bool.or_eq_true, can_of_bare bareSource bareInner,
        direct?_iff unique undeclared known inside, ← or_assoc]
      exact or_congr_left absorbed

/-- A type converts implicitly to what it can stand for and to what it widens to. -/
theorem can_iff {a b : Ty} (first : world a)
    (second : world b) : can true a b = true ↔ a.assignable b = true ∨ Widens a b := by
  rw [Widens]
  cases target : b.isNullable with
  | true =>
      rw [Ty.eq_nullable target] at second ⊢
      simpa [Ty.underlying] using can_nullable_iff unique undeclared first second
  | false =>
      rw [Ty.underlying_of_bare target]
      cases source : a.isNullable with
      | false =>
          rw [can_of_bare source target, direct?_iff unique undeclared first second,
            Ty.underlying_of_bare source]
          simp
      | true =>
          rw [Ty.eq_nullable source, nullable_can target]
          simp

theorem can_trans {a b c : Ty}
    (first : world a) (second : world b) (third : world c) (ab : can true a b = true)
    (bc : can true b c = true) : can true a c = true := by
  rw [can_iff unique undeclared first second] at ab
  rw [can_iff unique undeclared second third] at bc
  rw [can_iff unique undeclared first third]
  rcases ab with ab | ab
  · rcases bc with bc | bc
    · exact .inl (unique.assignable_trans first second third ab bc)
    · exact bc.of_assignable unique first second ab
  · rcases bc with bc | bc
    · exact ab.assignable unique second third bc
    · exact .inr (ab.trans bc)

theorem can_antisymm {a b : Ty}
    (first : world a) (second : world b) (ab : can true a b = true) (ba : can true b a = true) :
    (a == b) = true := by
  rw [can_iff unique undeclared first second] at ab
  rw [can_iff unique undeclared second first] at ba
  rcases ab with ab | ab
  · rcases ba with ba | ba
    · exact unique.assignable_antisymm first second ab ba
    · simp [ba.not_assignable unique second first] at ab
  · rcases ba with ba | ba
    · simp [ab.not_assignable unique first second] at ba
    · exact absurd (ab.trans ba) (Widens.irrefl a)

end Undeclared

/-! ### Bools -/

theorem can_bool {implicitOnly : Bool} {a b : Ty} (isBool : a.underlying = .bool)
    (primitive : isPrimitive b.underlying = true) :
    can implicitOnly a b = false ∧ can implicitOnly b a = false := by
  have sources := Ty.eq_underlying_or a
  have targets := Ty.eq_underlying_or b
  rw [isBool] at sources
  generalize b.underlying = target at primitive targets
  cases target with
  | char | numeric kind | enum decl =>
      rcases sources with rfl | rfl <;> rcases targets with rfl | rfl <;> cases implicitOnly <;>
        exact ⟨rfl, rfl⟩
  | _ => simp [isPrimitive] at primitive

end Conversion

/-! ### The orders -/

structure PartiallyOrders (world : Ty → Prop) (below : Ty → Ty → Bool) : Prop where
  refl : ∀ a, world a → below a a = true
  trans : ∀ a b c, world a → world b → world c → below a b = true → below b c = true →
    below a c = true
  antisymm : ∀ a b, world a → world b → below a b = true → below b a = true → (a == b) = true

/-- Where each type is known by its name, null is added to value types only and only once, and no
conversions are declared, both assignability and implicit conversion order the types. The first is
part of the second, the second is part of explicit conversion, and bools stay apart from numbers,
chars and enums. -/
theorem assignable_and_implicit_order {world : Ty → Prop} (unique : UniqueNames world)
    (undeclared : ∀ decl, world (.record decl) → decl.conversions = []) :
    PartiallyOrders world Ty.assignable ∧ PartiallyOrders world (Conversion.can true) ∧
    (∀ a b : Ty, a.assignable b = true → Conversion.can true a b = true) ∧
    (∀ a b : Ty, Conversion.can true a b = true → Conversion.can false a b = true) ∧
    ∀ (implicitOnly : Bool) (a b : Ty), a.underlying = .bool →
      Conversion.isPrimitive b.underlying = true →
      Conversion.can implicitOnly a b = false ∧ Conversion.can implicitOnly b a = false := by
  have assignability : PartiallyOrders world Ty.assignable :=
    { refl a _ := Ty.assignable_refl a
      trans _ _ _ first second third := unique.assignable_trans first second third
      antisymm _ _ first second := unique.assignable_antisymm first second }
  have implicitConversion : PartiallyOrders world (Conversion.can true) :=
    { refl a _ := Conversion.can_of_assignable (Ty.assignable_refl a)
      trans _ _ _ first second third := Conversion.can_trans unique undeclared first second third
      antisymm _ _ first second := Conversion.can_antisymm unique undeclared first second }
  exact ⟨assignability, implicitConversion, fun _ _ => Conversion.can_of_assignable,
    fun _ _ => Conversion.can_mono, fun _ _ _ => Conversion.can_bool⟩

namespace Bookshop

def season : EnumType :=
  ⟨"Season", .u8, [("Winter", 0), ("Summer", 6)]⟩

def product : RecordType :=
  ⟨"Product", none, [⟨"title", .string, .property, .shown, "Product"⟩], []⟩

def book : RecordType :=
  ⟨"Book", some product, product.members ++ [⟨"since", .enum season, .property, .shown, "Book"⟩], []⟩

inductive Stocked : Ty → Prop
  | plain {ty} : ty.isPlain = true → Stocked ty
  | nullable {inner} : Stocked inner → inner.isValueType = true → inner.isNullable = false →
      Stocked (.nullable inner)
  | sequence {element} : Stocked element → Stocked (.sequence element)
  | season : Stocked (.enum season)
  | product : Stocked (.record product)
  | book : Stocked (.record book)

theorem stocked_record {decl : RecordType} (known : Stocked (.record decl)) :
    decl = product ∨ decl = book := by
  cases known with
  | plain isPlain => simp [Ty.isPlain] at isPlain
  | product => exact .inl rfl
  | book => exact .inr rfl

theorem stocked_enum {decl : EnumType} (known : Stocked (.enum decl)) : decl = season := by
  cases known with
  | plain isPlain => simp [Ty.isPlain] at isPlain
  | season => rfl

theorem stocked_unique : UniqueNames Stocked where
  nullable inner known := by
    cases known with
    | plain isPlain => simp [Ty.isPlain] at isPlain
    | nullable inside value bare => exact ⟨inside, value, bare⟩
  sequence element known := by
    cases known with
    | plain isPlain => simp [Ty.isPlain] at isPlain
    | sequence inside => exact inside
  base decl base known extended := by
    rcases stocked_record known with rfl | rfl
    · simp [product] at extended
    · simp only [book, Option.some.injEq] at extended
      rw [← extended]
      exact .product
  oneEnum a b first second _ := by rw [stocked_enum first, stocked_enum second]
  oneRecord a b first second sameName := by
    rcases stocked_record first with rfl | rfl <;> rcases stocked_record second with rfl | rfl <;>
      simp_all [product, book]
  oneShape a b known := by
    cases known with
    | plain isPlain => simp [Ty.isPlain] at isPlain

theorem stocked_undeclared (decl : RecordType) (known : Stocked (.record decl)) :
    decl.conversions = [] := by
  rcases stocked_record known with rfl | rfl <;> rfl

/-- Lists of books are lists of products and so enumerable, chars with null widen by way of an integer
type to decimals with null, and no season comes from a bool even when asked. -/
theorem assignable_and_implicit_order_bookshop :
    UniqueNames Stocked ∧ (∀ decl, Stocked (.record decl) → decl.conversions = []) ∧
    (Ty.sequence (.record book)).assignable .enumerable = true ∧
    Conversion.can true (.nullable .char) (.nullable (.numeric .decimal)) = true ∧
    Conversion.can false (.nullable .char) (.nullable (.numeric .decimal)) = true ∧
    (∀ ty, Stocked ty → Conversion.can true ty (.nullable .char) = true →
      Conversion.can true (.nullable .char) ty = true → (ty == .nullable .char) = true) ∧
    Conversion.can false (.nullable .bool) (.enum season) = false := by
  obtain ⟨assignability, implicitConversion, _, explicitly, bools⟩ :=
    assignable_and_implicit_order stocked_unique stocked_undeclared
  have optional {kind : NumericKind} : Stocked (.nullable (.numeric kind)) :=
    .nullable (.plain rfl) rfl rfl
  have chars : Stocked (.nullable .char) := .nullable (.plain rfl) rfl rfl
  have widened : Conversion.can true (.nullable .char) (.nullable (.numeric .decimal)) = true :=
    implicitConversion.trans _ (.nullable (.integer .i64)) _ chars optional optional rfl rfl
  refine ⟨stocked_unique, stocked_undeclared, ?_, widened, explicitly _ _ widened, ?_, ?_⟩
  · exact assignability.trans _ (.sequence (.record product)) _ (.sequence .book)
      (.sequence .product) (.plain rfl) rfl rfl
  · intro ty known there back
    exact implicitConversion.antisymm _ _ known chars there back
  · exact (bools false (.nullable .bool) (.enum season) rfl rfl).1

end Bookshop

end RowQuery
