import Mathlib.Algebra.Order.Field.Rat
import Mathlib.Data.List.Lex
import Mathlib.Data.String.Basic
import Mathlib.Order.WithBot
import Mathlib.Tactic.FieldSimp
import Mathlib.Tactic.Positivity
import Mathlib.Tactic.NormNum
import RowQuery.Value.Order

/-!
The order of values of one sort, with null below all of them, and that sorting by a key follows it.
Binary numbers are left out: they hold values that have no order.
-/

namespace RowQuery

/-- `below` is a strict order of the ranks of those `among`; several of them may share a rank. -/
structure WeakOrder {α : Type} (among : α → Prop) (below : α → α → Prop) : Prop where
  asymm : ∀ a b, among a → among b → below a b → ¬below b a
  between : ∀ a b c, among a → among b → among c → below a c → below a b ∨ below b c

namespace WeakOrder

variable {α β : Type} {among : α → Prop} {below : α → α → Prop}

theorem of_lt [LinearOrder β] : WeakOrder (fun _ : β => True) (· < ·) :=
  ⟨fun _ _ _ _ => lt_asymm,
    fun x y _ _ _ _ lower => (lt_or_ge x y).imp_right fun reached => reached.trans_lt lower⟩

theorem flip (order : WeakOrder among below) : WeakOrder among fun a b => below b a := by
  constructor
  · intro a b inA inB
    exact order.asymm b a inB inA
  · intro a b c inA inB inC lower
    exact (order.between c b a inC inB inA lower).symm

/-- An order of what `shows` says of things is an order of the things. -/
theorem pull {shown : β → Prop} {under : β → β → Prop} (order : WeakOrder shown under)
    (shows : α → β → Prop) (has : ∀ a, among a → ∃ x, shows a x ∧ shown x)
    (agree : ∀ a b x y, shows a x → shows b y → (below a b ↔ under x y)) :
    WeakOrder among below := by
  constructor
  · intro a b inA inB
    obtain ⟨x, showsA, shownX⟩ := has a inA
    obtain ⟨y, showsB, shownY⟩ := has b inB
    rw [agree a b x y showsA showsB, agree b a y x showsB showsA]
    exact order.asymm x y shownX shownY
  · intro a b c inA inB inC
    obtain ⟨x, showsA, shownX⟩ := has a inA
    obtain ⟨y, showsB, shownY⟩ := has b inB
    obtain ⟨z, showsC, shownZ⟩ := has c inC
    rw [agree a c x z showsA showsC, agree a b x y showsA showsB, agree b c y z showsB showsC]
    exact order.between x y z shownX shownY shownZ

/-- The second order decides where the first does not. -/
theorem lex {next : α → α → Prop} (first : WeakOrder among below) (second : WeakOrder among next) :
    WeakOrder among fun a b => below a b ∨ ¬below a b ∧ ¬below b a ∧ next a b := by
  constructor
  · rintro a b inA inB (lower | ⟨_, _, lower⟩) (upper | ⟨_, _, upper⟩)
    · exact first.asymm a b inA inB lower upper
    · contradiction
    · contradiction
    · exact second.asymm a b inA inB lower upper
  · rintro a b c inA inB inC (lower | ⟨notUp, notDown, lower⟩)
    · exact (first.between a b c inA inB inC lower).imp .inl .inl
    · by_cases left : below a b
      · exact .inl (.inl left)
      by_cases right : below b c
      · exact .inr (.inl right)
      -- all three share their first rank
      have notLeft : ¬below b a := fun back =>
        (first.between b c a inB inC inA back).elim right notDown
      have notRight : ¬below c b := fun back =>
        (first.between c a b inC inA inB back).elim notDown left
      exact (second.between a b c inA inB inC lower).imp
        (fun next => .inr ⟨left, notLeft, next⟩) (fun next => .inr ⟨right, notRight, next⟩)

end WeakOrder

def Decimal.value (d : Decimal) : ℚ :=
  d.signedMantissa / 10 ^ d.scale

def DateTime.parts (t : DateTime) : List Int :=
  [t.date.year, t.date.month, t.date.day, t.second, t.nanosecond]

inductive KeySort where
  | bool
  | char
  | string
  | dateTime
  | enum (name : String)
  | integer
  | decimal

/-- The values of a sort. Integers of all widths are of one sort. -/
inductive KeySort.Has : KeySort → Value → Prop where
  | bool (b : Bool) : Has .bool (.bool b)
  | char (c : Char) : Has .char (.char c)
  | string (s : String) : Has .string (.string s)
  | dateTime (t : DateTime) : Has .dateTime (.dateTime t)
  | enum (name : String) (decl : EnumType) (discriminant : Int) (named : decl.name = name) :
      Has (.enum name) (.enum decl discriminant)
  | integer (n : Integer) : Has .integer (.integer n)
  | decimal (d : Decimal) : Has .decimal (.decimal d)

def KeySort.Admits (sort : KeySort) (value : Value) : Prop :=
  value = .null ∨ sort.Has value

inductive Value.Below : Value → Value → Prop where
  | null (value : Value) (present : value.isNull = false) : Below .null value
  | bool : Below (.bool false) (.bool true)
  | char (a b : Char) (lower : a < b) : Below (.char a) (.char b)
  | string (a b : String) (lower : a < b) : Below (.string a) (.string b)
  | dateTime (a b : DateTime) (earlier : a.parts < b.parts) : Below (.dateTime a) (.dateTime b)
  | enum (s t : EnumType) (a b : Int) (same : s.name = t.name) (lower : a < b) :
      Below (.enum s a) (.enum t b)
  | integer (a b : Integer) (lower : a.value < b.value) : Below (.integer a) (.integer b)
  | decimal (a b : Decimal) (lower : a.value < b.value) : Below (.decimal a) (.decimal b)

def Compares {β : Type} [LT β] (order : Ordering) (x y : β) : Prop :=
  (order = .lt ↔ x < y) ∧ (order = .gt ↔ y < x)

namespace Compares

theorem compare {β : Type} [LinearOrder β] (x y : β) : Compares (Ord.compare x y) x y :=
  ⟨compare_lt_iff_lt, compare_gt_iff_gt⟩

theorem natCast (x y : Nat) : Compares (Ord.compare x y) (x : Int) (y : Int) := by
  simpa only [Compares, Int.ofNat_lt] using Compares.compare x y

theorem last {order : Ordering} {x y : Int} (only : Compares order x y) :
    Compares order [x] [y] := by
  simpa [Compares, List.cons_lt_cons_iff] using only

theorem cons {order rest : Ordering} {x y : Int} {xs ys : List Int} (first : Compares order x y)
    (others : Compares rest xs ys) : Compares (order.then rest) (x :: xs) (y :: ys) := by
  obtain ⟨lower, upper⟩ := first
  have tie : order = .eq ↔ x = y := by
    cases order <;> simp only [reduceCtorEq, true_iff, false_iff] at lower upper ⊢ <;> omega
  simp only [Compares, Ordering.then_eq_lt, Ordering.then_eq_gt, List.cons_lt_cons_iff, lower, upper,
    tie, others.1, others.2, true_and, eq_comm (a := y)]

end Compares

theorem Decimal.compares (a b : Decimal) : Compares (a.compare b) a.value b.value := by
  -- both values are counted in units of the finer of the two scales
  have counted : ∀ d : Decimal, ∀ scale, d.scale ≤ scale → d.value =
      ((d.signedMantissa * Int.pow 10 (scale - d.scale) : Int) : ℚ) / 10 ^ scale := by
    intro d scale within
    have split : (10 : ℚ) ^ scale = 10 ^ (scale - d.scale) * 10 ^ d.scale := by
      rw [← pow_add, Nat.sub_add_cancel within]
    have cast : ((Int.pow 10 (scale - d.scale) : Int) : ℚ) = 10 ^ (scale - d.scale) := by
      exact_mod_cast rfl
    rw [value, Int.cast_mul, cast, split]
    field_simp
  rw [counted a _ (le_max_left a.scale b.scale), counted b _ (le_max_right a.scale b.scale)]
  have unit : (0 : ℚ) < 10 ^ max a.scale b.scale := by positivity
  simp only [Compares, div_lt_div_iff_of_pos_right unit, Int.cast_lt]
  exact Compares.compare _ _

theorem DateTime.compares (a b : DateTime) : Compares (a.compare b) a.parts b.parts := by
  simp only [compare, Date.compare, Ordering.then_assoc, parts]
  exact .cons (.compare _ _) (.cons (.natCast _ _) (.cons (.natCast _ _)
    (.cons (.natCast _ _) (.last (.natCast _ _)))))

namespace Value.Below

variable {left right : Value}

theorem null_iff : Below .null right ↔ right.isNull = false :=
  ⟨fun below => by cases below; assumption, .null right⟩

theorem not_null : ¬Below left .null := by
  intro below
  cases below with
  | null _ present => simp [isNull] at present

theorem bool_iff {a b : Bool} : Below (.bool a) (.bool b) ↔ a < b := by
  constructor
  · rintro ⟨⟩
    decide
  · cases a <;> cases b <;> simp [bool]

theorem char_iff {a b : Char} : Below (.char a) (.char b) ↔ a < b :=
  ⟨fun below => by cases below; assumption, .char a b⟩

theorem string_iff {a b : String} : Below (.string a) (.string b) ↔ a < b :=
  ⟨fun below => by cases below; assumption, .string a b⟩

theorem dateTime_iff {a b : DateTime} : Below (.dateTime a) (.dateTime b) ↔ a.parts < b.parts :=
  ⟨fun below => by cases below; assumption, .dateTime a b⟩

theorem enum_iff {s t : EnumType} {a b : Int} (same : s.name = t.name) :
    Below (.enum s a) (.enum t b) ↔ a < b :=
  ⟨fun below => by cases below; assumption, .enum s t a b same⟩

theorem integer_iff {a b : Integer} : Below (.integer a) (.integer b) ↔ a.value < b.value :=
  ⟨fun below => by cases below; assumption, .integer a b⟩

theorem decimal_iff {a b : Decimal} : Below (.decimal a) (.decimal b) ↔ a.value < b.value :=
  ⟨fun below => by cases below; assumption, .decimal a b⟩

end Value.Below

def Value.letter : Value → Char
  | .char c => c
  | _ => 'a'

def Value.whole : Value → Int
  | .integer n => n.value
  | .enum _ discriminant => discriminant
  | _ => 0

namespace KeySort

variable {sort : KeySort} {a b : Value}

theorem isNull_null : Value.null.isNull = true := rfl

theorem Has.isNull (has : sort.Has a) : a.isNull = false := by
  cases has <;> rfl

/-- The sort gives each of its values a rank, with null below all others. -/
def Ranked (sort : KeySort) : Prop :=
  ∃ (β : Type) (_ : LinearOrder β) (rank : Value → WithBot β),
    ∀ a b, sort.Admits a → sort.Admits b →
      (a.Below b ↔ rank a < rank b) ∧ Compares (a.sortOrder b) (rank a) (rank b)

theorem ranked_of_payload {β : Type} [LinearOrder β] (payload : Value → β)
    (compared : ∀ a b, sort.Has a → sort.Has b → (a.Below b ↔ payload a < payload b) ∧
      ∃ order, a.compare? b = some order ∧ Compares order (payload a) (payload b)) :
    sort.Ranked := by
  refine ⟨β, inferInstance, fun value => if value.isNull then ⊥ else payload value, ?_⟩
  rintro a b (rfl | hasA) (rfl | hasB)
  · simp [Value.Below.not_null, Compares, Value.sortOrder, Value.isNull]
  · simp [Value.Below.null_iff, hasB.isNull, isNull_null, Compares, Value.sortOrder]
  · simp [Value.Below.not_null, hasA.isNull, isNull_null, Compares, Value.sortOrder]
  · obtain ⟨below, order, found, compares⟩ := compared a b hasA hasB
    simpa [Value.sortOrder, hasA.isNull, hasB.isNull, found, Compares] using ⟨below, compares⟩

theorem ranked (sort : KeySort) : sort.Ranked := by
  cases sort with
  | bool =>
      apply ranked_of_payload (·.bool?.getD false)
      rintro _ _ ⟨⟩ ⟨⟩
      exact ⟨Value.Below.bool_iff, _, rfl, .compare _ _⟩
  | char =>
      apply ranked_of_payload Value.letter
      rintro _ _ ⟨⟩ ⟨⟩
      exact ⟨Value.Below.char_iff, _, rfl, .compare _ _⟩
  | string =>
      apply ranked_of_payload (·.string?.getD "")
      rintro _ _ ⟨⟩ ⟨⟩
      exact ⟨Value.Below.string_iff, _, rfl, .compare _ _⟩
  | dateTime =>
      apply ranked_of_payload (·.dateTime?.elim [] DateTime.parts)
      rintro _ _ ⟨⟩ ⟨⟩
      exact ⟨Value.Below.dateTime_iff, _, rfl, DateTime.compares _ _⟩
  | enum name =>
      apply ranked_of_payload Value.whole
      intro a b hasA hasB
      cases hasA with
      | enum _ s a named =>
          cases hasB with
          | enum _ t b namedToo =>
              have same : s.name = t.name := named.trans namedToo.symm
              have compared : (Value.enum s a).compare? (.enum t b) = some (compare a b) := by
                simp [Value.compare?, same]
              exact ⟨Value.Below.enum_iff same, _, compared, .compare a b⟩
  | integer =>
      apply ranked_of_payload Value.whole
      rintro _ _ ⟨⟩ ⟨⟩
      exact ⟨Value.Below.integer_iff, _, rfl, .compare _ _⟩
  | decimal =>
      apply ranked_of_payload (·.decimal?.elim 0 Decimal.value)
      rintro _ _ ⟨⟩ ⟨⟩
      exact ⟨Value.Below.decimal_iff, _, rfl, Decimal.compares _ _⟩

theorem below_weakOrder (sort : KeySort) : WeakOrder sort.Admits Value.Below := by
  obtain ⟨_, _, rank, ranked⟩ := sort.ranked
  apply WeakOrder.of_lt.pull fun value x => sort.Admits value ∧ rank value = x
  · intro value admits
    exact ⟨_, ⟨admits, rfl⟩, trivial⟩
  · rintro a b _ _ ⟨admitsA, rfl⟩ ⟨admitsB, rfl⟩
    exact (ranked a b admitsA admitsB).1

theorem sortOrder_lt (admitsA : sort.Admits a) (admitsB : sort.Admits b) :
    a.sortOrder b = .lt ↔ a.Below b := by
  obtain ⟨_, _, _, ranked⟩ := sort.ranked
  rw [(ranked a b admitsA admitsB).1, (ranked a b admitsA admitsB).2.1]

theorem sortOrder_gt (admitsA : sort.Admits a) (admitsB : sort.Admits b) :
    a.sortOrder b = .gt ↔ b.Below a := by
  obtain ⟨_, _, _, ranked⟩ := sort.ranked
  rw [(ranked b a admitsB admitsA).1, (ranked a b admitsA admitsB).2.2]

end KeySort

end RowQuery
