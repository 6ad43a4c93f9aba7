/-! The kinds of numbers. -/

namespace RowQuery

inductive IntegerKind where
  | i8 | u8 | i16 | u16 | i32 | u32 | i64 | u64
  deriving DecidableEq

namespace IntegerKind

def name : IntegerKind → String
  | i8 => "i8"
  | u8 => "u8"
  | i16 => "i16"
  | u16 => "u16"
  | i32 => "i32"
  | u32 => "u32"
  | i64 => "i64"
  | u64 => "u64"

def isUnsigned : IntegerKind → Bool
  | u8 | u16 | u32 | u64 => true
  | i8 | i16 | i32 | i64 => false

def bits : IntegerKind → Nat
  | i8 | u8 => 8
  | i16 | u16 => 16
  | i32 | u32 => 32
  | i64 | u64 => 64

def least (kind : IntegerKind) : Int :=
  if kind.isUnsigned then 0 else -Int.pow 2 (kind.bits - 1)

def greatest (kind : IntegerKind) : Int :=
  if kind.isUnsigned then Int.pow 2 kind.bits - 1 else Int.pow 2 (kind.bits - 1) - 1

def Holds (kind : IntegerKind) (n : Int) : Prop :=
  kind.least ≤ n ∧ n ≤ kind.greatest

instance (kind : IntegerKind) (n : Int) : Decidable (kind.Holds n) :=
  inferInstanceAs (Decidable (_ ∧ _))

theorem holds_zero (kind : IntegerKind) : kind.Holds 0 := by
  cases kind <;> decide

theorem Holds.bounds {kind : IntegerKind} {n : Int} (held : kind.Holds n) :
    -9223372036854775808 ≤ n ∧ n ≤ 18446744073709551615 := by
  have extremes : -9223372036854775808 ≤ kind.least ∧ kind.greatest ≤ 18446744073709551615 := by
    cases kind <;> decide
  exact ⟨Int.le_trans extremes.1 held.1, Int.le_trans held.2 extremes.2⟩

end IntegerKind

inductive NumericKind where
  | integer (kind : IntegerKind)
  | f32
  | f64
  | decimal
  deriving DecidableEq

namespace NumericKind

def all : List NumericKind :=
  [.integer .i8, .integer .u8, .integer .i16, .integer .u16, .integer .i32, .integer .u32,
    .integer .i64, .integer .u64, .f32, .f64, .decimal]

def name : NumericKind → String
  | integer kind => kind.name
  | f32 => "f32"
  | f64 => "f64"
  | decimal => "decimal"

def isFloat : NumericKind → Bool
  | f32 | f64 => true
  | integer _ | decimal => false

def isInteger : NumericKind → Bool
  | integer _ => true
  | f32 | f64 | decimal => false

def isUnsigned : NumericKind → Bool
  | integer kind => kind.isUnsigned
  | f32 | f64 | decimal => false

def integerRange? : NumericKind → Option (Int × Int)
  | integer kind => some (kind.least, kind.greatest)
  | f32 | f64 | decimal => none

end NumericKind

structure Integer where
  kind : IntegerKind
  value : Int
  holds : kind.Holds value
  deriving DecidableEq

namespace Integer

def ofInt? (kind : IntegerKind) (n : Int) : Option Integer :=
  if h : kind.Holds n then some ⟨kind, n, h⟩ else none

def zero (kind : IntegerKind) : Integer :=
  ⟨kind, 0, kind.holds_zero⟩

end Integer

end RowQuery
