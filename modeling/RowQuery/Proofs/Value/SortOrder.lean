import RowQuery.Proofs.Value.Formed
import RowQuery.Proofs.Value.Order

/-!
How far the order by which rows are sorted is a total order. It ties a value with itself and turns
around with its arguments. It is transitive among the values of one class with null below them, and
no further: two values that tie with one of another class need not tie with each other.
-/

namespace RowQuery

open Float.Model (UnpackedFloat)

namespace Compares

theorem eq_compare {β : Type} [LinearOrder β] {order : Ordering} {x y : β}
    (compares : Compares order x y) : order = Ord.compare x y := by
  rcases lt_trichotomy x y with lower | same | higher
  · rw [compares.1.mpr lower, compare_lt_iff_lt.mpr lower]
  · cases order <;> simp_all [Compares]
  · rw [compares.2.mpr higher, compare_gt_iff_gt.mpr higher]

theorem swap_eq {β : Type} [LinearOrder β] {order back : Ordering} {x y : β}
    (there : Compares order x y) (again : Compares back y x) : back = order.swap := by
  have turned : Compares order.swap y x := by
    simpa [Compares, Ordering.swap_eq_lt, Ordering.swap_eq_gt] using And.intro there.2 there.1
  rw [again.eq_compare, turned.eq_compare]

theorem neg {order : Ordering} {x y : Int} (compares : Compares order x y) :
    Compares order.swap (-x) (-y) := by
  simp [Compares, Ordering.swap_eq_lt, Ordering.swap_eq_gt, compares.1, compares.2]

end Compares

namespace Binary

/-! ### Binary numbers -/

/-- The numbers below all finite ones, the negative ones, zero, the positive ones, and those above. -/
def tier : UnpackedFloat → Int
  | .infinity sign => sign.apply 2
  | .finite sign .. => sign.apply 1
  | .zero _ | .notANumber => 0

def exponent : UnpackedFloat → Int
  | .finite sign _ exponent _ => sign.apply exponent
  | _ => 0

def mantissa : UnpackedFloat → Int
  | .finite sign mantissa _ _ => sign.apply mantissa
  | _ => 0

theorem compare_finite {s t : UnpackedFloat.Sign} {m n : Nat} {e f : Int} {p : 0 < m} {q : 0 < n} :
    (UnpackedFloat.finite s m e p).compare (.finite t n f q) =
      some ((compare (s.apply 1) (t.apply 1)).then
        ((compare (s.apply e) (t.apply f)).then (compare (s.apply m) (t.apply n)))) := by
  cases s <;> cases t
  case negative.negative =>
      refine congrArg some ?_
      rw [Ordering.swap_then, (Compares.compare e f).neg.eq_compare,
        (Compares.natCast m n).neg.eq_compare]
      rfl
  case positive.positive =>
      refine congrArg some ?_
      rw [(Compares.natCast m n).eq_compare]
      rfl
  all_goals rfl

theorem compare_eq {a b : UnpackedFloat} (numberA : a ≠ .notANumber) (numberB : b ≠ .notANumber) :
    a.compare b = some ((compare (tier a) (tier b)).then
      ((compare (exponent a) (exponent b)).then (compare (mantissa a) (mantissa b)))) := by
  cases a <;> cases b
  case notANumber.infinity | notANumber.notANumber | notANumber.zero | notANumber.finite =>
      exact absurd rfl numberA
  case infinity.notANumber | zero.notANumber | finite.notANumber => exact absurd rfl numberB
  case infinity.infinity s t => cases s <;> cases t <;> rfl
  case infinity.zero s _ => cases s <;> rfl
  case infinity.finite s t _ _ _ => cases s <;> cases t <;> rfl
  case zero.infinity _ t => cases t <;> rfl
  case zero.zero => rfl
  case zero.finite _ t _ _ _ => cases t <;> rfl
  case finite.infinity s _ _ _ t => cases s <;> cases t <;> rfl
  case finite.zero s _ _ _ _ => cases s <;> rfl
  case finite.finite => exact compare_finite

def rank (a : UnpackedFloat) : List Int :=
  [tier a, exponent a, mantissa a]

theorem compare_rank {a b : UnpackedFloat} (numberA : a ≠ .notANumber) (numberB : b ≠ .notANumber) :
    ∃ order, a.compare b = some order ∧ Compares order (rank a) (rank b) :=
  ⟨_, compare_eq numberA numberB, .cons (.compare _ _) (.cons (.compare _ _) (.last (.compare _ _)))⟩

theorem compare_notANumber {a b : UnpackedFloat} (strange : a = .notANumber ∨ b = .notANumber) :
    a.compare b = none := by
  rcases strange with rfl | rfl
  · rfl
  · cases a <;> rfl

theorem compare_swap (a b : UnpackedFloat) : b.compare a = (a.compare b).map Ordering.swap := by
  by_cases strange : a = .notANumber ∨ b = .notANumber
  · rw [compare_notANumber strange, compare_notANumber strange.symm]
    rfl
  · obtain ⟨numberA, numberB⟩ := not_or.mp strange
    obtain ⟨order, there, compares⟩ := compare_rank numberA numberB
    obtain ⟨back, again, comparesBack⟩ := compare_rank numberB numberA
    rw [there, again, compares.swap_eq comparesBack]
    rfl

theorem isNaN_iff (x : Float) : x.isNaN = true ↔ x.toModel.unpack = .notANumber := by
  change x.toModel.unpack.isNaN = true ↔ _
  cases x.toModel.unpack with
  | notANumber => exact ⟨fun _ => rfl, fun _ => rfl⟩
  | infinity _ | zero _ | finite _ _ _ _ => exact ⟨nofun, nofun⟩

theorem lt_iff (x y : Float) : x < y ↔ x.toModel.unpack.compare y.toModel.unpack = some .lt := by
  change decide ((x.toModel.unpack.compare y.toModel.unpack == some .lt) = true) = true ↔ _
  rw [decide_eq_true_eq, beq_iff_eq]

theorem beq_iff (x y : Float) :
    (x == y) = true ↔ x.toModel.unpack.compare y.toModel.unpack = some .eq := by
  change (x.toModel.unpack.compare y.toModel.unpack == some .eq) = true ↔ _
  rw [beq_iff_eq]

theorem compare?_eq (x y : Float) : compare? x y = x.toModel.unpack.compare y.toModel.unpack := by
  have back := compare_swap x.toModel.unpack y.toModel.unpack
  simp only [compare?, lt_iff, beq_iff, back]
  rcases x.toModel.unpack.compare y.toModel.unpack with _ | (_ | _ | _) <;> rfl

end Binary

/-! ### Turning around -/

theorem Number.compare?_swap (a b : Number) : b.compare? a = (a.compare? b).map Ordering.swap := by
  have binary (x y : Float) : Binary.compare? y x = (Binary.compare? x y).map Ordering.swap := by
    rw [Binary.compare?_eq, Binary.compare?_eq]
    exact Binary.compare_swap _ _
  cases a <;> cases b
  case integer.integer m n => exact congrArg some (Compares.swap_eq (.compare m n) (.compare n m))
  case decimal.decimal d e => exact congrArg some ((d.compares e).swap_eq (e.compares d))
  all_goals exact binary _ _

namespace Value

theorem compare?_of_numerals {left right : Value} {a b : Number} (foundLeft : left.numeral? = some a)
    (foundRight : right.numeral? = some b) : left.compare? right = a.compare? b := by
  cases left <;> cases right <;> simp_all [numeral?, numericKind?, number?, compare?]

theorem compare?_swap (left right : Value) :
    right.compare? left = (left.compare? right).map Ordering.swap := by
  cases left <;> cases right
  case bool.bool a b => exact congrArg some (Compares.swap_eq (.compare a b) (.compare b a))
  case char.char a b => exact congrArg some (Compares.swap_eq (.compare a b) (.compare b a))
  case string.string a b => exact congrArg some (Compares.swap_eq (.compare a b) (.compare b a))
  case dateTime.dateTime a b => exact congrArg some ((a.compares b).swap_eq (b.compares a))
  case enum.enum s a t b =>
      simp only [compare?, beq_iff_eq, eq_comm (a := t.name)]
      split
      · exact congrArg some (Compares.swap_eq (.compare a b) (.compare b a))
      · rfl
  case integer.integer | integer.float32 | integer.float64 | integer.decimal
      | float32.integer | float32.float32 | float32.float64 | float32.decimal
      | float64.integer | float64.float32 | float64.float64 | float64.decimal
      | decimal.integer | decimal.float32 | decimal.float64 | decimal.decimal =>
      rw [compare?_of_numerals rfl rfl, compare?_of_numerals rfl rfl]
      exact Number.compare?_swap _ _
  all_goals rfl

theorem sortOrder_swap (left right : Value) : right.sortOrder left = (left.sortOrder right).swap := by
  simp only [sortOrder, compare?_swap left right]
  cases left.isNull <;> cases right.isNull <;> simp only [Ordering.swap]
  cases left.compare? right <;> rfl

theorem sortOrder_self (value : Value) : value.sortOrder value = .eq := by
  have turned := sortOrder_swap value value
  cases same : value.sortOrder value <;> simp [same, Ordering.swap] at turned ⊢

end Value

/-! ### Classes of values -/

/-- The values of one class have one order. Binary numbers of both widths are of one class, and what
is in no order with anything is of one class too. -/
inductive OrderClass where
  | sort (sort : KeySort)
  | binary
  | unordered

def OrderClass.ofFloat (x : Float) : OrderClass :=
  if x.isNaN then unordered else binary

theorem OrderClass.ofFloat_cases (x : Float) :
    x.toModel.unpack = .notANumber ∧ ofFloat x = unordered ∨
    x.toModel.unpack ≠ .notANumber ∧ ofFloat x = binary := by
  rw [ofFloat]
  split
  · rename_i strange
    exact .inl ⟨(Binary.isNaN_iff x).mp strange, rfl⟩
  · rename_i number
    exact .inr ⟨fun same => number ((Binary.isNaN_iff x).mpr same), rfl⟩

theorem OrderClass.isNumber_of_binary {x : Float} (found : ofFloat x = binary) :
    x.toModel.unpack ≠ .notANumber := by
  rcases ofFloat_cases x with ⟨_, same⟩ | ⟨number, _⟩
  · simp [same] at found
  · exact number

theorem OrderClass.notANumber_of_unordered {x : Float} (found : ofFloat x = unordered) :
    x.toModel.unpack = .notANumber := by
  rcases ofFloat_cases x with ⟨strange, _⟩ | ⟨_, same⟩
  · exact strange
  · simp [same] at found

theorem OrderClass.ofFloat_ne_sort {x : Float} {s : KeySort} : ofFloat x ≠ sort s := by
  rcases ofFloat_cases x with ⟨_, same⟩ | ⟨_, same⟩ <;> simp [same]

namespace Value

def orderClass? : Value → Option OrderClass
  | null => none
  | bool _ => some (.sort .bool)
  | char _ => some (.sort .char)
  | integer _ => some (.sort .integer)
  | float32 x => some (.ofFloat (Binary.widen x))
  | float64 x => some (.ofFloat x)
  | decimal _ => some (.sort .decimal)
  | string _ => some (.sort .string)
  | dateTime _ => some (.sort .dateTime)
  | enum decl _ => some (.sort (.enum decl.name))
  | sequence .. | record .. | shape .. => some .unordered

/-- Whether the value may be a key where all keys that are not null are of those classes. -/
def Among (classes : OrderClass → Prop) (value : Value) : Prop :=
  ∀ c, value.orderClass? = some c → classes c

theorem orderClass?_of_present {value : Value} (present : value.isNull = false) :
    ∃ c, value.orderClass? = some c := by
  cases value <;> simp_all [isNull, orderClass?]

theorem number_of_binary {value : Value} (found : value.orderClass? = some .binary) :
    ∃ x, value.numeral? = some (.float x) ∧ x.toModel.unpack ≠ .notANumber := by
  cases value <;> simp [orderClass?] at found
  case float32 | float64 => exact ⟨_, rfl, OrderClass.isNumber_of_binary found⟩

theorem has_of_sort {value : Value} {sort : KeySort} (found : value.orderClass? = some (.sort sort)) :
    sort.Has value := by
  cases value <;> simp [orderClass?] at found
  case bool b => exact found ▸ .bool b
  case char c => exact found ▸ .char c
  case integer n => exact found ▸ .integer n
  case decimal d => exact found ▸ .decimal d
  case string s => exact found ▸ .string s
  case dateTime t => exact found ▸ .dateTime t
  case enum decl discriminant => exact found ▸ .enum _ decl discriminant rfl
  case float32 | float64 => exact absurd found OrderClass.ofFloat_ne_sort

theorem compare?_notANumber {left : Value} {x : Float} (found : left.numeral? = some (.float x))
    (strange : x.toModel.unpack = .notANumber) (right : Value) : left.compare? right = none := by
  cases other : right.numeral? with
  | some b =>
      rw [compare?_of_numerals found other]
      have apart (y : Float) : Binary.compare? x y = none :=
        (Binary.compare?_eq x y).trans (Binary.compare_notANumber (.inl strange))
      cases b <;> exact apart _
  | none =>
      cases left <;> simp [numeral?, numericKind?] at found <;>
        cases right <;> simp [numeral?, numericKind?, number?] at other <;> rfl

/-- What has no order ties with everything that is not null. -/
theorem compare?_unordered {left : Value} (found : left.orderClass? = some .unordered) (right : Value) :
    left.compare? right = none := by
  cases left <;> simp [orderClass?] at found
  case float32 | float64 =>
      exact compare?_notANumber rfl (OrderClass.notANumber_of_unordered found) right
  all_goals cases right <;> rfl

end Value

namespace OrderClass

def Ranked (c : OrderClass) : Prop :=
  ∃ (β : Type) (_ : LinearOrder β) (rank : Value → β),
    ∀ a b, a.Among (· = c) → b.Among (· = c) → Compares (a.sortOrder b) (rank a) (rank b)

theorem ranked_of_payload {c : OrderClass} {β : Type} [LinearOrder β] (payload : Value → β)
    (compared : ∀ a b, a.orderClass? = some c → b.orderClass? = some c →
      Compares ((a.compare? b).getD .eq) (payload a) (payload b)) : c.Ranked := by
  refine ⟨WithBot β, inferInstance, fun value => if value.isNull then ⊥ else payload value, ?_⟩
  intro a b amongA amongB
  cases absentA : a.isNull <;> cases absentB : b.isNull
  · obtain ⟨_, foundA⟩ := Value.orderClass?_of_present absentA
    obtain ⟨_, foundB⟩ := Value.orderClass?_of_present absentB
    obtain rfl := amongA _ foundA
    obtain rfl := amongB _ foundB
    simpa [Value.sortOrder, absentA, absentB, Compares] using compared a b foundA foundB
  all_goals simp [Value.sortOrder, absentA, absentB, Compares]

def binaryRank (value : Value) : List Int :=
  match value.numeral? with
  | some (.float x) => Binary.rank x.toModel.unpack
  | _ => []

theorem ranked (c : OrderClass) : c.Ranked := by
  cases c with
  | sort sort =>
      obtain ⟨β, _, rank, ranked⟩ := sort.ranked
      have admits {value : Value} (among : value.Among (· = .sort sort)) : sort.Admits value := by
        rcases Value.eq_null_or value with absent | present
        · exact .inl absent
        · obtain ⟨_, found⟩ := Value.orderClass?_of_present present
          obtain rfl := among _ found
          exact .inr (Value.has_of_sort found)
      exact ⟨WithBot β, inferInstance, rank, fun a b amongA amongB =>
        (ranked a b (admits amongA) (admits amongB)).2⟩
  | binary =>
      apply ranked_of_payload binaryRank
      intro a b foundA foundB
      obtain ⟨x, numberA, isNumberA⟩ := Value.number_of_binary foundA
      obtain ⟨y, numberB, isNumberB⟩ := Value.number_of_binary foundB
      obtain ⟨order, compared, compares⟩ := Binary.compare_rank isNumberA isNumberB
      have found : a.compare? b = some order := by
        rw [Value.compare?_of_numerals numberA numberB, ← compared]
        exact Binary.compare?_eq x y
      simpa [found, binaryRank, numberA, numberB] using compares
  | unordered =>
      apply ranked_of_payload fun _ => ()
      intro a b foundA _
      simp [Value.compare?_unordered foundA, Compares]

theorem Ranked.trans {c : OrderClass} (ranked : c.Ranked) {x y z : Value} (amongX : x.Among (· = c))
    (amongY : y.Among (· = c)) (amongZ : z.Among (· = c)) (first : x.sortOrder y ≠ .gt)
    (second : y.sortOrder z ≠ .gt) : x.sortOrder z ≠ .gt := by
  obtain ⟨_, _, rank, compares⟩ := ranked
  rw [Ne, (compares _ _ amongX amongY).2, not_lt] at first
  rw [Ne, (compares _ _ amongY amongZ).2, not_lt] at second
  rw [Ne, (compares _ _ amongX amongZ).2, not_lt]
  exact first.trans second

end OrderClass

/-! ### Two classes together -/

/-- Of two values of a sort the lower one. Numbers are so large that the next one is the same binary
number. -/
def KeySort.low : KeySort → Value
  | bool => .bool false
  | char => .char 'a'
  | string => .string "a"
  | dateTime => .dateTime .epoch
  | enum name => .enum ⟨name, .i8, []⟩ 0
  | integer => .integer ⟨.i64, 9007199254740992, by decide⟩
  | decimal => .decimal { Decimal.zero with mantissa := 9007199254740992, mantissa_lt := by decide }

def KeySort.high : KeySort → Value
  | bool => .bool true
  | char => .char 'b'
  | string => .string "b"
  | dateTime => .dateTime { DateTime.epoch with second := 1, second_lt := by decide }
  | enum name => .enum ⟨name, .i8, []⟩ 1
  | integer => .integer ⟨.i64, 9007199254740993, by decide⟩
  | decimal => .decimal { Decimal.zero with mantissa := 9007199254740993, mantissa_lt := by decide }

theorem KeySort.orderClass?_low (s : KeySort) : s.low.orderClass? = some (.sort s) := by
  cases s <;> rfl

theorem KeySort.orderClass?_high (s : KeySort) : s.high.orderClass? = some (.sort s) := by
  cases s <;> rfl

theorem KeySort.high_low (s : KeySort) : s.high.sortOrder s.low = .gt := by
  cases s with
  | enum name =>
      have above : compare (1 : Int) 0 = .gt := rfl
      simp [high, low, Value.sortOrder, Value.isNull, Value.compare?, above]
  | bool | char | string | dateTime | integer | decimal => decide

namespace OrderClass

def sample : OrderClass → Value
  | sort s => s.low
  | binary => .float64 9007199254740992
  | unordered => .sequence .any []

theorem orderClass?_sample (c : OrderClass) : c.sample.orderClass? = some c := by
  cases c with
  | sort s => exact s.orderClass?_low
  | binary | unordered => rfl

theorem ties {s : KeySort} {c : OrderClass} (different : c ≠ .sort s) :
    s.high.sortOrder c.sample = .eq ∧ c.sample.sortOrder s.low = .eq := by
  cases s <;> rcases c with (_ | _ | _ | _ | _ | _ | _) | _ | _
  case bool.sort.bool | char.sort.char | string.sort.string | dateTime.sort.dateTime
      | integer.sort.integer | decimal.sort.decimal => exact absurd rfl different
  case enum.sort.enum name other =>
      have apart : name ≠ other := by
        rintro rfl
        exact different rfl
      simp [sample, KeySort.high, KeySort.low, Value.sortOrder, Value.isNull, Value.compare?, apart,
        apart.symm]
  -- numbers of two classes meet as binary numbers, all others do not meet
  all_goals exact ⟨rfl, rfl⟩

def Clash (c d : OrderClass) : Prop :=
  ∃ x y z : Value, x.orderClass? = some c ∧ y.orderClass? = some d ∧ z.orderClass? = some c ∧
    x.sortOrder y = .eq ∧ y.sortOrder z = .eq ∧ x.sortOrder z = .gt

theorem clash_sort {s : KeySort} {c : OrderClass} (different : c ≠ .sort s) : Clash (.sort s) c :=
  ⟨s.high, c.sample, s.low, s.orderClass?_high, c.orderClass?_sample, s.orderClass?_low,
    (ties different).1, (ties different).2, s.high_low⟩

theorem clash_binary : Clash .binary .unordered :=
  ⟨.float64 1, unordered.sample, .float64 0, rfl, rfl, rfl, rfl, rfl, rfl⟩

theorem clash {c d : OrderClass} (different : c ≠ d) : Clash c d ∨ Clash d c := by
  cases c with
  | sort s => exact .inl (clash_sort different.symm)
  | binary =>
      cases d with
      | sort s => exact .inr (clash_sort different)
      | binary => contradiction
      | unordered => exact .inl clash_binary
  | unordered =>
      cases d with
      | sort s => exact .inr (clash_sort different)
      | binary => exact .inr clash_binary
      | unordered => contradiction

theorem Clash.not_trans {c d : OrderClass} (clash : Clash c d) {classes : OrderClass → Prop}
    (hasC : classes c) (hasD : classes d) : ∃ x y z : Value, x.Among classes ∧ y.Among classes ∧
      z.Among classes ∧ x.sortOrder y ≠ .gt ∧ y.sortOrder z ≠ .gt ∧ x.sortOrder z = .gt := by
  obtain ⟨x, y, z, classX, classY, classZ, first, second, apart⟩ := clash
  have among {value : Value} {e : OrderClass} (found : value.orderClass? = some e) (has : classes e) :
      value.Among classes := by
    intro other same
    rwa [← Option.some.inj (found.symm.trans same)]
  exact ⟨x, y, z, among classX hasC, among classY hasD, among classZ hasC, by simp [first],
    by simp [second], apart⟩

/-- If there are not two of the classes, all keys are of one class, but for null. -/
theorem among_single {classes : OrderClass → Prop}
    (single : ∀ c d, classes c → classes d → c = d) :
    ∃ c, ∀ value : Value, value.Among classes → value.Among (· = c) := by
  by_cases some : ∃ c, classes c
  · obtain ⟨c, has⟩ := some
    exact ⟨c, fun value among d found => single d c (among d found) has⟩
  · exact ⟨.unordered, fun value among d found => absurd ⟨d, among d found⟩ some⟩

end OrderClass

/-- The order of rows by a key ties each value with itself and turns around with its arguments. It is
transitive among the values of some classes, and null, if and only if there are not two of them. -/
theorem Value.sortOrder_total (classes : OrderClass → Prop) :
    (∀ x : Value, x.sortOrder x = .eq) ∧
    (∀ x y : Value, y.sortOrder x = (x.sortOrder y).swap) ∧
    ((∀ x y z : Value, x.Among classes → y.Among classes → z.Among classes →
        x.sortOrder y ≠ .gt → y.sortOrder z ≠ .gt → x.sortOrder z ≠ .gt) ↔
      ∀ c d, classes c → classes d → c = d) := by
  refine ⟨sortOrder_self, sortOrder_swap, ?_, ?_⟩
  · intro transitive c d hasC hasD
    by_contra different
    rcases OrderClass.clash different with clash | clash
    · obtain ⟨x, y, z, amongX, amongY, amongZ, first, second, apart⟩ := clash.not_trans hasC hasD
      exact transitive x y z amongX amongY amongZ first second apart
    · obtain ⟨x, y, z, amongX, amongY, amongZ, first, second, apart⟩ := clash.not_trans hasD hasC
      exact transitive x y z amongX amongY amongZ first second apart
  · intro single x y z amongX amongY amongZ first second
    obtain ⟨c, only⟩ := OrderClass.among_single single
    exact c.ranked.trans (only x amongX) (only y amongY) (only z amongZ) first second

/-- An integer above another one, both of which tie with a decimal between them. -/
theorem Value.integers_tie_decimal :
    (integer ⟨.i64, 9007199254740993, by decide⟩).sortOrder
      (decimal ⟨false, 9007199254740992, 0, by decide, by decide⟩) = .eq ∧
    (decimal ⟨false, 9007199254740992, 0, by decide, by decide⟩).sortOrder
      (integer ⟨.i64, 9007199254740992, by decide⟩) = .eq ∧
    (integer ⟨.i64, 9007199254740993, by decide⟩).sortOrder
      (integer ⟨.i64, 9007199254740992, by decide⟩) = .gt :=
  ⟨rfl, rfl, rfl⟩

end RowQuery
