import RowQuery.Proofs.Value.Order

/-!
Months between date-times and months added to them. Both count the months of the calendar through;
the days of the month decide about the last one.
-/

namespace RowQuery

namespace Date

variable {d later : Date} {n : Int}

theorem make?_eq_some {year : Int} {month day : Nat} : make? year month day = some later ↔
    later.year = year ∧ later.month = month ∧ later.day = day := by
  constructor
  · intro made
    rw [make?, Option.dite_none_right_eq_some] at made
    obtain ⟨valid, same⟩ := made
    obtain rfl := Option.some.inj same
    exact ⟨rfl, rfl, rfl⟩
  · rintro ⟨rfl, rfl, rfl⟩
    rw [make?, dif_pos later.valid]

/-- The months of all years are counted through. -/
theorem addMonths?_eq_some : d.addMonths? n = some later ↔
    later.year * 12 + later.month = d.year * 12 + d.month + n ∧
      later.day = min d.day (daysInMonth later.year later.month) := by
  have first := later.valid.month_ge
  have last := later.valid.month_le
  rw [addMonths?, make?_eq_some]
  constructor
  · rintro ⟨year, month, day⟩
    rw [← year, ← month] at day
    exact ⟨by omega, day⟩
  · rintro ⟨counted, day⟩
    have year : later.year = (d.year * 12 + (d.month - 1 : Int) + n) / 12 := by omega
    have month : later.month = ((d.year * 12 + (d.month - 1 : Int) + n) % 12).toNat + 1 := by omega
    refine ⟨year, month, ?_⟩
    rw [← year, ← month]
    exact day

end Date

namespace DateTime

def monthNumber (t : DateTime) : Int :=
  t.date.year * 12 + t.date.month

def DayReached (a b : DateTime) : Prop :=
  a.monthNumber < b.monthNumber ∨ a.monthNumber = b.monthNumber ∧ a.date.day ≤ b.date.day

/-- `later` is `d` moved by `n` months: the time of the day is kept, and the day of the month as far
as the month goes. -/
structure MonthsLater (d : DateTime) (n : Int) (later : DateTime) : Prop where
  month : later.monthNumber = d.monthNumber + n
  day : later.date.day = min d.date.day (Date.daysInMonth later.date.year later.date.month)
  second : later.second = d.second
  nanosecond : later.nanosecond = d.nanosecond

variable {a b c d later : DateTime} {n : Int}

/-! ### Months between date-times -/

theorem dayReached_of_le (ordered : a.parts ≤ b.parts) : a.DayReached b := by
  have aValid := a.date.valid
  have bValid := b.date.valid
  have first := And.intro aValid.month_ge bValid.month_ge
  have last := And.intro aValid.month_le bValid.month_le
  rw [← not_lt] at ordered
  simp only [parts, List.cons_lt_cons_iff] at ordered
  simp only [DayReached, monthNumber]
  omega

theorem dayReached_total (a b : DateTime) : a.DayReached b ∨ b.DayReached a :=
  (le_total a.parts b.parts).imp dayReached_of_le dayReached_of_le

theorem monthsUntil_eq (a b : DateTime) : monthsUntil a b =
    b.monthNumber - a.monthNumber - if b.date.day < a.date.day then 1 else 0 := by
  simp only [monthsUntil, monthNumber]
  split <;> split <;> omega

/-- Date-times of one day have no months between them, whichever is the earlier one. -/
theorem monthsSince_forward (reached : b.DayReached a) :
    a.monthsSince b =
      a.monthNumber - b.monthNumber - if a.date.day < b.date.day then 1 else 0 := by
  rw [monthsSince]
  split
  · rename_i earlier
    have before := (DateTime.compares a b).1.mp (beq_iff_eq.mp earlier)
    have back := dayReached_of_le before.le
    rw [monthsUntil_eq]
    simp only [DayReached] at reached back
    split <;> split <;> omega
  · exact monthsUntil_eq b a

theorem monthsSince_backward (reached : a.DayReached b) :
    a.monthsSince b =
      a.monthNumber - b.monthNumber + if b.date.day < a.date.day then 1 else 0 := by
  rw [monthsSince]
  split
  · rw [monthsUntil_eq]
    omega
  · rename_i later
    have after : ¬ a.parts < b.parts := fun before =>
      later (beq_iff_eq.mpr ((DateTime.compares a b).1.mpr before))
    have back := dayReached_of_le (not_lt.mp after)
    rw [monthsUntil_eq]
    simp only [DayReached] at reached back
    split <;> split <;> omega

theorem monthsSince_cases (a b : DateTime) :
    (a.DayReached b ∧ a.monthsSince b =
        a.monthNumber - b.monthNumber + if b.date.day < a.date.day then 1 else 0) ∨
      (b.DayReached a ∧ a.monthsSince b =
        a.monthNumber - b.monthNumber - if a.date.day < b.date.day then 1 else 0) :=
  (dayReached_total a b).imp (fun reached => ⟨reached, monthsSince_backward reached⟩)
    fun reached => ⟨reached, monthsSince_forward reached⟩

theorem monthsSince_neg (a b : DateTime) : a.monthsSince b = -b.monthsSince a := by
  rcases dayReached_total a b with reached | reached
  · rw [monthsSince_backward reached, monthsSince_forward reached]
    omega
  · rw [monthsSince_forward reached, monthsSince_backward reached]
    omega

theorem monthsSince_mono (ordered : a.parts ≤ b.parts) (c : DateTime) :
    a.monthsSince c ≤ b.monthsSince c := by
  have reached := dayReached_of_le ordered
  -- each of the two is before `c` or after it
  rcases monthsSince_cases a c with ⟨aReached, aMonths⟩ | ⟨aReached, aMonths⟩ <;>
    rcases monthsSince_cases b c with ⟨bReached, bMonths⟩ | ⟨bReached, bMonths⟩
  all_goals
    rw [aMonths, bMonths]
    simp only [DayReached] at reached aReached bReached
    split <;> split <;> omega

theorem monthsSince_bounds (a b : DateTime) :
    -7000000 ≤ a.monthsSince b ∧ a.monthsSince b ≤ 7000000 := by
  have aYears := And.intro a.date.valid.year_ge a.date.valid.year_le
  have bYears := And.intro b.date.valid.year_ge b.date.valid.year_le
  have months := And.intro a.date.valid.month_le b.date.valid.month_le
  rcases monthsSince_cases a b with ⟨_, counted⟩ | ⟨_, counted⟩
  all_goals
    rw [counted]
    simp only [monthNumber]
    split <;> omega

/-! ### Months added to date-times -/

theorem addMonths?_eq_some : d.addMonths? n = some later ↔ MonthsLater d n later := by
  rw [addMonths?, Option.map_eq_some_iff]
  constructor
  · rintro ⟨date, found, rfl⟩
    obtain ⟨month, day⟩ := Date.addMonths?_eq_some.mp found
    exact ⟨month, day, rfl, rfl⟩
  · rintro ⟨month, day, second, nanosecond⟩
    refine ⟨later.date, Date.addMonths?_eq_some.mpr ⟨month, day⟩, ?_⟩
    cases later
    cases d
    simp_all

theorem MonthsLater.monthsSince_eq (moved : MonthsLater d n later) :
    later.monthsSince d =
      if 0 < n ∧ Date.daysInMonth later.date.year later.date.month < d.date.day then
        n - 1 else n := by
  have month := moved.month
  have day := moved.day
  by_cases forth : 0 < n
  · rw [monthsSince_forward (.inl (by omega))]
    split <;> split <;> omega
  · have back : later.DayReached d := by
      simp only [DayReached]
      omega
    rw [monthsSince_backward back, if_neg (by omega), if_neg (by omega)]
    omega

end DateTime

end RowQuery
