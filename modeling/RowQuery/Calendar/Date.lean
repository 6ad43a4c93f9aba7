/-! Days of the proleptic Gregorian calendar. -/

namespace RowQuery

namespace Date

def isLeapYear (year : Int) : Bool :=
  year % 4 == 0 && (year % 100 != 0 || year % 400 == 0)

def daysInMonth (year : Int) (month : Nat) : Nat :=
  match month with
  | 2 => if isLeapYear year then 29 else 28
  | 4 | 6 | 9 | 11 => 30
  | _ => 31

structure Valid (year : Int) (month day : Nat) : Prop where
  year_ge : -262143 ≤ year
  year_le : year ≤ 262142
  month_ge : 1 ≤ month
  month_le : month ≤ 12
  day_ge : 1 ≤ day
  day_le : day ≤ daysInMonth year month

instance (year : Int) (month day : Nat) : Decidable (Valid year month day) :=
  if h : -262143 ≤ year ∧ year ≤ 262142 ∧ 1 ≤ month ∧ month ≤ 12 ∧ 1 ≤ day ∧
      day ≤ daysInMonth year month then
    isTrue ⟨h.1, h.2.1, h.2.2.1, h.2.2.2.1, h.2.2.2.2.1, h.2.2.2.2.2⟩
  else
    isFalse fun v => h ⟨v.year_ge, v.year_le, v.month_ge, v.month_le, v.day_ge, v.day_le⟩

end Date

structure Date where
  year : Int
  month : Nat
  day : Nat
  valid : Date.Valid year month day
  deriving DecidableEq

namespace Date

def make? (year : Int) (month day : Nat) : Option Date :=
  if h : Valid year month day then some ⟨year, month, day, h⟩ else none

def compare (a b : Date) : Ordering :=
  (Ord.compare a.year b.year).then ((Ord.compare a.month b.month).then (Ord.compare a.day b.day))

def ordinal (d : Date) : Nat :=
  (List.range (d.month - 1)).foldr (fun m days => daysInMonth d.year (m + 1) + days) d.day

/-- Days since 1970-01-01. Years are taken to begin in March, so that the leap day is their last,
and are counted in cycles of 400. -/
def dayNumber (d : Date) : Int :=
  let year := if d.month ≤ 2 then d.year - 1 else d.year
  let cycle := year / 400
  let yearOfCycle := year % 400
  let month : Int := if d.month ≤ 2 then d.month + 9 else d.month - 3
  let dayOfYear := (153 * month + 2) / 5 + d.day - 1
  cycle * 146097 + yearOfCycle * 365 + yearOfCycle / 4 - yearOfCycle / 100 + dayOfYear - 719468

def ofDayNumber? (number : Int) : Option Date :=
  let shifted := number + 719468
  let cycle := shifted / 146097
  let dayOfCycle := shifted % 146097
  let yearOfCycle :=
    (dayOfCycle - dayOfCycle / 1460 + dayOfCycle / 36524 - dayOfCycle / 146096) / 365
  let dayOfYear := dayOfCycle - (365 * yearOfCycle + yearOfCycle / 4 - yearOfCycle / 100)
  let month := (5 * dayOfYear + 2) / 153
  let day := dayOfYear - (153 * month + 2) / 5 + 1
  let year := yearOfCycle + cycle * 400
  if month < 10 then make? year (month + 3).toNat day.toNat
  else make? (year + 1) (month - 9).toNat day.toNat

/-- The same day `months` later, or the last day of a month that is too short for it. -/
def addMonths? (d : Date) (months : Int) : Option Date :=
  let total := d.year * 12 + (d.month - 1 : Int) + months
  let year := total / 12
  let month := (total % 12).toNat + 1
  make? year month (min d.day (daysInMonth year month))

end Date

end RowQuery
