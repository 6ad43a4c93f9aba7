import RowQuery.Calendar.Date

/-!
Date-times in nanoseconds. A leap second is the second before it with a billion nanoseconds or more.
-/

namespace RowQuery

structure DateTime where
  date : Date
  /-- Second of the day. -/
  second : Nat
  nanosecond : Nat
  second_lt : second < 86400
  nanosecond_lt : nanosecond < 2000000000
  deriving DecidableEq

namespace DateTime

def make? (date : Date) (second nanosecond : Nat) : Option DateTime :=
  if h : second < 86400 ∧ nanosecond < 2000000000 then
    some ⟨date, second, nanosecond, h.1, h.2⟩
  else
    none

def epoch : DateTime :=
  ⟨⟨1970, 1, 1, by decide⟩, 0, 0, by decide, by decide⟩

def compare (a b : DateTime) : Ordering :=
  (a.date.compare b.date).then
    ((Ord.compare a.second b.second).then (Ord.compare a.nanosecond b.nanosecond))

def isLeapSecond (t : DateTime) : Bool :=
  1000000000 ≤ t.nanosecond

def hour (t : DateTime) : Nat := t.second / 3600

def minute (t : DateTime) : Nat := t.second / 60 % 60

def secondOfMinute (t : DateTime) : Nat := t.second % 60

def millisecond (t : DateTime) : Nat := t.nanosecond / 1000000

def ofSeconds? (date : Date) (second : Int) (nanosecond : Int) : Option DateTime := do
  let second := second + nanosecond / 1000000000
  let date ← Date.ofDayNumber? (date.dayNumber + second / 86400)
  make? date (second % 86400).toNat (nanosecond % 1000000000).toNat

/-- The time `milliseconds` later. From within a leap second it is counted as if the leap second
were not there, unless the result is still in it or in the second before. -/
def addMilliseconds? (t : DateTime) (milliseconds : Int) : Option DateTime :=
  let seconds := milliseconds.tdiv 1000
  let fraction := milliseconds.tmod 1000 * 1000000
  if !t.isLeapSecond then
    ofSeconds? t.date (t.second + seconds) (t.nanosecond + fraction)
  else if 0 < seconds ∨ (0 < fraction ∧ 2000000000 ≤ t.nanosecond + fraction) then
    ofSeconds? t.date (t.second + seconds) (t.nanosecond - 1000000000 + fraction)
  else if seconds < 0 then
    ofSeconds? t.date (t.second + 1 + seconds) (t.nanosecond - 1000000000 + fraction)
  else
    make? t.date t.second (t.nanosecond + fraction).toNat

def addMonths? (t : DateTime) (months : Int) : Option DateTime :=
  (t.date.addMonths? months).map fun date => { t with date }

/-- Nanoseconds from `b` to `a`. A leap second counts when it lies between them. -/
def nanosecondsSince (a b : DateTime) : Int :=
  let seconds : Int := (a.second : Int) - b.second
  let seconds :=
    if b.second < a.second ∧ b.isLeapSecond then seconds + 1
    else if a.second < b.second ∧ a.isLeapSecond then seconds - 1
    else seconds
  ((a.date.dayNumber - b.date.dayNumber) * 86400 + seconds) * 1000000000 +
    ((a.nanosecond : Int) - b.nanosecond)

/-- Whole months from the earlier `start` to `stop`: the last one counts once the day of the month
is reached. -/
def monthsUntil (start stop : DateTime) : Int :=
  let months := (stop.date.year - start.date.year) * 12 + stop.date.month - start.date.month
  if start.date.day ≤ stop.date.day then months else months - 1

def monthsSince (a b : DateTime) : Int :=
  if a.compare b == .lt then -(monthsUntil a b) else monthsUntil b a

end DateTime

end RowQuery
