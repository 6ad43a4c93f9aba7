import RowQuery.Calendar.Text
import RowQuery.Proofs.Text.Digits

/-!
Date-times read back from their text. Each reader takes exactly the digits that were written for it,
so that the rest of the text is there for the next one.
-/

namespace RowQuery.DateTime

open Text

/-- The date-times whose text with milliseconds says all: no leap second, a year of four digits, and
no part of a millisecond. -/
structure Portable (t : DateTime) : Prop where
  year_ge : 0 ≤ t.date.year
  year_le : t.date.year ≤ 9999
  ordinary : t.isLeapSecond = false
  wholeMilliseconds : t.nanosecond % 1000000 = 0

theorem readUnsigned?_padded {width n : Nat} (positive : 0 < width) (small : n < Nat.pow 10 width)
    (rest : List Char) : readUnsigned? width (padded width n ++ rest) = some (n, rest) := by
  have length := length_padded positive small
  have digits : (padded width n ++ []).takeWhile Char.isDigit = padded width n := by
    rw [List.takeWhile_append_of_pos fun c inside => isDigit_of_mem_padded inside,
      List.takeWhile_nil, List.append_nil]
  rw [List.append_nil] at digits
  obtain ⟨c, others, row, _⟩ := padded_eq_cons width n
  have filled : (padded width n).isEmpty = false := by rw [row]; rfl
  simp only [readUnsigned?, List.take_left' length, digits, filled, digitsValue_padded,
    List.drop_left' length, length, Bool.false_eq_true, if_false]

theorem readPair?_padded {n : Nat} (small : n < 100) (rest : List Char) :
    readPair? (padded 2 n ++ rest) = some (n, rest) := by
  rw [readPair?, dropWhile_isBlank_padded, readUnsigned?_padded (by decide) small]

theorem readYear?_padded {year : Nat} (small : year < 10000) (rest : List Char) :
    readYear? (padded 4 year ++ rest) = some ((year : Int), rest) := by
  have digits := readUnsigned?_padded (by decide : 0 < 4) small rest
  rw [readYear?, dropWhile_isBlank_padded]
  obtain ⟨c, others, row, digit⟩ := padded_eq_cons 4 year
  rw [row, List.cons_append] at digits ⊢
  split
  · rename_i signed
    obtain ⟨rfl, _⟩ := List.cons.inj signed
    exact absurd digit (by decide)
  · rename_i signed
    obtain ⟨rfl, _⟩ := List.cons.inj signed
    exact absurd digit (by decide)
  · rw [digits]
    rfl

theorem expect?_self (c : Char) (rest : List Char) : expect? c (c :: rest) = some rest := by
  simp [expect?]

theorem readDate?_written {date : Date} (year_ge : 0 ≤ date.year) (year_le : date.year ≤ 9999)
    (rest : List Char) :
    readDate? (padded 4 date.year.toNat ++ '-' :: (padded 2 date.month ++ '-' ::
      (padded 2 date.day ++ rest))) = some (date, rest) := by
  have valid := date.valid
  have year : ((date.year.toNat : Nat) : Int) = date.year := Int.toNat_of_nonneg year_ge
  have month : date.month < 100 := Nat.lt_of_le_of_lt valid.month_le (by decide)
  have day : date.day < 100 := by
    have longest : Date.daysInMonth date.year date.month ≤ 31 := by
      unfold Date.daysInMonth
      repeat' split
      all_goals decide
    have bound := valid.day_le
    omega
  have made : Date.make? date.year date.month date.day = some date := dif_pos valid
  simp only [readDate?, readYear?_padded (by omega : date.year.toNat < 10000), expect?_self,
    readPair?_padded month, readPair?_padded day, Option.bind_eq_bind, Option.bind_some, year, made]
  rfl

def milliseconds (fraction : Nat) : List Char :=
  (padded 9 fraction).take 3

theorem isDigit_of_mem_milliseconds {fraction : Nat} {c : Char} (inside : c ∈ milliseconds fraction) :
    c.isDigit = true :=
  isDigit_of_mem_padded (List.mem_of_mem_take inside)

theorem length_milliseconds {fraction : Nat} (small : fraction < 1000000000) :
    (milliseconds fraction).length = 3 := by
  rw [milliseconds, List.length_take, length_padded (by decide) small]
  rfl

theorem fractionValue_milliseconds {fraction : Nat} (small : fraction < 1000000000)
    (whole : fraction % 1000000 = 0) : fractionValue (milliseconds fraction) = fraction := by
  have length := length_milliseconds small
  have value : digitsValue (milliseconds fraction) = fraction / Nat.pow 10 (9 - 3) := by
    have width : (padded 9 fraction).length = 9 := length_padded (by decide) small
    rw [milliseconds, digitsValue_take (fun c inside => isDigit_of_mem_padded inside), width,
      digitsValue_padded]
  have kept : (milliseconds fraction).take 9 = milliseconds fraction :=
    List.take_of_length_le (by omega)
  simp only [fractionValue, kept, length, value]
  change fraction / 1000000 * 1000000 = fraction
  omega

theorem readFraction?_milliseconds {fraction : Nat} (small : fraction < 1000000000)
    (whole : fraction % 1000000 = 0) :
    readFraction? ('.' :: milliseconds fraction) = some fraction := by
  have filled : (milliseconds fraction).isEmpty = false := by
    rw [List.isEmpty_eq_false_iff, ← List.length_pos_iff, length_milliseconds small]
    decide
  have digits : (milliseconds fraction).all Char.isDigit = true :=
    List.all_eq_true.mpr fun c inside => isDigit_of_mem_milliseconds inside
  simp [readFraction?, filled, digits, fractionValue_milliseconds small whole]

theorem readTime?_written {t : DateTime} (ordinary : t.nanosecond < 1000000000)
    (whole : t.nanosecond % 1000000 = 0) :
    readTime? (padded 2 t.hour ++ ':' :: (padded 2 t.minute ++ ':' ::
      (padded 2 t.secondOfMinute ++ '.' :: milliseconds t.nanosecond))) =
        some (t.second, t.nanosecond) := by
  have bound := t.second_lt
  have hour : t.hour < 24 := by rw [DateTime.hour]; omega
  have minute : t.minute < 60 := Nat.mod_lt _ (by decide)
  have second : t.secondOfMinute < 60 := Nat.mod_lt _ (by decide)
  have seconds : readSeconds? (':' :: (padded 2 t.secondOfMinute ++ '.' ::
      milliseconds t.nanosecond)) = some (t.secondOfMinute, t.nanosecond) := by
    simp only [readSeconds?, readPair?_padded (by omega : t.secondOfMinute < 100),
      readFraction?_milliseconds ordinary whole, Option.bind_eq_bind, Option.bind_some, second,
      if_true]
  have total : t.hour * 3600 + t.minute * 60 + t.secondOfMinute = t.second := by
    rw [DateTime.hour, DateTime.minute, DateTime.secondOfMinute]
    omega
  simp only [readTime?, readPair?_padded (by omega : t.hour < 100), expect?_self,
    readPair?_padded (by omega : t.minute < 100), seconds, Option.bind_eq_bind, Option.bind_some,
    hour, minute, and_self, if_true, total]

theorem write_eq {t : DateTime} (portable : t.Portable) :
    t.write 'T' 3 = String.ofList (padded 4 t.date.year.toNat ++ '-' :: (padded 2 t.date.month ++
      '-' :: (padded 2 t.date.day ++ 'T' :: (padded 2 t.hour ++ ':' :: (padded 2 t.minute ++ ':' ::
        (padded 2 t.secondOfMinute ++ '.' :: milliseconds t.nanosecond)))))) := by
  have ordinary : t.nanosecond < 1000000000 := by
    simpa [isLeapSecond] using portable.ordinary
  have year : Date.yearText t.date.year = padded 4 t.date.year.toNat := by
    have ge := portable.year_ge
    have le := portable.year_le
    have magnitude : t.date.year.natAbs = t.date.year.toNat := by omega
    simp only [Date.yearText, magnitude]
    rw [if_neg (by omega), if_neg (by omega)]
  simp only [write, Date.text, year, Nat.div_eq_of_lt ordinary, Nat.mod_eq_of_lt ordinary,
    Nat.add_zero, milliseconds, List.append_assoc, List.cons_append, List.nil_append]

theorem read?_write {t : DateTime} (portable : t.Portable) : read? (t.write 'T' 3) = some t := by
  have ordinary : t.nanosecond < 1000000000 := by
    simpa [isLeapSecond] using portable.ordinary
  obtain ⟨first, others, row, firstDigit⟩ := padded_eq_cons 4 t.date.year.toNat
  obtain ⟨last, ends⟩ : ∃ last, (milliseconds t.nanosecond).getLast? = some last := by
    rw [← Option.isSome_iff_exists, List.getLast?_isSome, ← List.length_pos_iff,
      length_milliseconds ordinary]
    decide
  have lastDigit := isDigit_of_mem_milliseconds (List.mem_of_getLast? ends)
  rw [read?, write_eq portable, trim_of_digits (by rw [row]; rfl)
    (by simp [List.getLast?_append, List.getLast?_cons, ends]) firstDigit lastDigit,
    String.toList_ofList, readDate?_written portable.year_ge portable.year_le]
  simp only [Option.bind_eq_bind, Option.bind_some, List.isEmpty_cons, Bool.false_eq_true, if_false,
    readTime?_written ordinary portable.wholeMilliseconds]
  exact dif_pos ⟨t.second_lt, t.nanosecond_lt⟩

end RowQuery.DateTime
