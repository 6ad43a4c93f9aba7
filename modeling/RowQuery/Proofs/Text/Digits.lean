import RowQuery.Text.Blank
import RowQuery.Text.Digits

/-!
Rows of digits: the number that one denotes, its length when it was padded, and what is left of the
number when the row is cut off. A text that begins and ends with digits has no white space to trim.
-/

namespace RowQuery.Text

/-! ### Numbers as rows of digits -/

theorem digitsValue_eq (digits : List Char) : digitsValue digits = Nat.ofDigitChars 10 digits 0 :=
  Nat.ofDigitChars_eq_foldl.symm

theorem digitsValue_append (first second : List Char) :
    digitsValue (first ++ second) =
      digitsValue first * Nat.pow 10 second.length + digitsValue second := by
  rw [digitsValue_eq, digitsValue_eq, digitsValue_eq, Nat.ofDigitChars_append,
    Nat.ofDigitChars_eq_ofDigitChars_zero, Nat.mul_comm, Nat.pow_eq]

theorem digitsValue_padded (width n : Nat) : digitsValue (padded width n) = n := by
  have digits : digitsValue (natDigits n) = n := by
    rw [digitsValue_eq, natDigits, Nat.ofDigitChars_ten_toDigits]
  have leading : digitsValue (zeros (width - (natDigits n).length)) = 0 := by
    rw [digitsValue_eq, zeros, Nat.ofDigitChars_replicate_zero, Nat.mul_zero]
  rw [padded, digitsValue_append, digits, leading, Nat.zero_mul, Nat.zero_add]

theorem isDigit_of_mem_padded {width n : Nat} {c : Char} (inside : c ∈ padded width n) :
    c.isDigit = true := by
  rcases List.mem_append.mp inside with leading | digit
  · rw [List.eq_of_mem_replicate leading]
    decide
  · exact Nat.isDigit_of_mem_toDigits (by decide) (by decide) digit

theorem length_padded {width n : Nat} (positive : 0 < width) (small : n < Nat.pow 10 width) :
    (padded width n).length = width := by
  have fits : (natDigits n).length ≤ width :=
    (Nat.length_toDigits_le_iff (by decide) positive).mpr small
  rw [padded, List.length_append, zeros, List.length_replicate]
  omega

theorem digit_bounds {c : Char} (digit : c.isDigit = true) : 48 ≤ c.toNat ∧ c.toNat ≤ 57 :=
  Char.isDigit_iff_toNat.mp digit

theorem digitValue_lt {c : Char} (digit : c.isDigit = true) : digitValue c < 10 := by
  have bounds := digit_bounds digit
  have zero : '0'.toNat = 48 := rfl
  rw [digitValue]
  omega

theorem digitsValue_lt {digits : List Char} (all : ∀ c ∈ digits, c.isDigit = true) :
    digitsValue digits < Nat.pow 10 digits.length := by
  induction digits with
  | nil => decide
  | cons c digits ih =>
      have first := digitValue_lt (all c List.mem_cons_self)
      have rest := ih fun d inside => all d (List.mem_cons_of_mem _ inside)
      have split : digitsValue (c :: digits) =
          digitValue c * Nat.pow 10 digits.length + digitsValue digits := by
        have joined := digitsValue_append [c] digits
        simpa [digitsValue] using joined
      have power : Nat.pow 10 (digits.length + 1) = Nat.pow 10 digits.length * 10 := rfl
      have bound := Nat.mul_le_mul_right (Nat.pow 10 digits.length) (Nat.le_of_lt_succ first)
      rw [split, List.length_cons, power]
      omega

/-- The digits after the first `count` are what is lost by a division. -/
theorem digitsValue_take {digits : List Char} (all : ∀ c ∈ digits, c.isDigit = true) (count : Nat) :
    digitsValue (digits.take count) = digitsValue digits / Nat.pow 10 (digits.length - count) := by
  have lost : digitsValue (digits.drop count) < Nat.pow 10 (digits.drop count).length :=
    digitsValue_lt fun c inside => all c (List.mem_of_mem_drop inside)
  have joined := digitsValue_append (digits.take count) (digits.drop count)
  rw [List.take_append_drop] at joined
  rw [List.length_drop] at lost joined
  have positive : 0 < Nat.pow 10 (digits.length - count) := Nat.pow_pos (by decide)
  rw [joined, Nat.mul_comm, Nat.mul_add_div positive, Nat.div_eq_of_lt lost, Nat.add_zero]

/-! ### White space -/

theorem isBlank_of_isDigit {c : Char} (digit : c.isDigit = true) : isBlank c = false := by
  obtain ⟨lower, upper⟩ := digit_bounds digit
  have after (bound : Nat) (small : bound ≤ 33) : ¬ c.toNat < bound := by omega
  have before : c.toNat < 133 := by omega
  simp [isBlank, blank, CodeSet.contains, CodeSet.memberFrom, after, before]

theorem padded_eq_cons (width n : Nat) :
    ∃ c rest, padded width n = c :: rest ∧ c.isDigit = true := by
  cases row : padded width n with
  | nil => simp [padded, natDigits, Nat.toDigits_ne_nil] at row
  | cons c rest => exact ⟨c, rest, rfl, isDigit_of_mem_padded (row ▸ List.mem_cons_self)⟩

theorem dropWhile_isBlank_padded (width n : Nat) (rest : List Char) :
    (padded width n ++ rest).dropWhile isBlank = padded width n ++ rest := by
  obtain ⟨c, others, row, digit⟩ := padded_eq_cons width n
  rw [row, List.cons_append, List.dropWhile_cons_of_neg (by simp [isBlank_of_isDigit digit])]

theorem trim_of_digits {text : List Char} {first last : Char} (starts : text.head? = some first)
    (ends : text.getLast? = some last) (firstDigit : first.isDigit = true)
    (lastDigit : last.isDigit = true) : trim (String.ofList text) = String.ofList text := by
  obtain ⟨rest, fromFirst⟩ := List.head?_eq_some_iff.mp starts
  obtain ⟨init, toLast⟩ := List.getLast?_eq_some_iff.mp ends
  have kept : text.dropWhile isBlank = text := by
    rw [fromFirst, List.dropWhile_cons_of_neg (by simp [isBlank_of_isDigit firstDigit])]
  have keptBack : text.reverse.dropWhile isBlank = text.reverse := by
    rw [toLast, List.reverse_concat,
      List.dropWhile_cons_of_neg (by simp [isBlank_of_isDigit lastDigit])]
  rw [trim, trimStart, trimEnd, String.toList_ofList, String.toList_ofList, kept, keptBack,
    List.reverse_reverse]

end RowQuery.Text
