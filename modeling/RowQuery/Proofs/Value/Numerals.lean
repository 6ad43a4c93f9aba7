import RowQuery.Proofs.Conversion.Widening
import RowQuery.Proofs.Text.Digits
import RowQuery.Value.Text

/-!
Numeric literals and the numbers that they denote. An integer of up to 96 bits is read from each of its
numerals, as a value of the first kind that holds it. The text of a number is read as that number
again, and the digits after the point are counted the same.
-/

namespace RowQuery

/-! ### Numerals of integers -/

namespace Text

inductive SignFor (n : Int) : List Char → Prop
  | none : 0 ≤ n → SignFor n []
  | plus : 0 ≤ n → SignFor n ['+']
  | minus : n ≤ 0 → SignFor n ['-']

inductive NumeralOf (n : Int) : String → Prop
  | written {before sign after : List Char} (width : Nat) (blankBefore : ∀ c ∈ before, isBlank c = true)
      (signed : SignFor n sign) (blankAfter : ∀ c ∈ after, isBlank c = true) :
      NumeralOf n (String.ofList (before ++ (sign ++ padded width n.natAbs) ++ after))

theorem SignFor.numeral {n : Int} {sign : List Char} (signed : SignFor n sign) (width : Nat) :
    NumeralOf n (String.ofList (sign ++ padded width n.natAbs)) := by
  have written := NumeralOf.written width (List.forall_mem_nil _) signed (List.forall_mem_nil _)
  rwa [List.nil_append, List.append_nil] at written

theorem dropWhile_isBlank {before core : List Char} (blank : ∀ c ∈ before, isBlank c = true)
    (filled : core ≠ []) (seen : ∀ c ∈ core, isBlank c = false) (after : List Char) :
    (before ++ core ++ after).dropWhile isBlank = core ++ after := by
  obtain ⟨first, rest, rfl⟩ := List.exists_cons_of_ne_nil filled
  rw [List.append_assoc, List.dropWhile_append_of_pos blank, List.cons_append,
    List.dropWhile_cons_of_neg (by simp [seen first])]

theorem trim_between {before core after : List Char} (blankBefore : ∀ c ∈ before, isBlank c = true)
    (filled : core ≠ []) (seen : ∀ c ∈ core, isBlank c = false)
    (blankAfter : ∀ c ∈ after, isBlank c = true) :
    trim (String.ofList (before ++ core ++ after)) = String.ofList core := by
  have front := dropWhile_isBlank blankBefore filled seen after
  have back : (core ++ after).reverse.dropWhile isBlank = core.reverse := by
    have reversed : (after.reverse ++ core.reverse ++ []).dropWhile isBlank = core.reverse ++ [] :=
      dropWhile_isBlank (by simpa using blankAfter) (by simpa using filled) (by simpa using seen) []
    simpa using reversed
  rw [trim, trimStart, trimEnd, String.toList_ofList, String.toList_ofList, front, back,
    List.reverse_reverse]

theorem readSign_of_digit {c : Char} (digit : c.isDigit = true) (rest : List Char) :
    readSign (c :: rest) = (false, c :: rest) := by
  rw [readSign]
  · rintro after same
    obtain ⟨rfl, _⟩ := List.cons.inj same
    simp at digit
  · rintro after same
    obtain ⟨rfl, _⟩ := List.cons.inj same
    simp at digit

theorem readNat?_padded (width n : Nat) : readNat? (padded width n) = some n := by
  have digits : (padded width n).all Char.isDigit = true :=
    List.all_eq_true.mpr fun _ inside => isDigit_of_mem_padded inside
  obtain ⟨c, rest, row, _⟩ := padded_eq_cons width n
  have filled : (padded width n).isEmpty = false := by rw [row, List.isEmpty_cons]
  rw [readNat?, digits, filled, digitsValue_padded]
  rfl

theorem readSign_padded (width n : Nat) : readSign (padded width n) = (false, padded width n) := by
  obtain ⟨c, rest, row, digit⟩ := padded_eq_cons width n
  rw [row, readSign_of_digit digit]

theorem readInt?_of_readSign {text : List Char} {negative : Bool} {width n : Nat}
    (signed : readSign text = (negative, padded width n)) :
    readInt? text = some (if negative then -(n : Int) else n) := by
  rw [readInt?, signed]
  simp only [readNat?_padded]
  rfl

theorem SignFor.readInt? {n : Int} {sign : List Char} (signed : SignFor n sign) (width : Nat) :
    readInt? (sign ++ padded width n.natAbs) = some n := by
  cases signed with
  | none nonneg =>
      have positive : n.natAbs = n := Int.natAbs_of_nonneg nonneg
      rw [List.nil_append, readInt?_of_readSign (readSign_padded width n.natAbs)]
      simp [positive]
  | plus nonneg =>
      have positive : n.natAbs = n := Int.natAbs_of_nonneg nonneg
      rw [readInt?_of_readSign rfl]
      simp [positive]
  | minus nonpos =>
      have negative : -(n.natAbs : Int) = n := by omega
      rw [readInt?_of_readSign rfl]
      simp only [if_true, negative]

/-- Neither a sign nor a digit is white space, a point or the mark of an exponent. -/
theorem SignFor.mem_plain {n : Int} {sign : List Char} (signed : SignFor n sign) {width : Nat} {c : Char}
    (inside : c ∈ sign ++ padded width n.natAbs) :
    isBlank c = false ∧ (c == '.' || c == 'e' || c == 'E') = false := by
  rcases List.mem_append.mp inside with mark | digit
  · cases signed with
    | none _ => simp at mark
    | plus _ =>
        rw [List.mem_singleton.mp mark]
        decide
    | minus _ =>
        rw [List.mem_singleton.mp mark]
        decide
  · have isDigit := isDigit_of_mem_padded digit
    refine ⟨isBlank_of_isDigit isDigit, ?_⟩
    rw [Bool.eq_false_iff]
    intro special
    simp only [Bool.or_eq_true, beq_iff_eq] at special
    rcases special with (rfl | rfl) | rfl <;> simp at isDigit

end Text

/-! ### Integer literals -/

namespace Value

/-- The value of an integer in the first of the kinds that literals are tried in, or a decimal without
a fraction if none of them holds it. -/
inductive Narrowest (n : Int) : Value → Prop
  | integer {before after : List IntegerKind} {kind : IntegerKind} (held : kind.Holds n) :
      before ++ kind :: after = [.i32, .u32, .i64, .u64] → (∀ other ∈ before, ¬other.Holds n) →
      Narrowest n (.integer ⟨kind, n, held⟩)
  | decimal {d : Decimal} : (∀ kind ∈ [.i32, .u32, .i64, .u64], ¬IntegerKind.Holds kind n) →
      d.scale = 0 → d.value = n → Narrowest n (.decimal d)

theorem ofIntegerLiteral?_narrowest {n : Int} (small : n.natAbs < Decimal.mantissaLimit) :
    ∃ value, ofIntegerLiteral? n = some value ∧ value.Narrowest n := by
  have refused {kind : IntegerKind} (none : Integer.ofInt? kind n = none) : ¬kind.Holds n := by
    intro held
    rw [Integer.ofInt?, dif_pos held] at none
    simp at none
  cases found : literalKinds.findSome? (Integer.ofInt? · n) with
  | some m =>
      refine ⟨.integer m, by rw [ofIntegerLiteral?, found], ?_⟩
      obtain ⟨before, kind, after, listed, made, unheld⟩ := List.findSome?_eq_some_iff.mp found
      by_cases held : kind.Holds n
      · rw [Integer.ofInt?, dif_pos held] at made
        rw [← Option.some.inj made]
        exact .integer held listed.symm fun other inside => refused (unheld other inside)
      · rw [Integer.ofInt?, dif_neg held] at made
        simp at made
  | none =>
      -- No kind holds it, so it has no room in 64 bits; a decimal has room for 96.
      have made : Decimal.ofInt? n = some ⟨decide (n < 0), n.natAbs, 0, small, by decide⟩ :=
        dif_pos ⟨small, by decide⟩
      obtain ⟨d, same, exact⟩ := Decimal.ofInt?_eq small
      rw [made] at same
      rw [← Option.some.inj same] at exact
      refine ⟨_, by rw [ofIntegerLiteral?, found, made]; rfl, .decimal ?_ rfl exact⟩
      intro kind inside
      exact refused (List.findSome?_eq_none_iff.mp found kind inside)

theorem ofLiteral_of_trimmed {text : String} {core : List Char} {value : Value}
    (trimmed : Text.trim text = String.ofList core)
    (read : (if hasFractionMark core then none else (Text.readInt? core).bind ofIntegerLiteral?).or
      (ofFractionLiteral? core) = some value) : ofLiteral text = .ok value := by
  unfold ofLiteral
  simp only [trimmed, String.toList_ofList, read]

theorem ofLiteral_numeral {n : Int} (small : n.natAbs < Decimal.mantissaLimit) {text : String}
    (numeral : Text.NumeralOf n text) : ∃ value, ofLiteral text = .ok value ∧ value.Narrowest n := by
  obtain ⟨value, made, narrowest⟩ := ofIntegerLiteral?_narrowest small
  refine ⟨value, ?_, narrowest⟩
  cases numeral with
  | @written before sign after width blankBefore signed blankAfter =>
      have filled : sign ++ Text.padded width n.natAbs ≠ [] := by
        obtain ⟨c, rest, row, _⟩ := Text.padded_eq_cons width n.natAbs
        simp [row]
      apply ofLiteral_of_trimmed (Text.trim_between blankBefore filled
        (fun c inside => (signed.mem_plain inside).1) blankAfter)
      have unmarked : hasFractionMark (sign ++ Text.padded width n.natAbs) = false := by
        rw [hasFractionMark, List.any_eq_false]
        intro c inside
        rw [(signed.mem_plain inside).2]
        decide
      rw [unmarked, signed.readInt?, if_neg Bool.false_ne_true, Option.bind_some, made]
      rfl

end Value

/-! ### Decimals with a fraction -/

namespace Decimal

def Scan.pushAll (scan : Scan) (digits : List Char) : Scan :=
  digits.foldl (fun scan c => scan.push (Text.digitValue c)) scan

theorem Scan.mantissa_pushAll (scan : Scan) (digits : List Char) :
    (scan.pushAll digits).mantissa =
      digits.foldl (fun value c => 10 * value + Text.digitValue c) scan.mantissa := by
  induction digits generalizing scan with
  | nil => rfl
  | cons c digits ih => exact ih (scan.push (Text.digitValue c))

theorem Scan.mantissa_le_pushAll (scan : Scan) (digits : List Char) :
    scan.mantissa ≤ (scan.pushAll digits).mantissa := by
  induction digits generalizing scan with
  | nil => exact Nat.le_refl _
  | cons c digits ih =>
      have pushed : (scan.push (Text.digitValue c)).mantissa =
        10 * scan.mantissa + Text.digitValue c := rfl
      have further := ih (scan.push (Text.digitValue c))
      rw [pushAll, List.foldl_cons, ← pushAll]
      omega

theorem Scan.scale_pushAll (scan : Scan) (digits : List Char) :
    (scan.pushAll digits).scale =
      if scan.point then scan.scale + digits.length else scan.scale := by
  induction digits generalizing scan with
  | nil => simp [pushAll]
  | cons c digits ih =>
      rw [pushAll, List.foldl_cons, ← pushAll, ih, push, List.length_cons]
      cases scan.point with
      | false => rfl
      | true =>
          simp only [if_true]
          omega

theorem Scan.point_pushAll (scan : Scan) (digits : List Char) :
    (scan.pushAll digits).point = scan.point := by
  induction digits generalizing scan with
  | nil => rfl
  | cons c digits ih => rw [pushAll, List.foldl_cons, ← pushAll, ih, push]

theorem Scan.digit_pushAll (scan : Scan) {digits : List Char} (seen : digits ≠ [] ∨ scan.digit = true) :
    (scan.pushAll digits).digit = true := by
  induction digits generalizing scan with
  | nil => simpa [pushAll] using seen
  | cons c digits ih =>
      rw [pushAll, List.foldl_cons, ← pushAll]
      exact ih _ (.inr rfl)

/-- Digits are taken as long as there is room for all of them. -/
theorem scan?_digits {scan : Scan} {digits : List Char} (all : ∀ c ∈ digits, c.isDigit = true)
    (places : if scan.point then scan.scale + digits.length ≤ maxScale else scan.scale < maxScale)
    (small : (scan.pushAll digits).mantissa < mantissaLimit) (rest : List Char) :
    scan? scan (digits ++ rest) = scan? (scan.pushAll digits) rest := by
  induction digits generalizing scan with
  | nil => rfl
  | cons c digits ih =>
      obtain ⟨digit, others⟩ := List.forall_mem_cons.mp all
      rw [Scan.pushAll, List.foldl_cons, ← Scan.pushAll] at small ⊢
      have fits : 10 * scan.mantissa + Text.digitValue c < mantissaLimit :=
        Nat.lt_of_le_of_lt ((scan.push (Text.digitValue c)).mantissa_le_pushAll digits) small
      have place : scan.scale < maxScale := by
        cases point : scan.point with
        | false => simpa [point] using places
        | true =>
            simp only [point, if_true, List.length_cons] at places
            omega
      rw [List.cons_append, scan?, if_pos digit, if_pos ⟨place, fits⟩]
      refine ih others ?_ small
      cases point : scan.point with
      | false => simpa [Scan.push, point] using place
      | true =>
          simp only [point, if_true, List.length_cons] at places
          simp only [Scan.push, point, if_true]
          omega

def Scan.pass (scan : Scan) : Scan :=
  { scan with point := true }

@[simp] theorem Scan.pass_point (scan : Scan) : scan.pass.point = true := rfl

@[simp] theorem Scan.pass_scale (scan : Scan) : scan.pass.scale = scan.scale := rfl

@[simp] theorem Scan.pass_mantissa (scan : Scan) : scan.pass.mantissa = scan.mantissa := rfl

theorem scan?_point {scan : Scan} (before : scan.point = false) (rest : List Char) :
    scan? scan ('.' :: rest) = scan? scan.pass rest := by
  rw [scan?, if_neg (by decide), if_pos ⟨rfl, by rw [before]; rfl⟩, Scan.pass]

/-- The digits after the point, up to the end. -/
theorem scan?_pass {scan : Scan} {fraction : List Char} (seen : scan.digit = true)
    (all : ∀ c ∈ fraction, c.isDigit = true) (places : scan.scale + fraction.length ≤ maxScale)
    (small : (scan.pass.pushAll fraction).mantissa < mantissaLimit) :
    scan? scan.pass fraction =
      some ((scan.pass.pushAll fraction).mantissa, scan.scale + fraction.length) := by
  have taken := scan?_digits all (by simpa using places) small []
  rw [List.append_nil] at taken
  have ended : (scan.pass.pushAll fraction).digit = true := Scan.digit_pushAll _ (.inr seen)
  rw [taken, scan?, if_pos ended, Scan.scale_pushAll, if_pos scan.pass_point, Scan.pass_scale]

theorem scan?_fraction {whole fraction : List Char} (filled : whole ≠ [])
    (all : ∀ c ∈ whole ++ fraction, c.isDigit = true) (places : fraction.length ≤ maxScale)
    (small : Text.digitsValue (whole ++ fraction) < mantissaLimit) :
    scan? .start (whole ++ '.' :: fraction) =
      some (Text.digitsValue (whole ++ fraction), fraction.length) := by
  have mantissa : ((Scan.start.pushAll whole).pass.pushAll fraction).mantissa =
      Text.digitsValue (whole ++ fraction) := by
    rw [Scan.mantissa_pushAll, Scan.pass_mantissa, Scan.mantissa_pushAll, Text.digitsValue,
      List.foldl_append, Scan.start]
  have scale : (Scan.start.pushAll whole).scale = 0 := Scan.scale_pushAll .start whole
  have smallWhole : (Scan.start.pushAll whole).mantissa < mantissaLimit := by
    rw [← mantissa] at small
    exact Nat.lt_of_le_of_lt (Scan.mantissa_le_pushAll (Scan.start.pushAll whole).pass fraction) small
  have room : if Scan.start.point then Scan.start.scale + whole.length ≤ maxScale
      else Scan.start.scale < maxScale := by
    simp [Scan.start]
  have upToPoint : scan? .start (whole ++ '.' :: fraction) =
      scan? (Scan.start.pushAll whole) ('.' :: fraction) :=
    scan?_digits (fun c inside => all c (List.mem_append_left _ inside)) room smallWhole _
  rw [upToPoint, scan?_point (Scan.point_pushAll .start whole), scan?_pass, mantissa, scale,
    Nat.zero_add]
  · exact Scan.digit_pushAll .start (.inl filled)
  · exact fun c inside => all c (List.mem_append_right _ inside)
  · rw [scale, Nat.zero_add]
    exact places
  · rwa [mantissa]

def signed (d : Decimal) : Decimal :=
  { d with negative := d.negative && d.mantissa != 0 }

theorem value_signed (d : Decimal) : d.signed.value = d.value := by
  have mantissa : d.signed.signedMantissa = d.signedMantissa := by
    rw [signedMantissa, signedMantissa, signed]
    by_cases zero : d.mantissa = 0
    · simp [zero]
    · simp [zero]
  rw [value, value, mantissa]
  rfl

def wholeDigits (d : Decimal) : List Char :=
  (Text.padded (d.scale + 1) d.mantissa).take
    ((Text.padded (d.scale + 1) d.mantissa).length - d.scale)

def fractionDigits (d : Decimal) : List Char :=
  (Text.padded (d.scale + 1) d.mantissa).drop
    ((Text.padded (d.scale + 1) d.mantissa).length - d.scale)

theorem wholeDigits_append (d : Decimal) :
    d.wholeDigits ++ d.fractionDigits = Text.padded (d.scale + 1) d.mantissa :=
  List.take_append_drop _ _

theorem text_eq (d : Decimal) :
    d.text = String.ofList ((if d.negative then ['-'] else []) ++ d.wholeDigits ++
      (if d.scale = 0 then [] else '.' :: d.fractionDigits)) := rfl

theorem scale_lt_padded (d : Decimal) : d.scale < (Text.padded (d.scale + 1) d.mantissa).length := by
  rw [Text.padded, List.length_append, Text.zeros, List.length_replicate]
  omega

theorem length_fractionDigits (d : Decimal) : d.fractionDigits.length = d.scale := by
  have long := d.scale_lt_padded
  rw [fractionDigits, List.length_drop]
  omega

theorem isDigit_of_mem_digits {d : Decimal} {c : Char} (inside : c ∈ d.wholeDigits ++ d.fractionDigits) :
    c.isDigit = true := by
  rw [wholeDigits_append] at inside
  exact Text.isDigit_of_mem_padded inside

theorem wholeDigits_eq_cons (d : Decimal) :
    ∃ c rest, d.wholeDigits = c :: rest ∧ c.isDigit = true := by
  have long := d.scale_lt_padded
  cases row : d.wholeDigits with
  | nil =>
      have none := congrArg List.length row
      rw [wholeDigits, List.length_take, List.length_nil] at none
      omega
  | cons c rest =>
      have inside : c ∈ d.wholeDigits := row ▸ List.mem_cons_self
      exact ⟨c, rest, rfl, isDigit_of_mem_digits (List.mem_append_left _ inside)⟩

theorem readPlain?_text {d : Decimal} (fraction : d.scale ≠ 0) :
    readPlain? d.text.toList = some d.signed := by
  obtain ⟨first, rest, row, isDigit⟩ := d.wholeDigits_eq_cons
  have places : d.fractionDigits.length ≤ maxScale := by
    rw [length_fractionDigits]
    exact d.scale_le
  have scanned := scan?_fraction (by simp [row]) (fun c => isDigit_of_mem_digits) places
    (by rw [wholeDigits_append, Text.digitsValue_padded]; exact d.mantissa_lt)
  rw [wholeDigits_append, Text.digitsValue_padded, length_fractionDigits] at scanned
  have sign : Text.readSign d.text.toList = (d.negative, d.wholeDigits ++ '.' :: d.fractionDigits) := by
    rw [text_eq, String.toList_ofList, if_neg fraction]
    cases d.negative with
    | true => rfl
    | false => rw [if_neg Bool.false_ne_true, List.nil_append, row, List.cons_append,
        Text.readSign_of_digit isDigit]
  rw [readPlain?, sign]
  simp only [scanned]
  exact dif_pos ⟨d.mantissa_lt, d.scale_le⟩

theorem isBlank_of_mem_text {d : Decimal} {c : Char} (inside : c ∈ d.text.toList) :
    Text.isBlank c = false := by
  have parts : c = '-' ∨ c = '.' ∨ c ∈ d.wholeDigits ++ d.fractionDigits := by
    rw [text_eq, String.toList_ofList, List.mem_append, List.mem_append] at inside
    rw [List.mem_append]
    rcases inside with (sign | whole) | after
    · split at sign
      · exact .inl (List.mem_singleton.mp sign)
      · simp at sign
    · exact .inr (.inr (.inl whole))
    · split at after
      · simp at after
      · rcases List.mem_cons.mp after with point | fraction
        · exact .inr (.inl point)
        · exact .inr (.inr (.inr fraction))
  rcases parts with rfl | rfl | digit
  · decide
  · decide
  · exact Text.isBlank_of_isDigit (isDigit_of_mem_digits digit)

theorem trim_text (d : Decimal) : Text.trim d.text = d.text := by
  obtain ⟨first, rest, row, _⟩ := d.wholeDigits_eq_cons
  have filled : d.text.toList ≠ [] := by
    rw [text_eq, String.toList_ofList, row]
    simp
  have trimmed := Text.trim_between (List.forall_mem_nil _) filled (fun c => isBlank_of_mem_text)
    (List.forall_mem_nil _)
  rwa [List.nil_append, List.append_nil, String.ofList_toList] at trimmed

theorem natAbs_signedMantissa (d : Decimal) : d.signedMantissa.natAbs = d.mantissa := by
  rw [signedMantissa]
  split <;> omega

theorem value_of_integral {d : Decimal} (integral : d.scale = 0) : d.value = d.signedMantissa := by
  have unit : d.unit = 1 := by rw [Decimal.unit, integral]
  rw [value_eq_iff, unit, Int.natCast_one, Int.mul_one]

theorem numeralOf_text {d : Decimal} (integral : d.scale = 0) :
    Text.NumeralOf d.signedMantissa d.text := by
  have digits : d.wholeDigits = Text.padded 1 d.signedMantissa.natAbs := by
    rw [wholeDigits, integral, Nat.sub_zero, List.take_length, natAbs_signedMantissa]
  have sign : Text.SignFor d.signedMantissa (if d.negative then ['-'] else []) := by
    rw [signedMantissa]
    split
    · exact .minus (by omega)
    · exact .none (by omega)
  rw [text_eq, if_pos integral, digits, List.append_nil]
  exact sign.numeral 1

end Decimal

theorem Text.numeralOf_toString (n : Int) : NumeralOf n (toString n) := by
  have digits (m : Nat) : natDigits m = padded 0 m := by simp [padded, zeros]
  cases n with
  | ofNat m =>
      have numeral := (SignFor.none (Int.natCast_nonneg m)).numeral 0
      rwa [Int.natAbs_natCast, ← digits, List.nil_append] at numeral
  | negSucc m =>
      have numeral := (SignFor.minus (Int.le_of_lt (Int.negSucc_lt_zero m))).numeral 0
      rwa [Int.natAbs_negSucc, ← digits, String.ofList_append] at numeral

namespace Value

def quantity? : Value → Option ℚ
  | .integer n => some (n.value : ℚ)
  | .decimal d => some d.value
  | _ => none

theorem Narrowest.quantity {n : Int} {value : Value} (narrowest : value.Narrowest n) :
    value.quantity? = some (n : ℚ) := by
  cases narrowest with
  | integer held _ _ => rfl
  | decimal _ _ exact => rw [quantity?, exact]

theorem ofLiteral_decimal {d : Decimal} (fraction : d.scale ≠ 0) :
    ofLiteral d.text = .ok (.decimal d.signed) := by
  have marked : hasFractionMark d.text.toList = true := by
    rw [hasFractionMark, List.any_eq_true]
    refine ⟨'.', ?_, rfl⟩
    rw [Decimal.text_eq, String.toList_ofList, if_neg fraction]
    simp
  apply ofLiteral_of_trimmed (d.trim_text.trans String.ofList_toList.symm)
  rw [if_pos marked, Option.none_or, ofFractionLiteral?, Decimal.read?,
    Decimal.readPlain?_text fraction, Option.some_or]

/-- An integer of up to 96 bits is read from each numeral for it, as a value of the first kind that
holds it. The text of an integer or a decimal is read as the same number, and where it has fraction
digits as a decimal with as many of them. -/
theorem literal_reads_back :
    (∀ (n : Int) (text : String), n.natAbs < Decimal.mantissaLimit → Text.NumeralOf n text →
      ∃ value, ofLiteral text = .ok value ∧ value.Narrowest n) ∧
    ∀ value : Value, value.quantity?.isSome = true →
      ∃ again, ofLiteral value.text = .ok again ∧ again.quantity? = value.quantity? ∧
        ∀ d, value = .decimal d → d.scale ≠ 0 → ∃ e, again = .decimal e ∧ e.scale = d.scale := by
  refine ⟨fun n text small numeral => ofLiteral_numeral small numeral, ?_⟩
  intro value known
  cases value with
  | integer n =>
      have small : n.value.natAbs < Decimal.mantissaLimit :=
        Nat.lt_of_lt_of_le n.natAbs_lt (by decide)
      obtain ⟨again, read, narrowest⟩ := ofLiteral_numeral small (Text.numeralOf_toString n.value)
      exact ⟨again, by rwa [text], narrowest.quantity, fun d isDecimal => by simp at isDecimal⟩
  | decimal d =>
      by_cases integral : d.scale = 0
      · have small : d.signedMantissa.natAbs < Decimal.mantissaLimit := by
          rw [d.natAbs_signedMantissa]
          exact d.mantissa_lt
        obtain ⟨again, read, narrowest⟩ := ofLiteral_numeral small (Decimal.numeralOf_text integral)
        refine ⟨again, by rwa [text], ?_, ?_⟩
        · rw [narrowest.quantity, quantity?, Decimal.value_of_integral integral]
        · rintro e same fraction
          obtain rfl := Value.decimal.inj same
          exact absurd integral fraction
      · refine ⟨.decimal d.signed, ?_, ?_, ?_⟩
        · rw [text]
          exact ofLiteral_decimal integral
        · rw [quantity?, quantity?, d.value_signed]
        · rintro e same _
          obtain rfl := Value.decimal.inj same
          exact ⟨d.signed, rfl, rfl⟩
  | _ => simp [quantity?] at known

end Value

namespace Sounding

def deepest : Decimal :=
  ⟨true, 79228162514264337593543950335, 28, by decide, by decide⟩

theorem numeralOf_spaced : Text.NumeralOf 4294967295 "\t+004294967295 " := by
  have blankBefore : ∀ c ∈ ['\t'], Text.isBlank c = true := List.forall_mem_singleton.mpr rfl
  have blankAfter : ∀ c ∈ [' '], Text.isBlank c = true := List.forall_mem_singleton.mpr rfl
  have written : Text.NumeralOf 4294967295
      (String.ofList (['\t'] ++ (['+'] ++ Text.padded 12 4294967295) ++ [' '])) :=
    .written 12 blankBefore (.plus (by decide)) blankAfter
  exact written

theorem literal_reads_back_deepest :
    (∃ value, Value.ofLiteral "\t+004294967295 " = .ok value ∧ value.Narrowest 4294967295) ∧
    (Value.decimal deepest).text = "-7.9228162514264337593543950335" ∧
    ∃ e, Value.ofLiteral "-7.9228162514264337593543950335" = .ok (.decimal e) ∧ e.scale = 28 ∧
      e.value = deepest.value := by
  have shown : (Value.decimal deepest).text = "-7.9228162514264337593543950335" := by decide
  refine ⟨Value.literal_reads_back.1 _ _ (by decide) numeralOf_spaced, shown, ?_⟩
  obtain ⟨again, read, same, fraction⟩ := Value.literal_reads_back.2 (.decimal deepest) rfl
  obtain ⟨e, rfl, scale⟩ := fraction deepest rfl (by decide)
  exact ⟨e, by rwa [← shown], scale, Option.some.inj same⟩

end Sounding

end RowQuery
