import RowQuery.Proofs.Standard.Calls
import RowQuery.Proofs.Text.Position

/-!
The functions on texts agree on what a position is: the number of characters before it. Parts,
single characters, insertions and searches can all be told from the parts of a text. No function cuts
a character in two, although all of them work on bytes.
-/

namespace RowQuery

def Formula.ofText (s : String) : Formula :=
  .constant (.string s)

namespace Standard

variable {s t : String} {i k : I32} {value : Value}

/-! ### Functions on values -/

theorem countValue_eq {count : Nat} (short : count ≤ 2147483647) (method : String) :
    ∃ n : I32, n.1 = count ∧ countValue method count = .ok n.value := by
  have held : IntegerKind.i32.Holds count := IntegerKind.holds_i32.mpr (by omega)
  refine ⟨⟨count, held⟩, rfl, ?_⟩
  simp only [countValue, Integer.ofInt?, dif_pos held, I32.value]

theorem length_eq (short : s.length ≤ 2147483647) :
    ∃ n : I32, n.1 = s.length ∧ length [.string s] = .ok n.value := by
  rw [length, textArg_eq rfl, Result.ok_bind]
  exact countValue_eq short "length"

/-- A part that is a text by itself can be cut out. -/
theorem cut_eq (before part after : String) {stop : Nat}
    (sized : before.utf8ByteSize + part.utf8ByteSize = stop) :
    cut (before ++ part ++ after) before.utf8ByteSize stop = .ok part := by
  rw [cut, Text.between?_eq_some.mpr ⟨before, after, rfl, rfl, sized⟩]

theorem cut_start (before after : String) :
    cut (before ++ after) 0 before.utf8ByteSize = .ok before := by
  have divided : Text.between? (before ++ after) 0 before.utf8ByteSize = some before :=
    Text.between?_eq_some.mpr ⟨"", after, by rw [String.empty_append], rfl, Nat.zero_add _⟩
  rw [cut, divided]

theorem cut_end (before after : String) :
    cut (before ++ after) before.utf8ByteSize (before ++ after).utf8ByteSize = .ok after := by
  rw [cut, Text.between?_eq_some.mpr ⟨before, "", by rw [String.append_empty], rfl,
    String.utf8ByteSize_append.symm⟩]

theorem offset_eq {before : String} {index : Int} (counted : (before.length : Int) = index)
    (method after : String) : offset method (before ++ after) index = .ok before.utf8ByteSize := by
  rw [offset, Text.byteOffset?_eq_some.mpr ⟨before, after, rfl, counted, rfl⟩]

theorem byteOffset?_outside {text : String} {index : Int}
    (outside : ¬ (0 ≤ index ∧ index ≤ text.length)) : Text.byteOffset? text index = none := by
  rw [Option.eq_none_iff_forall_ne_some]
  intro byte found
  obtain ⟨before, after, rfl, rfl, _⟩ := Text.byteOffset?_eq_some.mp found
  rw [String.length_append] at outside
  omega

theorem offset_outside {text : String} {index : Int}
    (outside : ¬ (0 ≤ index ∧ index ≤ text.length)) (method : String) :
    offset method text index = .error (outOfRange method index) := by
  rw [offset, byteOffset?_outside outside]

theorem substringFrom_eq_ok : substringFrom [.string s, i.value] = .ok value ↔
    ∃ part, (Text.Occurs s part i ∧ i.1 + part.length = s.length) ∧ value = .string part := by
  rw [substringFrom, textArg_eq rfl, Result.ok_bind, indexArg_eq rfl, Result.ok_bind]
  by_cases inside : 0 ≤ i.1 ∧ i.1 ≤ s.length
  · obtain ⟨before, after, rfl, counted⟩ := Text.exists_cut inside.1 inside.2
    rw [offset_eq counted, Result.ok_bind, cut_end, Result.ok_bind, Result.pure_eq_ok]
    simp only [Text.occurs_end]
    constructor
    · rintro rfl
      exact ⟨after, ⟨before, rfl, counted⟩, rfl⟩
    · rintro ⟨part, ⟨other, split, sameCount⟩, rfl⟩
      obtain ⟨_, rfl⟩ := Text.append_inj_of_length split (by omega)
      rfl
  · rw [offset_outside inside]
    refine iff_of_false (by rintro ⟨⟩) ?_
    rintro ⟨part, here, _⟩
    exact inside (Text.exists_occurs_end.mp ⟨part, here⟩)

/-- A part of a text that short ends at an index. -/
theorem endOffset?_eq (short : s.length ≤ 2147483647) (long : 0 ≤ k.1)
    (stop : i.1 + k.1 ≤ s.length) : endOffset? s i k = Text.byteOffset? s (i.1 + k.1) := by
  have first := IntegerKind.holds_i32.mp i.2
  rw [endOffset?, if_pos ⟨IntegerKind.holds_i32.mpr (by omega), long⟩]

theorem endOffset?_outside (outside : ¬ (0 ≤ i.1 ∧ 0 ≤ k.1 ∧ i.1 + k.1 ≤ s.length))
    (start : 0 ≤ i.1) : endOffset? s i k = none := by
  rw [endOffset?, ite_eq_right_iff]
  rintro ⟨_, long⟩
  exact byteOffset?_outside (by omega)

theorem substring_eq_ok (short : s.length ≤ 2147483647) :
    substring [.string s, i.value, k.value] = .ok value ↔
      ∃ part, (Text.Occurs s part i ∧ part.length = k.1) ∧ value = .string part := by
  rw [substring, textArg_eq rfl, Result.ok_bind, indexArg_eq rfl, Result.ok_bind, indexArg_eq rfl,
    Result.ok_bind]
  by_cases inside : 0 ≤ i.1 ∧ 0 ≤ k.1 ∧ i.1 + k.1 ≤ s.length
  · obtain ⟨part, here, counted⟩ := Text.exists_occurs.mpr inside
    have unique {other : String} (occurs : Text.Occurs s other i) (sameCount : other.length = k.1) :
        other = part := occurs.unique here (by omega)
    obtain ⟨before, after, rfl, first⟩ := here
    have stop : Text.byteOffset? (before ++ part ++ after) (i.1 + k.1) =
        some (before ++ part).utf8ByteSize :=
      Text.byteOffset?_eq_some.mpr ⟨before ++ part, after, rfl,
        by rw [String.length_append]; omega, rfl⟩
    have start : offset "substring" (before ++ part ++ after) i.1 = .ok before.utf8ByteSize := by
      rw [String.append_assoc]
      exact offset_eq first _ _
    rw [start, Result.ok_bind, endOffset?_eq short inside.2.1 inside.2.2, stop]
    simp only [cut_eq before part after String.utf8ByteSize_append.symm, Result.ok_bind,
      Result.pure_eq_ok]
    constructor
    · rintro rfl
      exact ⟨part, ⟨⟨before, after, rfl, first⟩, counted⟩, rfl⟩
    · rintro ⟨other, ⟨occurs, sameCount⟩, rfl⟩
      rw [unique occurs sameCount]
  · refine iff_of_false ?_ ?_
    · by_cases start : 0 ≤ i.1 ∧ i.1 ≤ s.length
      · obtain ⟨before, after, rfl, counted⟩ := Text.exists_cut start.1 start.2
        rw [offset_eq counted, Result.ok_bind, endOffset?_outside inside start.1]
        simp
      · rw [offset_outside start]
        rintro ⟨⟩
    · rintro ⟨part, here, _⟩
      exact inside (Text.exists_occurs.mp ⟨part, here⟩)

theorem charAt_eq_ok : charAt [.string s, i.value] = .ok value ↔
    ∃ c, Text.charAt? s i = some c ∧ value = .char c := by
  rw [charAt, textArg_eq rfl, Result.ok_bind, indexArg_eq rfl, Result.ok_bind]
  cases Text.charAt? s i <;> simp [eq_comm]

theorem insert_eq_ok : insert [.string s, i.value, .string t] = .ok value ↔
    ∃ text, (∃ before after, s = before ++ after ∧ (before.length : Int) = i ∧
      text = before ++ t ++ after) ∧ value = .string text := by
  rw [insert, textArg_eq rfl, Result.ok_bind, indexArg_eq rfl, Result.ok_bind, textArg_eq rfl,
    Result.ok_bind]
  by_cases inside : 0 ≤ i.1 ∧ i.1 ≤ s.length
  · obtain ⟨before, after, rfl, counted⟩ := Text.exists_cut inside.1 inside.2
    rw [offset_eq counted, Result.ok_bind, cut_start, Result.ok_bind, cut_end, Result.ok_bind,
      Result.pure_eq_ok]
    constructor
    · rintro rfl
      exact ⟨_, ⟨before, after, rfl, counted, rfl⟩, rfl⟩
    · rintro ⟨_, ⟨first, rest, split, sameCount, rfl⟩, rfl⟩
      obtain ⟨rfl, rfl⟩ := Text.append_inj_of_length split (by omega)
      rfl
  · rw [offset_outside inside]
    refine iff_of_false (by rintro ⟨⟩) ?_
    rintro ⟨_, ⟨before, after, rfl, counted, _⟩, _⟩
    rw [String.length_append] at inside
    omega

theorem containsText_eq :
    containsText [.string s, .string t] = .ok (.bool (Text.find? s t).isSome) := by
  rw [containsText, textArg_eq rfl, Result.ok_bind, textArg_eq rfl, Result.ok_bind,
    Text.contains_eq]
  rfl

theorem startsWith_eq : startsWith [.string s, .string t] = .ok (.bool (Text.startsWith s t)) := by
  rw [startsWith, textArg_eq rfl, Result.ok_bind, textArg_eq rfl, Result.ok_bind]
  rfl

/-- What is found is the first occurrence, and -1 stands for none. Whether there is one, and one at
the start, can be told from it. -/
theorem search_eq (short : s.length ≤ 2147483647) (t : String) :
    ∃ r : I32, indexOf [.string s, .string t] = .ok r.value ∧
      containsText [.string s, .string t] = .ok (.bool (0 ≤ r.1)) ∧
      startsWith [.string s, .string t] = .ok (.bool (r.1 = 0)) ∧
      ((Text.Occurs s t r ∧ ∀ position, Text.Occurs s t position → r.1 ≤ position) ∨
        (r.1 = -1 ∧ ∀ position, ¬ Text.Occurs s t position)) := by
  rw [containsText_eq, startsWith_eq, indexOf, textArg_eq rfl, Result.ok_bind, textArg_eq rfl,
    Result.ok_bind]
  cases found : Text.find? s t with
  | none =>
      have nowhere (position : Int) : ¬ Text.Occurs s t position := Text.nowhere_of_find? found
      have held : IntegerKind.i32.Holds (-1) := by decide
      have elsewhere : Text.startsWith s t = false := by
        rw [Bool.eq_false_iff, Ne, Text.startsWith_iff]
        exact nowhere 0
      refine ⟨⟨-1, held⟩, Value.ofInt_of_holds held, rfl, ?_, .inr ⟨rfl, nowhere⟩⟩
      rw [elsewhere]
      rfl
  | some byte =>
      obtain ⟨before, divided, here, least⟩ := Text.first_of_find? found
      have bounds := here.bounds
      have divides : cut s 0 byte = .ok before := by rw [cut, divided]
      obtain ⟨r, same, counted⟩ :=
        countValue_eq (by omega : before.length ≤ 2147483647) "indexof"
      have first : ∀ position, Text.Occurs s t position → r.1 ≤ position := by
        intro position occurs
        have later := least position occurs
        omega
      rw [← same] at here bounds
      refine ⟨r, ?_, by simp [bounds.1], ?_, .inl ⟨here, first⟩⟩
      · simp only [divides, Result.ok_bind, counted]
      · have start : Text.startsWith s t = decide (r.1 = 0) := by
          rw [Bool.eq_iff_iff, Text.startsWith_iff, decide_eq_true_iff]
          constructor
          · intro atStart
            have least := first 0 atStart
            omega
          · intro isStart
            rwa [isStart] at here
        rw [start]

/-! ### Formulas -/

def MatchesAt (answer : Formula → Result Value) (s t : String) (i : I32) : Prop :=
  answer (.call "substring" [.ofText s, .ofI32 i, .call "length" [.ofText t]]) = .ok (.string t)

def SearchAgrees (answer : Formula → Result Value) (s t : String) : Prop :=
  ∃ r : I32, answer (.call "indexof" [.ofText s, .ofText t]) = .ok r.value ∧
    ((MatchesAt answer s t r ∧ ∀ i, MatchesAt answer s t i → r.1 ≤ i.1) ∨
      (r.1 = -1 ∧ ∀ i, ¬ MatchesAt answer s t i)) ∧
    answer (.call "contains" [.ofText s, .ofText t]) = .ok (.bool (0 ≤ r.1)) ∧
    answer (.call "startswith" [.ofText s, .ofText t]) = .ok (.bool (r.1 = 0))

/-- The functions on texts agree on the positions in `s`, which has `n` characters, and on those of
`t` in it. Formulas have the values that `answer` gives. -/
structure PositionsAgree (answer : Formula → Result Value) (s t : String) (n : I32) : Prop where
  length : answer (.call "length" [.ofText s]) = .ok n.value
  suffix_defined (i : I32) :
    (∃ value, answer (.call "substring" [.ofText s, .ofI32 i]) = .ok value) ↔
      0 ≤ i.1 ∧ i.1 ≤ n.1
  suffix_exact (i : I32) (value : Value) :
    answer (.call "substring" [.ofText s, .ofI32 i]) = .ok value ↔
      ∃ part, (Text.Occurs s part i ∧ i.1 + part.length = n.1) ∧ value = .string part
  part_defined (i k : I32) :
    (∃ value, answer (.call "substring" [.ofText s, .ofI32 i, .ofI32 k]) = .ok value) ↔
      0 ≤ i.1 ∧ i.1 ≤ n.1 ∧ 0 ≤ k.1 ∧ i.1 + k.1 ≤ n.1
  part_exact (i k : I32) (value : Value) :
    answer (.call "substring" [.ofText s, .ofI32 i, .ofI32 k]) = .ok value ↔
      ∃ part, (Text.Occurs s part i ∧ part.length = k.1) ∧ value = .string part
  parts_join (i : I32) : 0 ≤ i.1 → i.1 ≤ n.1 →
    answer (.call "concat" [.call "substring" [.ofText s, .ofI32 .zero, .ofI32 i],
      .call "substring" [.ofText s, .ofI32 i]]) = .ok (.string s)
  insert_exact (i : I32) (value : Value) :
    answer (.call "insert" [.ofText s, .ofI32 i, .ofText t]) = .ok value ↔
      answer (.call "concat" [.call "concat" [.call "substring" [.ofText s, .ofI32 .zero, .ofI32 i],
        .ofText t], .call "substring" [.ofText s, .ofI32 i]]) = .ok value
  insert_defined (i : I32) :
    (∃ value, answer (.call "insert" [.ofText s, .ofI32 i, .ofText t]) = .ok value) ↔
      ∃ value, answer (.call "substring" [.ofText s, .ofI32 i]) = .ok value
  character_defined (i : I32) :
    (∃ value, answer (.call "charat" [.ofText s, .ofI32 i]) = .ok value) ↔ 0 ≤ i.1 ∧ i.1 < n.1
  character_exact (i : I32) (value : Value) :
    answer (.call "charat" [.ofText s, .ofI32 i]) = .ok value ↔
      ∃ c, answer (.call "substring" [.ofText s, .ofI32 i, .ofI32 .one]) =
        .ok (.string (String.singleton c)) ∧ value = .char c
  search : SearchAgrees answer s t

theorem length_listed :
    textFunction "length" [.string] .i32 length ∈ strings := by
  simp [strings]

theorem part_listed :
    textFunction "substring" [.string, .i32, .i32] .string substring ∈
      strings := by
  simp [strings]

/-- The formula is a text with the property. If no text has it, its value cannot be computed. -/
structure ReadsText (compiler : Compiler) (target : Expr) (host : Host) (row : Value)
    (formula : Formula) (read : String → Prop) : Prop where
  types : compiler.Types target formula .string
  answer_eq_ok (value : Value) : compiler.answer target host row formula = .ok value ↔
    ∃ text, read text ∧ value = .string text

section

variable {compiler : Compiler} {settings : FunctionSettings} {target : Expr} {host : Host}
  {row : Value}

theorem ReadsText.defined {formula : Formula} {read : String → Prop}
    (reads : ReadsText compiler target host row formula read) :
    (∃ value, compiler.answer target host row formula = .ok value) ↔ ∃ text, read text := by
  simp only [reads.answer_eq_ok]
  constructor
  · rintro ⟨_, text, holds, _⟩
    exact ⟨text, holds⟩
  · rintro ⟨text, holds⟩
    exact ⟨_, text, holds, rfl⟩

theorem readsText_constant (s : String) :
    ReadsText compiler target host row (.ofText s) (· = s) where
  types := Compiler.types_constant (.string s)
  answer_eq_ok value := by simp [Formula.ofText, eq_comm]

variable (library : compiler.catalog = .ofSettings settings)
  (standard : settings.standardLibrary = true) {s t : String} {i k : I32}

include library standard

/-- A function on texts, called with constants. -/
theorem answer_text {method : String} {parameters : List Ty} {result : Ty}
    {compute : List Value → Result Value}
    (listed : textFunction method parameters result compute ∈ strings)
    (values : List Value) (typed : values.map (·.typeOf) = parameters) :
    compiler.answer target host row (.call method (values.map .constant)) = compute values :=
  answer_values library standard (List.mem_append_left _ listed) values typed host row

theorem readsText_call {method : String} {parameters : List Ty}
    {compute : List Value → Result Value} {read : String → Prop}
    (listed : textFunction method parameters .string compute ∈ strings)
    (values : List Value) (typed : values.map (·.typeOf) = parameters)
    (computed : ∀ value, compute values = .ok value ↔
      ∃ text, read text ∧ value = .string text) :
    ReadsText compiler target host row (.call method (values.map .constant)) read := by
  constructor
  · rw [← typed] at listed
    exact types_call library standard (List.mem_append_left _ listed)
      (Compiler.types_constants values)
  · intro value
    rw [answer_text library standard listed values typed, computed]

theorem readsText_suffix : ReadsText compiler target host row
    (.call "substring" [.ofText s, .ofI32 i])
    fun part => Text.Occurs s part i ∧ i.1 + part.length = s.length := by
  have listed : textFunction "substring" [.string, .i32] .string substringFrom ∈
      strings := by simp [strings]
  exact readsText_call library standard listed [.string s, i.value] rfl
    fun _ => substringFrom_eq_ok

theorem readsText_part (short : s.length ≤ 2147483647) : ReadsText compiler target host row
    (.call "substring" [.ofText s, .ofI32 i, .ofI32 k])
    fun part => Text.Occurs s part i ∧ part.length = k.1 :=
  readsText_call library standard part_listed [.string s, i.value, k.value] rfl
    fun _ => substring_eq_ok short

theorem readsText_insert : ReadsText compiler target host row
    (.call "insert" [.ofText s, .ofI32 i, .ofText t])
    fun text => ∃ before after, s = before ++ after ∧ (before.length : Int) = i ∧
      text = before ++ t ++ after := by
  have listed : textFunction "insert" [.string, .i32, .string] .string insert ∈
      strings := by simp [strings]
  exact readsText_call library standard listed [.string s, i.value, .string t] rfl
    fun _ => insert_eq_ok

theorem readsText_concat {first second : Formula} {front back : String → Prop}
    (readsFirst : ReadsText compiler target host row first front)
    (readsSecond : ReadsText compiler target host row second back) :
    ReadsText compiler target host row (.call "concat" [first, second])
      fun text => ∃ a b, front a ∧ back b ∧ text = a ++ b := by
  have listed : textFunction "concat" [.string, .string] .string concat ∈
      strings ++ calendar := by simp [strings]
  have typed : List.Forall₂ (compiler.Types target) [first, second] [.string, .string] :=
    .cons readsFirst.types (.cons readsSecond.types .nil)
  refine ⟨types_call library standard listed typed, ?_⟩
  intro value
  rw [answer_call library standard listed typed]
  simp only [List.mapM_cons, List.mapM_nil, bind_assoc, pure_bind, Result.bind_eq_ok,
    readsFirst.answer_eq_ok, readsSecond.answer_eq_ok]
  constructor
  · rintro ⟨_, ⟨a, isFront, rfl⟩, _, ⟨b, isBack, rfl⟩, computed⟩
    exact ⟨_, ⟨a, b, isFront, isBack, rfl⟩, (Except.ok.inj computed).symm⟩
  · rintro ⟨_, ⟨a, b, isFront, isBack, rfl⟩, rfl⟩
    exact ⟨_, ⟨a, isFront, rfl⟩, _, ⟨b, isBack, rfl⟩, rfl⟩

theorem answer_length : compiler.answer target host row (.call "length" [.ofText s]) =
    length [.string s] :=
  answer_text library standard length_listed [.string s] rfl

theorem answer_character {value : Value} :
    compiler.answer target host row (.call "charat" [.ofText s, .ofI32 i]) = .ok value ↔
      ∃ c, Text.charAt? s i = some c ∧ value = .char c := by
  have listed : textFunction "charat" [.string, .i32] .char charAt ∈
      strings := by simp [strings]
  have called : compiler.answer target host row (.call "charat" [.ofText s, .ofI32 i]) =
      charAt [.string s, i.value] :=
    answer_text library standard listed [.string s, i.value] rfl
  rw [called, charAt_eq_ok]

theorem matchesAt_iff (sShort : s.length ≤ 2147483647) (tShort : t.length ≤ 2147483647) :
    MatchesAt (compiler.answer target host row) s t i ↔ Text.Occurs s t i := by
  obtain ⟨m, counted, measured⟩ := length_eq tShort
  have counts : compiler.Types target (.call "length" [.ofText t]) .i32 :=
    types_call library standard (List.mem_append_left _ length_listed)
      (Compiler.types_constants [.string t])
  have typed : List.Forall₂ (compiler.Types target)
      [.ofText s, .ofI32 i, .call "length" [.ofText t]] [.string, .i32, .i32] :=
    .cons (Compiler.types_constant _) (.cons (Compiler.types_constant _) (.cons counts .nil))
  have read : [.ofText s, .ofI32 i, .call "length" [.ofText t]].mapM
      (compiler.answer target host row) = .ok [.string s, i.value, m.value] := by
    simp only [List.mapM_cons, List.mapM_nil, answer_length library standard, measured]
    rfl
  rw [MatchesAt, answer_call library standard (List.mem_append_left _ part_listed) typed,
    read, Result.ok_bind, substring_eq_ok sShort]
  simp [counted]

theorem search_agrees (sShort : s.length ≤ 2147483647) (tShort : t.length ≤ 2147483647) :
    SearchAgrees (compiler.answer target host row) s t := by
  have indexListed : textFunction "indexof" [.string, .string] .i32 indexOf ∈
      strings := by simp [strings]
  have containsListed : textFunction "contains" [.string, .string] .bool
      containsText ∈ strings := by simp [strings]
  have startListed : textFunction "startswith" [.string, .string] .bool
      startsWith ∈ strings := by simp [strings]
  obtain ⟨r, found, containsFound, startFound, first⟩ := search_eq sShort t
  refine ⟨r, ?_, ?_, ?_, ?_⟩
  · rw [← found]
    exact answer_text library standard indexListed [.string s, .string t] rfl
  · simp only [matchesAt_iff library standard sShort tShort]
    rcases first with ⟨here, least⟩ | ⟨none, nowhere⟩
    · exact .inl ⟨here, fun i => least i⟩
    · exact .inr ⟨none, fun i => nowhere i⟩
  · rw [← containsFound]
    exact answer_text library standard containsListed [.string s, .string t] rfl
  · rw [← startFound]
    exact answer_text library standard startListed [.string s, .string t] rfl

/-- Positions in texts count characters, whichever function they are given to or come from. -/
theorem character_positions_agree (sShort : s.length ≤ 2147483647)
    (tShort : t.length ≤ 2147483647) :
    ∃ n : I32, n.1 = s.length ∧ PositionsAgree (compiler.answer target host row) s t n := by
  obtain ⟨n, counted, measured⟩ := length_eq sShort
  have suffix (i : I32) : ReadsText compiler target host row
      (.call "substring" [.ofText s, .ofI32 i]) _ := readsText_suffix library standard
  have part (i k : I32) : ReadsText compiler target host row
      (.call "substring" [.ofText s, .ofI32 i, .ofI32 k]) _ := readsText_part library standard sShort
  have inserted (i : I32) : ReadsText compiler target host row
      (.call "insert" [.ofText s, .ofI32 i, .ofText t]) _ := readsText_insert library standard
  refine ⟨n, counted, ?_⟩
  constructor
  case length => rw [answer_length library standard, measured]
  case suffix_defined =>
    intro i
    rw [(suffix i).defined, Text.exists_occurs_end, counted]
  case suffix_exact =>
    intro i value
    simp only [(suffix i).answer_eq_ok, counted]
  case part_defined =>
    intro i k
    rw [(part i k).defined, Text.exists_occurs, counted]
    omega
  case part_exact =>
    intro i k value
    exact (part i k).answer_eq_ok value
  case parts_join =>
    intro i start stop
    rw [counted] at stop
    obtain ⟨before, after, rfl, place⟩ := Text.exists_cut start stop
    refine ((readsText_concat library standard (part .zero i) (suffix i)).answer_eq_ok _).mpr
      ⟨_, ⟨before, after, ⟨?_, place⟩, Text.occurs_end.mpr ⟨before, rfl, place⟩, rfl⟩, rfl⟩
    exact Text.occurs_start.mpr ⟨after, rfl⟩
  case insert_exact =>
    intro i value
    have between := readsText_concat library standard
      (readsText_concat library standard (part .zero i) (readsText_constant t)) (suffix i)
    rw [(inserted i).answer_eq_ok, between.answer_eq_ok]
    refine exists_congr fun text => and_congr_left fun _ => ?_
    simp only [Text.occurs_end]
    constructor
    · rintro ⟨before, after, split, place, rfl⟩
      exact ⟨before ++ t, after,
        ⟨before, t, ⟨Text.occurs_start.mpr ⟨after, split⟩, place⟩, rfl, rfl⟩,
        ⟨before, split, place⟩, rfl⟩
    · rintro ⟨_, after, ⟨front, _, ⟨starts, place⟩, rfl, rfl⟩, ⟨before, split, counts⟩, rfl⟩
      obtain ⟨rest, divided⟩ := Text.occurs_start.mp starts
      obtain ⟨rfl, rfl⟩ := Text.append_inj_of_length (divided.symm.trans split) (by omega)
      exact ⟨front, rest, split, place, rfl⟩
  case insert_defined =>
    intro i
    rw [(inserted i).defined, (suffix i).defined]
    simp only [Text.occurs_end]
    constructor
    · rintro ⟨_, before, after, split, place, _⟩
      exact ⟨after, before, split, place⟩
    · rintro ⟨after, before, split, place⟩
      exact ⟨_, before, after, split, place, rfl⟩
  case character_defined =>
    intro i
    simp only [answer_character library standard]
    rw [counted, ← Text.charAt?_isSome, Option.isSome_iff_exists]
    exact ⟨fun ⟨_, c, found, _⟩ => ⟨c, found⟩, fun ⟨c, found⟩ => ⟨_, c, found, rfl⟩⟩
  case character_exact =>
    intro i value
    simp only [answer_character library standard, (part i .one).answer_eq_ok, Value.string.injEq,
      exists_eq_right', Text.charAt?_eq_some]
    refine exists_congr fun c => and_congr_left fun _ => (and_iff_left ?_).symm
    rw [String.length_singleton]
    rfl
  case search => exact search_agrees library standard sShort tShort

end

/-- The cup is the fifth character; in bytes it would not be. -/
theorem character_positions_agree_tea :
    "thé ☕".length ≤ 2147483647 ∧ "☕".length ≤ 2147483647 ∧
      ∃ n : I32, n.1 = 5 ∧ PositionsAgree rowless "thé ☕" "☕" n ∧
        rowless (.call "charat" [.ofText "thé ☕", .ofI32 ⟨4, by decide⟩]) = .ok (.char '☕') := by
  have sShort : "thé ☕".length ≤ 2147483647 := by decide
  have tShort : "☕".length ≤ 2147483647 := by decide
  obtain ⟨n, counted, agree⟩ :
      ∃ n : I32, n.1 = "thé ☕".length ∧ PositionsAgree rowless "thé ☕" "☕" n :=
    character_positions_agree standard_library rfl sShort tShort
  have cup : Text.Occurs "thé ☕" "☕" 4 := ⟨"thé ", "", by decide, by decide⟩
  refine ⟨sShort, tShort, n, counted, agree, ?_⟩
  refine (agree.character_exact _ _).mpr ⟨'☕', ?_, rfl⟩
  exact (agree.part_exact _ .one _).mpr ⟨"☕", ⟨cup, rfl⟩, rfl⟩

end Standard

end RowQuery
