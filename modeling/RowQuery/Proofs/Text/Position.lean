import RowQuery.Text.Position
import Mathlib.Data.List.Infix
import Mathlib.Data.Nat.Find

/-!
Texts are cut and searched by their bytes, and yet the results speak of characters only: the byte of a
position is a boundary between two characters, and bytes that spell a text are found nowhere but at
such a boundary.
-/

namespace RowQuery.Text

/-- The part stands in the text, with so many characters before it. -/
def Occurs (text part : String) (position : Int) : Prop :=
  ∃ before after, text = before ++ part ++ after ∧ (before.length : Int) = position

variable {text part inner before after : String} {position index : Int}

theorem Occurs.bounds (occurs : Occurs text part position) :
    0 ≤ position ∧ position + part.length ≤ text.length := by
  obtain ⟨before, after, rfl, rfl⟩ := occurs
  simp only [String.length_append]
  omega

/-! ### Texts in two parts -/

theorem append_inj_of_length {first second rest other : String}
    (same : first ++ rest = second ++ other) (length : first.length = second.length) :
    first = second ∧ rest = other := by
  have lists : first.toList ++ rest.toList = second.toList ++ other.toList := by
    rw [← String.toList_append, same, String.toList_append]
  obtain ⟨left, right⟩ := List.append_inj lists (by rwa [String.length_toList, String.length_toList])
  exact ⟨String.ext left, String.ext right⟩

theorem Occurs.unique {other : String} (first : Occurs text part position)
    (second : Occurs text other position) (length : part.length = other.length) : part = other := by
  obtain ⟨before, after, rfl, rfl⟩ := first
  obtain ⟨front, rest, split, counted⟩ := second
  rw [String.append_assoc, String.append_assoc] at split
  obtain ⟨_, same⟩ := append_inj_of_length split (by omega)
  exact (append_inj_of_length same length).1

/-- A text can be cut at every position. -/
theorem exists_cut (start : 0 ≤ index) (stop : index ≤ text.length) :
    ∃ before after, text = before ++ after ∧ (before.length : Int) = index := by
  refine ⟨String.ofList (text.toList.take index.toNat), String.ofList (text.toList.drop index.toNat),
    ?_, ?_⟩
  · rw [← String.ofList_append, List.take_append_drop, String.ofList_toList]
  · simp only [← String.length_toList, String.toList_ofList, List.length_take] at stop ⊢
    omega

theorem occurs_end : Occurs text part index ∧ index + part.length = text.length ↔
    ∃ before, text = before ++ part ∧ (before.length : Int) = index := by
  constructor
  · rintro ⟨⟨before, after, rfl, rfl⟩, whole⟩
    have nothing : after = "" := by
      rw [← String.length_eq_zero_iff]
      simp only [String.length_append] at whole
      omega
    exact ⟨before, by rw [nothing, String.append_empty], rfl⟩
  · rintro ⟨before, rfl, rfl⟩
    exact ⟨⟨before, "", by rw [String.append_empty], rfl⟩, by simp⟩

theorem occurs_start : Occurs text part 0 ↔ ∃ after, text = part ++ after := by
  constructor
  · rintro ⟨before, after, rfl, none⟩
    have nothing : before = "" := by
      rw [← String.length_eq_zero_iff]
      omega
    exact ⟨after, by rw [nothing, String.empty_append]⟩
  · rintro ⟨after, rfl⟩
    exact ⟨"", after, by rw [String.empty_append], rfl⟩

theorem exists_occurs_end : (∃ part, Occurs text part index ∧ index + part.length = text.length) ↔
    0 ≤ index ∧ index ≤ text.length := by
  constructor
  · rintro ⟨part, occurs, whole⟩
    have bounds := occurs.bounds
    omega
  · rintro ⟨start, stop⟩
    obtain ⟨before, after, split, counted⟩ := exists_cut start stop
    exact ⟨after, occurs_end.mpr ⟨before, split, counted⟩⟩

theorem exists_occurs {length : Int} : (∃ part, Occurs text part index ∧ part.length = length) ↔
    0 ≤ index ∧ 0 ≤ length ∧ index + length ≤ text.length := by
  constructor
  · rintro ⟨part, occurs, rfl⟩
    have bounds := occurs.bounds
    omega
  · rintro ⟨start, long, stop⟩
    obtain ⟨front, after, rfl, counted⟩ := exists_cut (by omega) stop
    obtain ⟨before, part, rfl, first⟩ := exists_cut start (by omega : index ≤ front.length)
    rw [String.length_append] at counted
    exact ⟨part, ⟨before, after, rfl, first⟩, by omega⟩

theorem charAt?_eq_some {c : Char} :
    charAt? text index = some c ↔ Occurs text (String.singleton c) index := by
  rw [charAt?, Option.ite_none_right_eq_some, List.getElem?_eq_some_iff]
  constructor
  · rintro ⟨start, inside, found⟩
    refine ⟨String.ofList (text.toList.take index.toNat),
      String.ofList (text.toList.drop (index.toNat + 1)), ?_, ?_⟩
    · rw [String.ext_iff]
      simp [← found]
    · simp only [← String.length_toList, String.toList_ofList, List.length_take] at inside ⊢
      omega
  · rintro ⟨before, after, rfl, rfl⟩
    refine ⟨by omega, ?_, ?_⟩
    · simp [← String.length_toList]
    · simp [← String.length_toList]

theorem charAt?_isSome : (charAt? text index).isSome = true ↔ 0 ≤ index ∧ index < text.length := by
  rw [charAt?]
  split
  · rw [isSome_getElem?, String.length_toList]
    omega
  · simp only [Option.isSome_none, Bool.false_eq_true, false_iff]
    omega

/-! ### Bytes -/

theorem length_bytes (text : String) : (bytes text).length = text.utf8ByteSize := by
  rw [bytes, ← String.size_toByteArray]
  rfl

theorem bytes_append (first second : String) :
    bytes (first ++ second) = bytes first ++ bytes second := by
  rw [bytes, String.toByteArray_append, ByteArray.data_append, Array.toList_append]
  rfl

theorem bytes_prefix : bytes part <+: bytes text ↔ ∃ after, text = part ++ after := by
  constructor
  · rintro ⟨rest, same⟩
    have encoded : part.toList.utf8Encode ++ rest.toByteArray = text.toList.utf8Encode := by
      rw [String.utf8Encode_toList, String.utf8Encode_toList, ByteArray.ext_iff,
        ← Array.toList_inj, ByteArray.data_append, Array.toList_append,
        List.toList_data_toByteArray]
      exact same
    obtain ⟨after, joined⟩ := List.isPrefix_of_utf8Encode_append_eq_utf8Encode _ encoded
    refine ⟨String.ofList after, ?_⟩
    rw [String.ext_iff]
    simp [joined]
  · rintro ⟨after, rfl⟩
    exact ⟨bytes after, (bytes_append part after).symm⟩

/-- Of two texts that another one begins with, the one with fewer bytes begins the other. -/
theorem exists_append_of_size_le {first second rest other : String}
    (same : first ++ rest = second ++ other)
    (size : first.utf8ByteSize ≤ second.utf8ByteSize) : ∃ mid, second = first ++ mid := by
  rw [← bytes_prefix]
  have firstPrefix : bytes first <+: bytes (second ++ other) := bytes_prefix.mpr ⟨rest, same.symm⟩
  have secondPrefix : bytes second <+: bytes (second ++ other) := bytes_prefix.mpr ⟨other, rfl⟩
  refine List.prefix_of_prefix_length_le firstPrefix secondPrefix ?_
  rwa [length_bytes, length_bytes]

theorem isValid_iff {byte : Nat} : String.Pos.Raw.isValid text ⟨byte⟩ = true ↔
    ∃ before after, text = before ++ after ∧ before.utf8ByteSize = byte := by
  rw [String.Pos.Raw.isValid_eq_true_iff, String.Pos.Raw.isValid_iff_exists_append]
  simp only [String.Pos.Raw.ext_iff, String.byteIdx_rawEndPos, eq_comm]

/-- The byte of a position is the number of bytes before it. -/
theorem charOffsets_getElem? {chars : List Char} {start place byte : Nat} :
    (charOffsets start chars ++ [start + (String.ofList chars).utf8ByteSize])[place]? = some byte ↔
      ∃ before after, chars = before ++ after ∧ before.length = place ∧
        start + (String.ofList before).utf8ByteSize = byte := by
  induction chars generalizing start place with
  | nil =>
      cases place with
      | zero => simp [charOffsets]
      | succ place =>
          simp only [charOffsets, List.nil_append, List.getElem?_cons_succ, List.getElem?_nil,
            reduceCtorEq, List.nil_eq_append_iff, false_iff]
          rintro ⟨_, _, ⟨rfl, rfl⟩, impossible, _⟩
          simp at impossible
  | cons c chars ih =>
      have size (rest : List Char) :
          (String.ofList (c :: rest)).utf8ByteSize =
            c.utf8Size + (String.ofList rest).utf8ByteSize := by
        rw [String.ofList_cons, String.utf8ByteSize_append, String.utf8ByteSize_singleton]
      cases place with
      | zero =>
          rw [charOffsets, List.cons_append, List.getElem?_cons_zero, Option.some.injEq]
          constructor
          · rintro rfl
            exact ⟨[], c :: chars, rfl, rfl, rfl⟩
          · rintro ⟨before, after, _, none, sized⟩
            rwa [List.length_eq_zero_iff.mp none] at sized
      | succ place =>
          rw [charOffsets, List.cons_append, List.getElem?_cons_succ, size, ← Nat.add_assoc, ih]
          constructor
          · rintro ⟨before, after, rfl, rfl, rfl⟩
            exact ⟨c :: before, after, rfl, rfl, by rw [size, Nat.add_assoc]⟩
          · rintro ⟨before, after, split, counted, rfl⟩
            cases before with
            | nil => simp at counted
            | cons d before =>
                obtain ⟨rfl, rfl⟩ := List.cons.inj split
                exact ⟨before, after, rfl, Nat.succ.inj counted, by rw [size, Nat.add_assoc]⟩

theorem byteOffset?_eq_some {byte : Nat} : byteOffset? text index = some byte ↔
    ∃ before after, text = before ++ after ∧ (before.length : Int) = index ∧
      before.utf8ByteSize = byte := by
  have whole : (charOffsets 0 text.toList ++ [text.utf8ByteSize]) =
      charOffsets 0 text.toList ++ [0 + (String.ofList text.toList).utf8ByteSize] := by
    rw [String.ofList_toList, Nat.zero_add]
  rw [byteOffset?, Option.ite_none_right_eq_some, whole, charOffsets_getElem?]
  constructor
  · rintro ⟨start, before, after, split, counted, sized⟩
    refine ⟨String.ofList before, String.ofList after, ?_, ?_, ?_⟩
    · rw [← String.ofList_append, ← split, String.ofList_toList]
    · rw [← String.length_toList, String.toList_ofList]
      omega
    · omega
  · rintro ⟨before, after, rfl, rfl, rfl⟩
    refine ⟨by omega, before.toList, after.toList, String.toList_append, ?_, ?_⟩
    · rw [String.length_toList, Int.toNat_natCast]
    · rw [String.ofList_toList, Nat.zero_add]

theorem fromUTF8?_extract (before part after : String) :
    String.fromUTF8? ((before ++ part ++ after).toByteArray.extract before.utf8ByteSize
      (before.utf8ByteSize + part.utf8ByteSize)) = some part := by
  have extracted : (before ++ part ++ after).toByteArray.extract before.utf8ByteSize
      (before.utf8ByteSize + part.utf8ByteSize) = part.toByteArray := by
    have sized : (before.toByteArray ++ part.toByteArray).size =
        before.utf8ByteSize + part.utf8ByteSize := by simp
    rw [String.toByteArray_append, String.toByteArray_append, ← sized,
      ByteArray.extract_append_size_left, ByteArray.extract_append_eq_right]
    · exact String.size_toByteArray.symm
    · exact ByteArray.size_append
  rw [extracted, String.fromUTF8?, dif_pos part.isValidUTF8]
  rfl

/-- What is between two bytes: the part with so many bytes before it. -/
theorem between?_eq_some {start stop : Nat} : between? text start stop = some part ↔
    ∃ before after, text = before ++ part ++ after ∧ before.utf8ByteSize = start ∧
      start + part.utf8ByteSize = stop := by
  rw [between?, Option.ite_none_right_eq_some, Bool.and_eq_true, Bool.and_eq_true,
    decide_eq_true_iff, isValid_iff, isValid_iff]
  constructor
  · rintro ⟨⟨⟨ordered, before, rest, split, rfl⟩, front, after, rfl, rfl⟩, found⟩
    obtain ⟨between, rfl⟩ := exists_append_of_size_le split.symm ordered
    rw [String.utf8ByteSize_append, fromUTF8?_extract, Option.some.injEq] at found
    subst found
    exact ⟨before, after, rfl, rfl, (String.utf8ByteSize_append).symm⟩
  · rintro ⟨before, after, rfl, rfl, rfl⟩
    refine ⟨⟨⟨by omega, before, part ++ after, ?_, rfl⟩, before ++ part, after, rfl, ?_⟩,
      fromUTF8?_extract before part after⟩
    · rw [String.append_assoc]
    · rw [String.utf8ByteSize_append]

/-! ### Searching -/

/-- The part stands in the text, with so many bytes before it. -/
def OccursAtByte (text part : String) (byte : Nat) : Prop :=
  ∃ before after, text = before ++ part ++ after ∧ before.utf8ByteSize = byte

theorem isValid_iff_isUTF8FirstByte {byte : Nat} (inside : byte < (bytes text).length) :
    String.Pos.Raw.isValid text ⟨byte⟩ = true ↔ (bytes text)[byte].IsUTF8FirstByte := by
  have before : byte < text.utf8ByteSize := by rwa [← length_bytes]
  rw [String.Pos.Raw.isValid_eq_true_iff, String.Pos.Raw.isValid_iff_isUTF8FirstByte]
  constructor
  · rintro (stop | ⟨_, leads⟩)
    · have same : byte = text.utf8ByteSize := congrArg (·.byteIdx) stop
      omega
    · exact leads
  · intro leads
    exact .inr ⟨before, leads⟩

theorem length_bytes_pos (spelled : part ≠ "") : 0 < (bytes part).length := by
  rw [length_bytes, Nat.pos_iff_ne_zero]
  exact fun none => spelled (String.utf8ByteSize_eq_zero_iff.mp none)

/-- No character has the first byte of another one inside. Thus bytes that spell a text begin where a
character begins. -/
theorem bytes_prefix_drop (spelled : part ≠ "") {byte : Nat} :
    bytes part <+: (bytes text).drop byte ↔ OccursAtByte text part byte := by
  constructor
  · intro here
    have boundary : String.Pos.Raw.isValid text ⟨byte⟩ = true := by
      have long := length_bytes_pos spelled
      have enough := here.length_le
      rw [List.length_drop] at enough
      have inside : byte < (bytes text).length := by omega
      have same : (bytes text)[byte] = (bytes part)[0] := by
        rw [here.getElem long, List.getElem_drop]
        rfl
      rw [isValid_iff_isUTF8FirstByte inside, same, ← isValid_iff_isUTF8FirstByte, isValid_iff]
      exact ⟨"", part, by rw [String.empty_append], rfl⟩
    obtain ⟨before, rest, rfl, rfl⟩ := isValid_iff.mp boundary
    rw [bytes_append, ← length_bytes, List.drop_left, bytes_prefix] at here
    obtain ⟨after, rfl⟩ := here
    exact ⟨before, after, by rw [String.append_assoc], rfl⟩
  · rintro ⟨before, after, rfl, rfl⟩
    rw [String.append_assoc, bytes_append, ← length_bytes, List.drop_left, bytes_prefix]
    exact ⟨after, rfl⟩

theorem findIn?_eq_some {inner text : List UInt8} {place : Nat} :
    findIn? inner text = some place ↔ place ≤ text.length ∧ inner <+: text.drop place ∧
      ∀ earlier < place, ¬ inner <+: text.drop earlier := by
  induction text generalizing place with
  | nil =>
      rw [findIn?, Option.ite_none_right_eq_some, Option.some.injEq, List.isEmpty_iff]
      simp only [List.length_nil, Nat.le_zero, List.drop_nil, List.prefix_nil]
      constructor
      · rintro ⟨rfl, rfl⟩
        simp
      · rintro ⟨rfl, rfl, _⟩
        exact ⟨rfl, rfl⟩
  | cons byte text ih =>
      rw [findIn?]
      split
      · rename_i here
        have start : inner <+: (byte :: text).drop 0 := List.isPrefixOf_iff_prefix.mp here
        rw [Option.some.injEq]
        constructor
        · rintro rfl
          exact ⟨Nat.zero_le _, start, by simp⟩
        · rintro ⟨_, _, least⟩
          by_contra later
          exact least 0 (by omega) start
      · rename_i elsewhere
        have apart : ¬ inner <+: (byte :: text).drop 0 := fun start =>
          elsewhere (List.isPrefixOf_iff_prefix.mpr start)
        cases place with
        | zero => simpa using apart
        | succ place =>
            rw [Option.map_eq_some_iff]
            simp only [Nat.add_right_cancel_iff, exists_eq_right, ih, List.length_cons,
              Nat.add_le_add_iff_right, List.drop_succ_cons, Nat.forall_lt_succ_left, apart,
              not_false_eq_true, true_and]

theorem occursIn_eq (inner text : List UInt8) : occursIn inner text = (findIn? inner text).isSome := by
  induction text with
  | nil =>
      rw [occursIn, findIn?]
      split <;> simp_all
  | cons byte text ih =>
      rw [occursIn, findIn?, ih]
      split <;> simp_all

theorem contains_eq (text inner : String) : contains text inner = (find? text inner).isSome :=
  occursIn_eq (bytes inner) (bytes text)

theorem find?_eq_some {byte : Nat} : find? text inner = some byte ↔
    OccursAtByte text inner byte ∧ ∀ other, OccursAtByte text inner other → byte ≤ other := by
  rw [find?, findIn?_eq_some]
  by_cases spelled : inner = ""
  · -- Nothing is found at once, though its bytes follow everywhere, also inside of characters.
    subst spelled
    have start : OccursAtByte text "" 0 := ⟨"", text, by simp, rfl⟩
    constructor
    · rintro ⟨_, _, least⟩
      have first : byte = 0 := by
        by_contra later
        exact least 0 (by omega) List.nil_prefix
      exact first ▸ ⟨start, fun _ _ => Nat.zero_le _⟩
    · rintro ⟨_, least⟩
      obtain rfl : byte = 0 := Nat.le_zero.mp (least 0 start)
      exact ⟨Nat.zero_le _, List.nil_prefix, by simp⟩
  · simp only [bytes_prefix_drop spelled]
    constructor
    · rintro ⟨_, here, least⟩
      refine ⟨here, ?_⟩
      intro other occurs
      by_contra before
      exact least other (by omega) occurs
    · rintro ⟨here, least⟩
      refine ⟨?_, here, ?_⟩
      · obtain ⟨before, after, rfl, rfl⟩ := here
        rw [length_bytes, String.utf8ByteSize_append, String.utf8ByteSize_append]
        omega
      · intro earlier before occurs
        have first := least earlier occurs
        omega

theorem find?_eq_none : find? text inner = none ↔ ∀ byte, ¬ OccursAtByte text inner byte := by
  constructor
  · intro missing byte occurs
    have exists_byte : ∃ byte, OccursAtByte text inner byte := ⟨byte, occurs⟩
    classical
    have found := find?_eq_some.mpr ⟨Nat.find_spec exists_byte,
      fun other here => Nat.find_min' exists_byte here⟩
    simp [missing] at found
  · intro nowhere
    cases found : find? text inner with
    | none => rfl
    | some byte => exact absurd (find?_eq_some.mp found).1 (nowhere byte)

/-- The first occurrence by bytes is the first one by characters, and what is before it can be cut
off. -/
theorem first_of_find? {byte : Nat} (found : find? text inner = some byte) :
    ∃ before, between? text 0 byte = some before ∧ Occurs text inner before.length ∧
      ∀ position, Occurs text inner position → (before.length : Int) ≤ position := by
  obtain ⟨⟨before, after, rfl, rfl⟩, least⟩ := find?_eq_some.mp found
  refine ⟨before, ?_, ⟨before, after, rfl, rfl⟩, ?_⟩
  · rw [between?_eq_some]
    exact ⟨"", inner ++ after, by rw [String.empty_append, String.append_assoc], rfl,
      Nat.zero_add _⟩
  · rintro position ⟨other, rest, split, rfl⟩
    rw [String.append_assoc, String.append_assoc] at split
    obtain ⟨mid, rfl⟩ := exists_append_of_size_le split
      (least _ ⟨other, rest, by rw [String.append_assoc, split, String.append_assoc], rfl⟩)
    rw [String.length_append]
    omega

theorem nowhere_of_find? (missing : find? text inner = none) : ¬ Occurs text inner position := by
  rintro ⟨before, after, split, _⟩
  exact find?_eq_none.mp missing _ ⟨before, after, split, rfl⟩

theorem startsWith_iff : startsWith text inner = true ↔ Occurs text inner 0 := by
  rw [startsWith, List.isPrefixOf_iff_prefix, bytes_prefix, occurs_start]

end RowQuery.Text
