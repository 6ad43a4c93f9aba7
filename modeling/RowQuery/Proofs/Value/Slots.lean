import Mathlib.Data.List.Nodup
import RowQuery.Proofs.Compiler.Upcast
import RowQuery.Proofs.Shape.Order
import RowQuery.Shape.Accessor

/-!
Records and values of shapes as stores. Whatever is set and whatever is refused, each slot holds a
value of its type: the last one that was stored under its name, or the default.
-/

namespace RowQuery

def RecordType.columns (decl : RecordType) : List Property :=
  decl.members.map fun member => ⟨member.name, member.ty⟩

/-- What is kept after a step that may fail is wrapped like the outcome of the step. -/
theorem Result.getD_map {α β : Type} (wrap : α → β) (outcome : Result α) (old : α) :
    (outcome.map wrap).toOption.getD (wrap old) = wrap (outcome.toOption.getD old) := by
  cases outcome <;> rfl

namespace Slots

variable {columns : List Property} {slots : List Value} {name : String} {value : Value}

def overwrite (column : Property) (kept : Value) (write : String × Value) : Value :=
  if write.1 = column.name ∧ write.2.conforms column.ty = true then write.2 else kept

def lastStored (writes : List (String × Value)) (column : Property) : Value :=
  writes.foldl (overwrite column) (Value.default column.ty)

theorem lastStored_conforms (writes : List (String × Value)) (column : Property) :
    (lastStored writes column).conforms column.ty = true := by
  have step (kept : Value) (fits : kept.conforms column.ty = true) :
      (writes.foldl (overwrite column) kept).conforms column.ty = true := by
    induction writes generalizing kept with
    | nil => exact fits
    | cons write writes ih =>
        apply ih
        rw [overwrite]
        split
        · rename_i stored
          exact stored.2
        · exact fits
  exact step _ (Value.default_conforms column.ty)

def read (columns : List Property) (slots : List Value) (name : String) : Option Value :=
  (columns.findIdx? (·.name == name)).bind (slots[·]?)

inductive Writes (columns : List Property) (slots : List Value) (name : String) (value : Value) :
    Result (List Value) → Prop
  | unknown {detail : String} : (∀ column ∈ columns, column.name ≠ name) →
      Writes columns slots name value (.error (.invalidArgument detail))
  | unfit {column : Property} {detail : String} : column ∈ columns → column.name = name →
      value.conforms column.ty = false →
      Writes columns slots name value (.error (.typeError detail))
  | stored {index : Nat} {column : Property} : columns[index]? = some column →
      column.name = name → value.conforms column.ty = true →
      Writes columns slots name value (.ok (slots.set index value))

section

variable (distinct : (columns.map (·.name)).Nodup)

include distinct

theorem place_eq {first second : Nat} {a b : Property} (placedA : columns[first]? = some a)
    (placedB : columns[second]? = some b) (same : a.name = b.name) : first = second := by
  have bound : first < (columns.map (·.name)).length := by
    rw [List.length_map]
    exact (List.getElem?_eq_some_iff.mp placedA).1
  apply (List.getElem?_inj bound distinct).mp
  rw [List.getElem?_map, List.getElem?_map, placedA, placedB, Option.map_some, Option.map_some, same]

/-- Values that belong to columns, after one slot was set. -/
theorem set_map {index : Nat} {column : Property} (placed : columns[index]? = some column)
    (held : Property → Value) (value : Value) :
    (columns.map held).set index value =
      columns.map fun other => if other.name = column.name then value else held other := by
  apply List.ext_getElem?
  intro place
  rw [List.getElem?_map]
  by_cases here : index = place
  · subst here
    have bound : index < (columns.map held).length := by
      rw [List.length_map]
      exact (List.getElem?_eq_some_iff.mp placed).1
    rw [List.getElem?_set_self bound, placed, Option.map_some, if_pos rfl]
  · rw [List.getElem?_set_ne here, List.getElem?_map]
    cases found : columns[place]? with
    | none => rfl
    | some other =>
        have apart : other.name ≠ column.name :=
          fun same => here (place_eq distinct placed found same.symm)
        rw [Option.map_some, Option.map_some, if_neg apart]

/-- A write leaves the slots as they are, but for the one that it fits. -/
theorem Writes.kept {outcome : Result (List Value)} {held : Property → Value}
    (writes : Writes columns (columns.map held) name value outcome) :
    outcome.toOption.getD (columns.map held) =
      columns.map fun column => overwrite column (held column) (name, value) := by
  cases writes with
  | unknown missing =>
      refine (List.map_congr_left ?_).symm
      intro column inside
      exact if_neg fun hit => missing column inside hit.1.symm
  | @unfit column _ inside named unfit =>
      refine (List.map_congr_left ?_).symm
      intro other present
      apply if_neg
      rintro ⟨same, fits⟩
      rw [List.inj_on_of_nodup_map distinct present inside (same.symm.trans named.symm)] at fits
      simp [unfit] at fits
  | @stored index column placed named fits =>
      have inside := List.mem_of_getElem? placed
      rw [Except.toOption, Option.getD_some, set_map distinct placed]
      apply List.map_congr_left
      intro other present
      rw [overwrite, named]
      by_cases same : other.name = name
      · rw [List.inj_on_of_nodup_map distinct present inside (same.trans named.symm), if_pos named,
          if_pos ⟨named.symm, fits⟩]
      · rw [if_neg same, if_neg fun hit => same hit.1.symm]

end

theorem read_map (columns : List Property) (held : Property → Value) (name : String) :
    read columns (columns.map held) name = (columns.find? (·.name == name)).map held := by
  induction columns with
  | nil => rfl
  | cons column columns ih =>
      rw [read, List.findIdx?_cons, List.find?_cons, List.map_cons]
      cases column.name == name with
      | true => rfl
      | false =>
          rw [← ih, read]
          cases columns.findIdx? (·.name == name) with
          | none => rfl
          | some index => rfl

theorem find?_name (distinct : (columns.map (·.name)).Nodup) {column : Property}
    (inside : column ∈ columns) : columns.find? (·.name == column.name) = some column := by
  cases found : columns.find? (·.name == column.name) with
  | none =>
      have missing := List.find?_eq_none.mp found column inside
      simp at missing
  | some other =>
      have same : other.name = column.name := by simpa using List.find?_some found
      rw [List.inj_on_of_nodup_map distinct (List.mem_of_find?_eq_some found) inside same]

inductive Stores (columns : List Property) (before : String → Option Value) (name : String)
    (value : Value) : Result (String → Option Value) → Prop
  | unknown {detail : String} : (∀ column ∈ columns, column.name ≠ name) →
      Stores columns before name value (.error (.invalidArgument detail))
  | unfit {column : Property} {detail : String} : column ∈ columns → column.name = name →
      value.conforms column.ty = false → Stores columns before name value (.error (.typeError detail))
  | stored {column : Property} {after : String → Option Value} : column ∈ columns →
      column.name = name → value.conforms column.ty = true → after name = some value →
      (∀ other, other ≠ name → after other = before other) →
      Stores columns before name value (.ok after)

theorem Writes.stores (distinct : (columns.map (·.name)).Nodup) {held : Property → Value}
    {outcome : Result (List Value)} (writes : Writes columns (columns.map held) name value outcome) :
    Stores columns (read columns (columns.map held)) name value (outcome.map (read columns)) := by
  cases writes with
  | unknown missing => exact .unknown missing
  | unfit inside named unfit => exact .unfit inside named unfit
  | @stored index column placed named fits =>
      have inside := List.mem_of_getElem? placed
      subst named
      refine .stored inside rfl fits ?_ ?_
      · rw [set_map distinct placed, read_map, find?_name distinct inside, Option.map_some, if_pos rfl]
      · intro other apart
        rw [set_map distinct placed, read_map, read_map]
        cases found : columns.find? (·.name == other) with
        | none => rfl
        | some reached =>
            have named : reached.name = other := by simpa using List.find?_some found
            rw [Option.map_some, Option.map_some, if_neg (named ▸ apart)]

/-- What is known of a store after some writes: each slot has a value of its type, and under each name
is the last value that was stored. -/
structure Kept (columns : List Property) (writes : List (String × Value)) (slots : List Value)
    (get? : String → Option Value) : Prop where
  conforming : List.Forall₂ (fun column value => value.conforms column.ty = true) columns slots
  latest : ∀ name, get? name = (columns.find? (·.name == name)).map (lastStored writes)
  placed : ∀ (index : Nat) (column : Property), columns[index]? = some column →
    slots[index]? = get? column.name

theorem kept (distinct : (columns.map (·.name)).Nodup) (writes : List (String × Value)) :
    Kept columns writes (columns.map (lastStored writes))
      (read columns (columns.map (lastStored writes))) where
  conforming := by
    clear distinct
    induction columns with
    | nil => exact .nil
    | cons column columns ih => exact .cons (lastStored_conforms writes column) ih
  latest := read_map columns (lastStored writes)
  placed := by
    intro index column placed
    rw [List.getElem?_map, placed, read_map, find?_name distinct (List.mem_of_getElem? placed)]

end Slots

/-! ### Records -/

namespace RecordValue

theorem get?_eq_read (record : RecordValue) :
    record.get? = Slots.read record.decl.columns record.fields := by
  funext name
  rw [get?, Slots.read, RecordType.indexOf?, RecordType.columns, List.findIdx?_map]
  rfl

theorem set_writes (record : RecordValue) (name : String) (value : Value) :
    ∃ outcome, Slots.Writes record.decl.columns record.fields name value outcome ∧
      record.set name value = outcome.map (⟨record.decl, ·⟩) := by
  cases found : record.decl.indexOf? name with
  | none =>
      refine ⟨_, .unknown ?_, by rw [set, found]; rfl⟩
      intro column inside
      obtain ⟨member, listed, rfl⟩ := List.mem_map.mp inside
      simpa using List.findIdx?_eq_none_iff.mp found member listed
  | some index =>
      obtain ⟨bound, same, _⟩ := List.findIdx?_eq_some_iff_getElem.mp found
      have placed := List.getElem?_eq_getElem bound
      have column : record.decl.columns[index]? =
          some ⟨record.decl.members[index].name, record.decl.members[index].ty⟩ := by
        rw [RecordType.columns, List.getElem?_map, placed, Option.map_some]
      have named : record.decl.members[index].name = name := by simpa using same
      rw [set, found]
      dsimp only
      rw [placed]
      dsimp only
      cases fits : value.conforms record.decl.members[index].ty with
      | true => exact ⟨_, .stored column named fits, rfl⟩
      | false => exact ⟨_, .unfit (List.mem_of_getElem? column) named fits, rfl⟩

def attempt (record : RecordValue) (write : String × Value) : RecordValue :=
  (record.set write.1 write.2).toOption.getD record

theorem attempt_eq {decl : RecordType} (distinct : (decl.columns.map (·.name)).Nodup)
    (held : Property → Value) (write : String × Value) :
    attempt ⟨decl, decl.columns.map held⟩ write =
      ⟨decl, decl.columns.map fun column => Slots.overwrite column (held column) write⟩ := by
  obtain ⟨outcome, writes, same⟩ := set_writes ⟨decl, decl.columns.map held⟩ write.1 write.2
  rw [attempt, same, ← writes.kept distinct]
  exact Result.getD_map _ _ _

theorem attempts_eq {decl : RecordType} (distinct : (decl.columns.map (·.name)).Nodup)
    (writes : List (String × Value)) :
    writes.foldl attempt (new decl) = ⟨decl, decl.columns.map (Slots.lastStored writes)⟩ := by
  -- Each write starts from values that are still given column by column.
  have run (held : Property → Value) :
      writes.foldl attempt ⟨decl, decl.columns.map held⟩ =
        ⟨decl, decl.columns.map fun column => writes.foldl (Slots.overwrite column) (held column)⟩ := by
    induction writes generalizing held with
    | nil => rfl
    | cons write writes ih => rw [List.foldl_cons, attempt_eq distinct, ih]; rfl
  have start : new decl = ⟨decl, decl.columns.map fun column => Value.default column.ty⟩ := by
    rw [new, RecordType.columns, List.map_map]
    rfl
  rw [start, run]
  rfl

theorem set_stores {decl : RecordType} (distinct : (decl.columns.map (·.name)).Nodup)
    {held : Property → Value} {record : RecordValue} (here : record = ⟨decl, decl.columns.map held⟩)
    (name : String) (value : Value) :
    Slots.Stores decl.columns record.get? name value ((record.set name value).map (·.get?)) := by
  obtain ⟨outcome, writes, same⟩ := set_writes record name value
  subst here
  have stores := writes.stores distinct
  rw [same, get?_eq_read]
  cases outcome with
  | error fault => exact stores
  | ok slots =>
      simp only [Except.map, get?_eq_read] at stores ⊢
      exact stores

end RecordValue

/-! ### Values of shapes -/

namespace Accessor

def IssuedBy (shape : Shape) (accessor : Accessor) : Prop :=
  accessor ∈ all shape ∨ ∃ name, ofName? shape name = some accessor

variable {shape : Shape} {accessor : Accessor} {row : ShapeValue}

theorem IssuedBy.placed (issued : accessor.IssuedBy shape) :
    accessor.owner = shape ∧ shape.properties[accessor.index]? = some accessor.property := by
  rcases issued with listed | ⟨name, found⟩
  · obtain ⟨⟨property, index⟩, inside, rfl⟩ := List.mem_map.mp listed
    exact ⟨rfl, List.mem_zipIdx_iff_getElem?.mp inside⟩
  · obtain ⟨index, _, rest⟩ := Option.bind_eq_some_iff.mp found
    obtain ⟨property, here, same⟩ := Option.bind_eq_some_iff.mp rest
    obtain rfl := Option.some.inj same
    exact ⟨rfl, here⟩

theorem checkOwner_own (own : accessor.owner.id = row.shape.id) :
    accessor.checkOwner row = .ok () := by
  simp [checkOwner, own]

theorem checkOwner_foreign (row : ShapeValue) (foreign : accessor.owner.id ≠ row.shape.id) :
    ∃ detail, accessor.checkOwner row = .error (.typeError detail) := by
  have differs : ¬ (row.shape.id == accessor.owner.id) = true := by simpa using foreign.symm
  exact ⟨_, if_neg differs⟩

end Accessor

namespace ShapeValue

variable {row : ShapeValue} {accessor : Accessor}

theorem get?_eq_read (row : ShapeValue) : row.get? = Slots.read row.shape.properties row.slots := rfl

theorem setSlot_writes {index : Nat} {property : Property}
    (placed : row.shape.properties[index]? = some property) (value : Value) :
    ∃ outcome, Slots.Writes row.shape.properties row.slots property.name value outcome ∧
      row.setSlot index value = outcome.map (⟨row.shape, ·⟩) := by
  rw [setSlot, placed]
  dsimp only
  cases fits : value.conforms property.ty with
  | true => exact ⟨_, .stored placed rfl fits, rfl⟩
  | false => exact ⟨_, .unfit (List.mem_of_getElem? placed) rfl fits, rfl⟩

theorem set_writes (row : ShapeValue) (name : String) (value : Value) :
    ∃ outcome, Slots.Writes row.shape.properties row.slots name value outcome ∧
      row.set name value = outcome.map (⟨row.shape, ·⟩) := by
  rw [set]
  cases found : row.shape.indexOf? name with
  | none =>
      refine ⟨_, .unknown ?_, rfl⟩
      intro property inside
      simpa using List.findIdx?_eq_none_iff.mp found property inside
  | some index =>
      obtain ⟨bound, same, _⟩ := List.findIdx?_eq_some_iff_getElem.mp found
      have named : row.shape.properties[index].name = name := by simpa using same
      have written := setSlot_writes (List.getElem?_eq_getElem bound) value
      rwa [named] at written

theorem set_through_writes (row : ShapeValue) (issued : accessor.IssuedBy row.shape) (value : Value) :
    ∃ outcome, Slots.Writes row.shape.properties row.slots accessor.property.name value outcome ∧
      accessor.set row value = outcome.map (⟨row.shape, ·⟩) := by
  obtain ⟨own, placed⟩ := issued.placed
  rw [Accessor.set, Accessor.checkOwner_own (congrArg Shape.id own), Result.ok_bind]
  exact setSlot_writes placed value

inductive Write
  | named (name : String) (value : Value)
  | through (accessor : Accessor) (value : Value)

namespace Write

def apply (row : ShapeValue) : Write → Result ShapeValue
  | named name value => row.set name value
  | through accessor value => accessor.set row value

/-- Accessors were handed out by shapes, of which no other one has the number of this one. -/
def Proper (shape : Shape) : Write → Prop
  | named _ _ => True
  | through accessor _ => accessor.IssuedBy accessor.owner ∧
    (accessor.owner.id = shape.id → accessor.owner = shape)

def addressed? (shape : Shape) : Write → Option (String × Value)
  | named name value => some (name, value)
  | through accessor value =>
    if accessor.owner.id = shape.id then some (accessor.property.name, value) else none

end Write

def attempt (row : ShapeValue) (write : Write) : ShapeValue :=
  (write.apply row).toOption.getD row

theorem attempt_eq {shape : Shape} (distinct : (shape.properties.map (·.name)).Nodup)
    (held : Property → Value) {write : Write} (proper : write.Proper shape) :
    attempt ⟨shape, shape.properties.map held⟩ write =
      ⟨shape, shape.properties.map fun property =>
        (write.addressed? shape).toList.foldl (Slots.overwrite property) (held property)⟩ := by
  have stored {name : String} {value : Value} {outcome : Result (List Value)}
      (writes : Slots.Writes shape.properties (shape.properties.map held) name value outcome) :
      (outcome.map (ShapeValue.mk shape)).toOption.getD ⟨shape, shape.properties.map held⟩ =
        ⟨shape, shape.properties.map fun property =>
          Slots.overwrite property (held property) (name, value)⟩ := by
    rw [← writes.kept distinct]
    exact Result.getD_map _ _ _
  rw [attempt]
  cases write with
  | named name value =>
      obtain ⟨outcome, writes, same⟩ := set_writes ⟨shape, shape.properties.map held⟩ name value
      rw [Write.apply, same]
      exact stored writes
  | through accessor value =>
      by_cases own : accessor.owner.id = shape.id
      -- The number says that the accessor is for this shape, and only this shape has the number.
      · have issued := proper.1
        rw [proper.2 own] at issued
        obtain ⟨outcome, writes, same⟩ :=
          set_through_writes ⟨shape, shape.properties.map held⟩ issued value
        rw [Write.apply, same, Write.addressed?, if_pos own]
        exact stored writes
      · obtain ⟨detail, refused⟩ :=
          Accessor.checkOwner_foreign ⟨shape, shape.properties.map held⟩ own
        rw [Write.apply, Accessor.set, refused, Write.addressed?, if_neg own]
        rfl

theorem attempts_eq {shape : Shape} (distinct : (shape.properties.map (·.name)).Nodup)
    {writes : List Write} (proper : ∀ write ∈ writes, write.Proper shape) :
    writes.foldl attempt (new shape) =
      ⟨shape, shape.properties.map (Slots.lastStored (writes.filterMap (·.addressed? shape)))⟩ := by
  have run (held : Property → Value) :
      writes.foldl attempt ⟨shape, shape.properties.map held⟩ =
        ⟨shape, shape.properties.map fun property =>
          (writes.filterMap (·.addressed? shape)).foldl (Slots.overwrite property) (held property)⟩ := by
    induction writes generalizing held with
    | nil => rfl
    | cons write writes ih =>
        rw [List.foldl_cons, attempt_eq distinct held (proper write (by simp)),
          ih fun other later => proper other (by simp [later])]
        simp only [← List.foldl_append]
        cases entry : write.addressed? shape <;> simp [entry]
  exact run fun property => Value.default property.ty

/-- What is set by name or through accessors is what is read by name, through accessors and in the
list of entries. -/
structure Lawful (row : ShapeValue) : Prop where
  set : ∀ name value,
    Slots.Stores row.shape.properties row.get? name value ((row.set name value).map (·.get?))
  setThrough : ∀ accessor : Accessor, accessor.IssuedBy row.shape → ∀ value,
    Slots.Stores row.shape.properties row.get? accessor.property.name value
      ((accessor.set row value).map (·.get?))
  getThrough : ∀ accessor : Accessor, accessor.IssuedBy row.shape →
    ∃ value, accessor.get row = .ok value ∧ row.get? accessor.property.name = some value
  foreign : ∀ accessor : Accessor, accessor.owner.id ≠ row.shape.id →
    (∃ detail, accessor.get row = .error (.typeError detail)) ∧
    ∀ value, ∃ detail, accessor.set row value = .error (.typeError detail)
  names : row.entries.map (·.1) = row.shape.properties.map (·.name)
  entries : ∀ entry ∈ row.entries, row.get? entry.1 = some entry.2

theorem lawful {shape : Shape} (distinct : (shape.properties.map (·.name)).Nodup)
    (held : Property → Value) : Lawful ⟨shape, shape.properties.map held⟩ := by
  have stores {name : String} {value : Value} {outcome : Result (List Value)}
      (writes : Slots.Writes shape.properties (shape.properties.map held) name value outcome) :
      Slots.Stores shape.properties (get? ⟨shape, shape.properties.map held⟩) name value
        ((outcome.map (ShapeValue.mk shape)).map (·.get?)) := by
    have stores := writes.stores distinct
    cases outcome <;> exact stores
  have read {property : Property} (inside : property ∈ shape.properties) :
      get? ⟨shape, shape.properties.map held⟩ property.name = some (held property) := by
    rw [get?_eq_read, Slots.read_map, Slots.find?_name distinct inside, Option.map_some]
  constructor
  case set =>
    intro name value
    obtain ⟨outcome, writes, same⟩ := set_writes ⟨shape, shape.properties.map held⟩ name value
    rw [same]
    exact stores writes
  case setThrough =>
    intro accessor issued value
    obtain ⟨outcome, writes, same⟩ := set_through_writes _ issued value
    rw [same]
    exact stores writes
  case getThrough =>
    intro accessor issued
    obtain ⟨own, placed⟩ := issued.placed
    refine ⟨held accessor.property, ?_, read (List.mem_of_getElem? placed)⟩
    rw [Accessor.get, Accessor.checkOwner_own (congrArg Shape.id own), Result.ok_bind,
      List.getElem?_map, placed]
    rfl
  case foreign =>
    intro accessor foreign
    obtain ⟨detail, refused⟩ := Accessor.checkOwner_foreign _ foreign
    refine ⟨⟨detail, ?_⟩, fun value => ⟨detail, ?_⟩⟩
    · rw [Accessor.get, refused]
      rfl
    · rw [Accessor.set, refused]
      rfl
  case names =>
    apply List.map_fst_zip
    simp
  case entries =>
    intro entry listed
    rw [entries, List.zip_map'] at listed
    obtain ⟨property, inside, rfl⟩ := List.mem_map.mp listed
    exact read inside

end ShapeValue

/-- Records and values of shapes after any sequence of writes, of which some may have failed. -/
theorem slots_keep_last_stored :
    (∀ decl : RecordType, decl.Declared → ∀ writes : List (String × Value),
      ∃ record, writes.foldl RecordValue.attempt (.new decl) = record ∧ record.decl = decl ∧
        Slots.Kept decl.columns writes record.fields record.get? ∧
        ∀ name value, Slots.Stores decl.columns record.get? name value
          ((record.set name value).map (·.get?))) ∧
    (∀ shape : Shape, propertyFault? [] shape.properties = none → ∀ writes : List ShapeValue.Write,
      (∀ write ∈ writes, write.Proper shape) →
      ∃ row, writes.foldl ShapeValue.attempt (.new shape) = row ∧ row.shape = shape ∧
        Slots.Kept shape.properties (writes.filterMap (·.addressed? shape)) row.slots row.get? ∧
        row.Lawful) := by
  constructor
  · intro decl declared writes
    have distinct : (decl.columns.map (·.name)).Nodup := by
      rw [RecordType.columns, List.map_map]
      exact declared.nodup
    refine ⟨_, RecordValue.attempts_eq distinct writes, rfl, ?_, RecordValue.set_stores distinct rfl⟩
    rw [RecordValue.get?_eq_read]
    exact Slots.kept distinct writes
  · intro shape accepted writes proper
    have distinct := (propertyFault?_eq_none accepted).2
    exact ⟨_, ShapeValue.attempts_eq distinct proper, rfl, Slots.kept distinct _,
      ShapeValue.lawful distinct _⟩

namespace Labels

def relabelling : List (String × Value) :=
  [("label", .char 'y'), ("label", .string "no"), ("Label", .char 'z'), ("extra", .bool true)]

def tag : Shape :=
  ⟨3, "Tag#3", 0, [⟨"text", .string⟩, ⟨"size", .nullable .bool⟩]⟩

def note : Shape :=
  ⟨4, "Tag#4", 0, [⟨"text", .string⟩]⟩

def tagging : List ShapeValue.Write :=
  [.named "text" (.string "old"), .through ⟨tag, 0, ⟨"text", .string⟩⟩ (.string "new"),
    .through ⟨note, 0, ⟨"text", .string⟩⟩ (.string "note"), .named "size" (.char 'x'),
    .through ⟨tag, 1, ⟨"size", .nullable .bool⟩⟩ (.bool true), .named "size" .null]

theorem tagging_proper : ∀ write ∈ tagging, write.Proper tag := by
  intro write listed
  simp only [tagging, List.mem_cons, List.not_mem_nil, or_false] at listed
  rcases listed with rfl | rfl | rfl | rfl | rfl | rfl
  · trivial
  · exact ⟨.inl (.head _), fun _ => rfl⟩
  · exact ⟨.inr ⟨"text", rfl⟩, fun same => absurd same (by decide)⟩
  · trivial
  · exact ⟨.inr ⟨"size", rfl⟩, fun _ => rfl⟩
  · trivial

/-- Of the labels only the character is kept, and the accessor of the other shape has no effect. -/
theorem slots_keep_last_stored_labels :
    (∃ record : RecordValue,
      relabelling.foldl RecordValue.attempt (.new derived) = record ∧
      record.get? "label" = some (.char 'y') ∧ record.get? "Label" = none ∧
      record.get? "extra" = some (.bool true) ∧
      record.get? "id" = some (.integer ⟨.i32, 0, by decide⟩)) ∧
    ∃ row : ShapeValue, tagging.foldl ShapeValue.attempt (.new tag) = row ∧ row.Lawful ∧
      row.get? "text" = some (.string "new") ∧ row.get? "size" = some .null := by
  obtain ⟨records, shapes⟩ := slots_keep_last_stored
  obtain ⟨record, reached, _, kept, _⟩ := records derived base_baseOf_derived.declared relabelling
  obtain ⟨row, filled, _, held, lawful⟩ := shapes tag (by decide) tagging tagging_proper
  refine ⟨⟨record, reached, ?_, ?_, ?_, ?_⟩, row, filled, lawful, ?_, ?_⟩
  · exact (kept.latest "label").trans rfl
  · exact (kept.latest "Label").trans rfl
  · exact (kept.latest "extra").trans rfl
  · exact (kept.latest "id").trans rfl
  · exact (held.latest "text").trans rfl
  · exact (held.latest "size").trans rfl

end Labels

end RowQuery
