import RowQuery.Proofs.Compiler.Upcast
import RowQuery.Proofs.Query.Faults

/-!
What a selection makes of a row, said without the forge that supplies the shape: the named expressions
are evaluated in their order and each value is checked against the property of its name. Wherever the
shape comes from, a projection does just that, also if the properties stand in another order there.
-/

namespace RowQuery

/-! ### Equal types -/

/-- Types among which a number stands for shapes of one name. -/
structure OneName (world : Ty → Prop) : Prop where
  any : world .any
  nullable : ∀ inner, world (.nullable inner) → world inner
  sequence : ∀ element, world (.sequence element) → world element
  shape : ∀ a b : Shape, world (.shape a) → world (.shape b) → a.id = b.id → a.name = b.name

theorem OneName.text_eq {world : Ty → Prop} (one : OneName world) {a b : Ty} (first : world a)
    (second : world b) (equal : (a == b) = true) : a.text = b.text := by
  rw [Ty.beq_eq_same] at equal
  fun_induction Ty.same a b with
  | case1 | case2 | case3 | case4 | case5 | case6 | case7 => rfl
  | case8 a b => simp_all
  | case9 a b ih =>
      rw [Ty.text, Ty.text, ih (one.nullable a first) (one.nullable b second) equal]
  | case10 a b ih =>
      rw [Ty.text, Ty.text, ih (one.sequence a first) (one.sequence b second) equal]
  | case11 a b => simpa [Ty.text] using equal
  | case12 a b => simpa [Ty.text] using equal
  | case13 a b => simpa [Ty.text] using one.shape a b first second (by simpa using equal)
  | case14 => simp at equal

theorem Value.conforms_beq {a b : Ty} (equal : (a == b) = true) (value : Value) :
    value.conforms a = value.conforms b := by
  rw [Bool.eq_iff_iff, conforms, conforms]
  constructor
  · intro assigned
    exact Ty.assignable_beq assigned equal
  · intro assigned
    exact Ty.assignable_beq assigned (Ty.same_symm equal)

/-! ### Slots by name -/

namespace ShapeValue

theorem get?_set_self {row : ShapeValue} {name : String} {slot : Nat} {value : Value}
    (found : row.shape.indexOf? name = some slot) (inside : slot < row.slots.length) :
    get? { row with slots := row.slots.set slot value } name = some value := by
  simp [get?, found, inside]

theorem get?_set_other {row : ShapeValue} {name other : String} {slot : Nat} {value : Value}
    (found : row.shape.indexOf? name = some slot) (apart : other ≠ name) :
    get? { row with slots := row.slots.set slot value } other = row.get? other := by
  simp only [get?]
  cases elsewhere : row.shape.indexOf? other with
  | none => rfl
  | some place =>
      -- A slot has one name, so that the two names are found in different slots.
      have different : slot ≠ place := by
        rintro rfl
        obtain ⟨_, named, _⟩ := List.findIdx?_eq_some_iff_getElem.mp found
        obtain ⟨_, otherNamed, _⟩ := List.findIdx?_eq_some_iff_getElem.mp elsewhere
        exact apart ((beq_iff_eq.mp otherNamed).symm.trans (beq_iff_eq.mp named))
      simp [List.getElem?_set_ne different]

end ShapeValue

namespace Projection

def accept (property : Property) (value : Value) : Result Value :=
  if value.conforms property.ty then .ok value
  else
    .error (.typeError ("cannot store " ++ value.typeOf.text ++ " value in '" ++ property.name ++
      "' of type " ++ property.ty.text))

def values (host : Host) (row : Value) : List (String × Expr) → Result (List (String × Value))
  | [] => .ok []
  | (name, expr) :: rest => do
    let value ← expr.evaluate host row
    let accepted ← accept (propertyFor name expr) value
    let others ← values host row rest
    return (name, accepted) :: others

theorem setSlot_eq {row : ShapeValue} {slot : Nat} {property : Property} {value : Value}
    (placed : row.shape.properties[slot]? = some property) :
    row.setSlot slot value = (do
      let accepted ← accept property value
      return { row with slots := row.slots.set slot accepted }) := by
  rw [ShapeValue.setSlot, placed]
  simp only [accept]
  split <;> rfl

structure SlotFor (shape : Shape) (entry : String × Expr) (slot : Nat) (property : Property) :
    Prop where
  found : shape.indexOf? entry.1 = some slot
  placed : shape.properties[slot]? = some property
  same : property.same (propertyFor entry.1 entry.2) = true
  text : property.ty.text = (propertyFor entry.1 entry.2).ty.text

theorem SlotFor.accept_eq {shape : Shape} {entry : String × Expr} {slot : Nat} {property : Property}
    (suits : SlotFor shape entry slot property) (value : Value) :
    accept property value = accept (propertyFor entry.1 entry.2) value := by
  have typed : (property.ty == (propertyFor entry.1 entry.2).ty) = true :=
    (Bool.and_eq_true_iff.mp suits.same).2
  rw [accept, accept, Value.conforms_beq typed, Property.name_eq suits.same, suits.text]

theorem bindings_cons_eq_ok {shape : Shape} {name : String} {expr : Expr} {slot : Nat}
    {rest : List (String × Expr)} {bound : List (Nat × Expr)}
    (found : shape.indexOf? name = some slot) :
    bindings shape ((name, expr) :: rest) = .ok bound ↔
      ∃ others, bindings shape rest = .ok others ∧ bound = (slot, expr) :: others := by
  simp only [bindings, found, Result.bind_eq_ok, Result.pure_eq_ok]
  exact exists_congr fun others => and_congr_right fun _ => eq_comm

/-- The instance shows the values under their names, and what other names showed before. -/
structure Shows (before after : ShapeValue) (names : List String) (pairs : List (String × Value)) :
    Prop where
  shape : after.shape = before.shape
  shown : ∀ pair ∈ pairs, after.get? pair.1 = some pair.2
  kept : ∀ name, name ∉ names → after.get? name = before.get? name

theorem bindSlots_agree {shape : Shape} {exprs : List (String × Expr)} {bound : List (Nat × Expr)}
    (suited : ∀ entry ∈ exprs, ∃ slot property, SlotFor shape entry slot property)
    (distinct : (exprs.map (·.1)).Nodup) (slots : bindings shape exprs = .ok bound) (host : Host)
    (row : Value) {built : ShapeValue} (isShape : built.shape = shape)
    (full : built.slots.length = shape.properties.length) :
    Result.Agree (fun pairs final => Shows built final (exprs.map (·.1)) pairs)
      (values host row exprs) (Expr.bindSlots host row bound built) := by
  -- What is stored first is kept by what is stored later, since the names differ.
  induction exprs generalizing bound built with
  | nil =>
      obtain rfl : [] = bound := Except.ok.inj slots
      exact ⟨rfl, by simp, fun _ _ => rfl⟩
  | cons entry exprs ih =>
      obtain ⟨name, expr⟩ := entry
      obtain ⟨slot, property, suits⟩ := suited _ List.mem_cons_self
      obtain ⟨others, later, rfl⟩ := (bindings_cons_eq_ok suits.found).mp slots
      obtain ⟨fresh, distinctRest⟩ := List.nodup_cons.mp distinct
      subst isShape
      rw [values, Expr.bindSlots]
      refine (Result.Agree.refl _).bind ?_
      rintro value _ rfl
      rw [setSlot_eq suits.placed, suits.accept_eq, bind_assoc]
      refine (Result.Agree.refl _).bind ?_
      rintro accepted _ rfl
      let changed : ShapeValue := { built with slots := built.slots.set slot accepted }
      have isShape : changed.shape = built.shape := rfl
      have wide : changed.slots.length = built.shape.properties.length := by
        rw [List.length_set, full]
      have inside : slot < built.slots.length := by
        rw [full]
        exact (List.getElem?_eq_some_iff.mp suits.placed).1
      refine (ih (fun entry listed => suited entry (List.mem_cons_of_mem _ listed)) distinctRest later
        isShape wide).pure_left ?_
      intro pairs final shows
      refine ⟨shows.shape, ?_, ?_⟩
      · intro pair listed
        rcases List.mem_cons.mp listed with rfl | deeper
        · rw [shows.kept name fresh]
          exact ShapeValue.get?_set_self suits.found inside
        · exact shows.shown pair deeper
      · intro other outside
        rw [List.map_cons, List.mem_cons, not_or] at outside
        rw [shows.kept other outside.2]
        exact ShapeValue.get?_set_other suits.found outside.1

def Gives (shape : Shape) (pairs : List (String × Value)) (value : Value) : Prop :=
  ∃ row : ShapeValue, value = row.toValue ∧ row.shape = shape ∧
    ∀ pair ∈ pairs, row.get? pair.1 = some pair.2

theorem apply_agrees {shape : Shape} {exprs : List (String × Expr)} {projection : Projection}
    (suited : ∀ entry ∈ exprs, ∃ slot property, SlotFor shape entry slot property)
    (distinct : (exprs.map (·.1)).Nodup) (filled : ofShape shape exprs = .ok projection)
    (host : Host) (row : Value) :
    Result.Agree (Gives projection.shape) (values host row exprs) (projection.apply host row) := by
  obtain ⟨slots, bound, rest⟩ := Result.bind_eq_ok.mp filled
  obtain ⟨expr, made, whole⟩ := Result.bind_eq_ok.mp rest
  obtain rfl := Result.pure_eq_ok.mp whole
  obtain ⟨_, rfl⟩ := Expr.fill_eq_ok made
  have full : (ShapeValue.new shape).slots.length = shape.properties.length := List.length_map _
  have filling := bindSlots_agree suited distinct bound host row rfl full
  have evaluated : Result.Agree (Gives shape) (values host row exprs >>= pure)
      ((Expr.construct shape slots).evaluate host row) := by
    rw [Expr.evaluate]
    refine filling.bind ?_
    intro pairs final shows
    exact ⟨final, rfl, shows.shape, shows.shown⟩
  rwa [bind_pure] at evaluated

theorem values_eq_ok {host : Host} {row : Value} {exprs : List (String × Expr)}
    {pairs : List (String × Value)} (evaluated : values host row exprs = .ok pairs) :
    ∀ entry ∈ exprs, ∃ value, entry.2.evaluate host row = .ok value ∧ (entry.1, value) ∈ pairs := by
  induction exprs generalizing pairs with
  | nil => simp
  | cons entry exprs ih =>
      obtain ⟨name, expr⟩ := entry
      simp only [values, Result.bind_eq_ok, Result.pure_eq_ok] at evaluated
      obtain ⟨value, found, accepted, fits, others, later, rfl⟩ := evaluated
      have kept : accepted = value := by
        rw [accept] at fits
        split at fits
        · exact (Except.ok.inj fits).symm
        · simp at fits
      intro entry listed
      rcases List.mem_cons.mp listed with rfl | deeper
      · exact ⟨value, found, by simp [kept]⟩
      · obtain ⟨other, elsewhere, inside⟩ := ih later entry deeper
        exact ⟨other, elsewhere, List.mem_cons_of_mem _ inside⟩

theorem bindSelection_eq_ok {compiler : Compiler} {target : Expr} {selection : Selection}
    {exprs : List (String × Expr)} (bound : bindSelection compiler target selection = .ok exprs) :
    (∀ entry ∈ selection, ∃ expr, compiler.build target entry.2 = .ok expr ∧
      (entry.1, expr) ∈ exprs) ∧
    ∀ named ∈ exprs, ∃ formula, (named.1, formula) ∈ selection ∧
      compiler.build target formula = .ok named.2 := by
  induction selection generalizing exprs with
  | nil =>
      obtain rfl : [] = exprs := Except.ok.inj bound
      simp
  | cons entry selection ih =>
      obtain ⟨name, formula⟩ := entry
      simp only [bindSelection, Result.bind_eq_ok, Result.pure_eq_ok] at bound
      obtain ⟨expr, built, others, later, rfl⟩ := bound
      obtain ⟨forward, backward⟩ := ih later
      refine ⟨?_, ?_⟩
      · intro entry listed
        rcases List.mem_cons.mp listed with rfl | deeper
        · exact ⟨expr, built, List.mem_cons_self⟩
        · obtain ⟨other, otherBuilt, inside⟩ := forward entry deeper
          exact ⟨other, otherBuilt, List.mem_cons_of_mem _ inside⟩
      · intro named listed
        rcases List.mem_cons.mp listed with rfl | deeper
        · exact ⟨formula, List.mem_cons_self, built⟩
        · obtain ⟨other, inside, otherBuilt⟩ := backward named deeper
          exact ⟨other, List.mem_cons_of_mem _ inside, otherBuilt⟩

def allowed (exprs : List (String × Expr)) : Result Unit :=
  match propertyFault? [] (propertiesOf exprs) with
  | some fault => .error fault
  | none => .ok ()

variable {world : Ty → Prop}

theorem propertyFor_known (one : OneName world) {name : String} {expr : Expr} (known : world expr.ty) :
    world (propertyFor name expr).ty := by
  rw [propertyFor]
  simp only
  split
  · exact one.any
  · exact known

/-- Whatever forge supplies the shape, a selection of which the expressions are bound does what its
expressions say. -/
theorem compile_agrees (one : OneName world) {forge : Forge} (matching : forge.All CacheEntry.Matches)
    (knows : forge.Knows world) {compiler : Compiler} {target : Expr} {selection : Selection}
    {exprs : List (String × Expr)} (bound : bindSelection compiler target selection = .ok exprs)
    (typed : ∀ entry ∈ exprs, world entry.2.ty) (held : List Ty) :
    Result.Agree
      (fun _ projection => ∀ host row,
        Result.Agree (Gives projection.shape) (values host row exprs) (projection.apply host row))
      (allowed exprs) (compile compiler held target selection forge).1 := by
  have asked : ∀ property ∈ propertiesOf exprs, world property.ty := by
    intro property listed
    obtain ⟨entry, inside, rfl⟩ := List.mem_map.mp listed
    exact propertyFor_known one (typed entry inside)
  have supplied := (matching.supplies held (propertiesOf exprs)).shape
  have known := (knows.generate held asked).2
  rw [compile_eq bound]
  cases generated : (forge.generate held (propertiesOf exprs)).1 with
  | error fault =>
      rw [generated] at supplied
      have refused : propertyFault? [] (propertiesOf exprs) = some fault := supplied
      rw [allowed, refused]
      rfl
  | ok shape =>
      rw [generated] at supplied
      obtain ⟨accepted, same⟩ := supplied
      have distinct := (propertyFault?_eq_none accepted).2
      have names : (propertiesOf exprs).map (·.name) = exprs.map (·.1) := List.map_map
      obtain ⟨projection, filled⟩ := ofShape_eq_ok accepted same
      rw [Result.ok_bind, allowed, accepted, filled]
      intro host row
      refine apply_agrees ?_ (names ▸ distinct) filled host row
      intro entry listed
      obtain ⟨slot, property, found, placed, equal⟩ := slot_of_same same distinct listed
      have propertyKnown := known shape generated property (List.mem_of_getElem? placed)
      have text := one.text_eq propertyKnown (propertyFor_known one (typed entry listed))
        (Bool.and_eq_true_iff.mp equal).2
      exact ⟨slot, property, found, placed, equal, text⟩

/-- What a selection does to a row does not depend on the forge, on what it has in its caches or on
what is held, as long as a number stands for shapes of one name among the types that are selected and
cached. Either the selection is refused in the same way with both forges, or on each row the two
projections fail in the same way or give instances with the values of the selected formulas under
their names. -/
theorem selection_independent_of_forge (one : OneName world) {first second : Forge}
    (firstReached : first.Reachable) (secondReached : second.Reachable)
    (firstKnows : first.Knows world) (secondKnows : second.Knows world) (compiler : Compiler)
    (target : Expr) (selection : Selection)
    (typed : ∀ entry ∈ selection, ∀ expr, compiler.build target entry.2 = .ok expr → world expr.ty)
    (firstHeld secondHeld : List Ty) :
    Result.Agree
      (fun here there => ∀ host row, Result.Agree
        (fun left right => ∃ a b : ShapeValue, left = a.toValue ∧ right = b.toValue ∧
          a.shape = here.shape ∧ b.shape = there.shape ∧
          ∀ entry ∈ selection, ∃ expr value, compiler.build target entry.2 = .ok expr ∧
            expr.evaluate host row = .ok value ∧
            a.get? entry.1 = some value ∧ b.get? entry.1 = some value)
        (here.apply host row) (there.apply host row))
      (compile compiler firstHeld target selection first).1
      (compile compiler secondHeld target selection second).1 := by
  cases bound : bindSelection compiler target selection with
  | error fault =>
      rw [compile, compile, bound]
      rfl
  | ok exprs =>
      obtain ⟨forward, backward⟩ := bindSelection_eq_ok bound
      have known : ∀ entry ∈ exprs, world entry.2.ty := by
        intro named listed
        obtain ⟨formula, inside, built⟩ := backward named listed
        exact typed _ inside _ built
      have toFirst := compile_agrees one firstReached.matching firstKnows bound known firstHeld
      have toSecond := compile_agrees one secondReached.matching secondKnows bound known secondHeld
      refine toFirst.via toSecond ?_
      intro _ here there shownHere shownThere host row
      refine (shownHere host row).reached.via (shownThere host row) ?_
      rintro pairs _ _ ⟨evaluated, a, rfl, shapeHere, givesHere⟩ ⟨b, rfl, shapeThere, givesThere⟩
      refine ⟨a, b, rfl, rfl, shapeHere, shapeThere, ?_⟩
      intro entry listed
      obtain ⟨expr, built, inside⟩ := forward entry listed
      obtain ⟨value, found, paired⟩ := values_eq_ok evaluated _ inside
      exact ⟨expr, value, built, found, givesHere _ paired, givesThere _ paired⟩

end Projection

namespace Parcels

def parcel : RecordType :=
  ⟨"Parcel", none, [⟨"weight", .i32, .property, .shown, "Parcel"⟩,
    ⟨"label", .string, .property, .shown, "Parcel"⟩], []⟩

def selection : Selection :=
  [("kilos", .field "weight"), ("text", .field "label")]

def turned : List Property :=
  [⟨"text", .string⟩, ⟨"kilos", .i32⟩]

def tag : Shape :=
  ⟨0, "Tag#0", 0, turned⟩

def fresh : Forge :=
  .plain (.new "Tag")

def stocked : Forge :=
  .caching [⟨turned.reverse, tag, 0⟩] (.plain ⟨"Tag", ⟨0, [0]⟩, [], 0, 1⟩)

theorem tag_made : fresh.withCache.generate [] turned = (.ok tag, stocked) := by
  rw [fresh, Forge.withCache, Forge.generate]
  simp only [Forge.generate]
  rfl

theorem tag_found : stocked.generate [.shape tag] turned.reverse = (.ok tag, stocked) := by
  rw [stocked, Forge.generate]
  rfl

def weight : Expr :=
  .member (.target (.record parcel)) (.record parcel 0 ⟨"weight", .i32, .property, .shown, "Parcel"⟩)

def label : Expr :=
  .member (.target (.record parcel)) (.record parcel 1 ⟨"label", .string, .property, .shown, "Parcel"⟩)

theorem selection_bound : Projection.bindSelection (.ofCatalog .empty) (.target (.record parcel))
    selection = .ok [("kilos", weight), ("text", label)] := rfl

def straight : Projection :=
  ⟨{ tag with properties := turned.reverse },
    .construct { tag with properties := turned.reverse } [(0, weight), (1, label)]⟩

def crossed : Projection :=
  ⟨tag, .construct tag [(1, weight), (0, label)]⟩

theorem compiled_fresh : (Projection.compile (.ofCatalog .empty) [] (.target (.record parcel)) selection
    fresh).1 = .ok straight := by
  rw [Projection.compile_eq selection_bound, fresh, Forge.generate]
  rfl

theorem compiled_stocked : (Projection.compile (.ofCatalog .empty) [.shape tag]
    (.target (.record parcel)) selection stocked).1 = .ok crossed := by
  have properties : Projection.propertiesOf [("kilos", weight), ("text", label)] = turned.reverse := rfl
  rw [Projection.compile_eq selection_bound, properties, tag_found]
  rfl

theorem plain_oneName : OneName (fun ty => ty.isPlain = true) where
  any := rfl
  nullable inner known := by simp [Ty.isPlain] at known
  sequence element known := by simp [Ty.isPlain] at known
  shape a b known := by simp [Ty.isPlain] at known

theorem stocked_reachable : stocked.Reachable := by
  have reached := (Forge.Reachable.new "Tag").withCache.generate [] turned
  change (fresh.withCache.generate [] turned).2.Reachable at reached
  rwa [tag_made] at reached

theorem stocked_knows : stocked.Knows (fun ty => ty.isPlain = true) := by
  have empty : fresh.withCache.Knows (fun ty => ty.isPlain = true) := ⟨by simp, trivial⟩
  have known : ∀ property ∈ turned, property.ty.isPlain = true := by simp [turned, Ty.isPlain]
  have knows := (empty.generate [] known).1
  rwa [tag_made] at knows

def clerk : Host :=
  ⟨fun _ value => .ok value, .epoch⟩

def kilos : Value :=
  .integer ⟨.i32, 12, by decide⟩

theorem weight_built : Compiler.build (.ofCatalog .empty) (.target (.record parcel))
    (.field "weight") = .ok weight := rfl

theorem label_built : Compiler.build (.ofCatalog .empty) (.target (.record parcel))
    (.field "label") = .ok label := rfl

def sent : Value :=
  .record parcel [kilos, .string "Lyon"]

def garbled : Value :=
  .record parcel [.string "Lyon", .null]

/-- One projection has the properties in the order of the selection, the other has them turned. Both
give the weight and the label, and both refuse the garbled row. -/
theorem selection_independent_of_forge_parcels :
    fresh.Reachable ∧ stocked.Reachable ∧
    (Projection.compile (.ofCatalog .empty) [] (.target (.record parcel)) selection fresh).1 =
      .ok straight ∧
    (Projection.compile (.ofCatalog .empty) [.shape tag] (.target (.record parcel)) selection
      stocked).1 = .ok crossed ∧
    (∃ a b : ShapeValue, straight.apply clerk sent = .ok a.toValue ∧
      crossed.apply clerk sent = .ok b.toValue ∧
      a.get? "kilos" = some kilos ∧ b.get? "kilos" = some kilos ∧
      a.get? "text" = some (.string "Lyon") ∧ b.get? "text" = some (.string "Lyon")) ∧
    ∃ fault, straight.apply clerk garbled = .error fault ∧
      crossed.apply clerk garbled = .error fault := by
  have typed : ∀ entry ∈ selection, ∀ expr, Compiler.build (.ofCatalog .empty)
      (.target (.record parcel)) entry.2 = .ok expr → expr.ty.isPlain = true := by
    intro entry listed expr built
    simp only [selection, List.mem_cons, List.not_mem_nil, or_false] at listed
    rcases listed with rfl | rfl
    · rw [← Except.ok.inj (weight_built.symm.trans built)]
      rfl
    · rw [← Except.ok.inj (label_built.symm.trans built)]
      rfl
  have reached : fresh.Reachable := .new "Tag"
  have agree := Projection.selection_independent_of_forge plain_oneName reached stocked_reachable
    trivial stocked_knows (.ofCatalog .empty) (.target (.record parcel)) selection typed [] [.shape tag]
  rw [compiled_fresh, compiled_stocked] at agree
  refine ⟨reached, stocked_reachable, compiled_fresh, compiled_stocked, ?_, ?_⟩
  · have given := agree clerk sent
    have here : straight.apply clerk sent =
        .ok (.shape straight.shape [kilos, .string "Lyon"]) := rfl
    cases there : crossed.apply clerk sent with
    | error fault =>
        rw [here, there] at given
        exact given.elim
    | ok value =>
        rw [here, there] at given
        obtain ⟨a, b, isA, isB, _, _, shown⟩ := given
        obtain ⟨_, _, built, evaluated, weightA, weightB⟩ :=
          shown ("kilos", .field "weight") (by simp [selection])
        obtain rfl := Except.ok.inj (weight_built.symm.trans built)
        obtain rfl : kilos = _ := Except.ok.inj evaluated
        obtain ⟨_, _, built, evaluated, labelA, labelB⟩ :=
          shown ("text", .field "label") (by simp [selection])
        obtain rfl := Except.ok.inj (label_built.symm.trans built)
        obtain rfl : Value.string "Lyon" = _ := Except.ok.inj evaluated
        exact ⟨a, b, by rw [here, isA], by rw [isB], weightA, weightB, labelA, labelB⟩
  · have failed : straight.apply clerk garbled =
        .error (.typeError "cannot store string value in 'kilos' of type i32") := rfl
    have given := agree clerk garbled
    cases there : crossed.apply clerk garbled with
    | error fault =>
        rw [failed, there] at given
        exact ⟨fault, by rw [failed, given], rfl⟩
    | ok value =>
        rw [failed, there] at given
        exact given.elim

end Parcels

end RowQuery
