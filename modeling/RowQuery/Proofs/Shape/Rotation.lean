import Mathlib.Data.List.Permutation
import Mathlib.Logic.Relation
import RowQuery.Proofs.Outcome
import RowQuery.Proofs.Shape.Identity

/-!
Rotation over whole runs. No namespace gets more shapes than the threshold, and each shape is
registered once, in the namespace that it refers to. Without resets from outside, the namespaces are
filled one after the other. A call that is refused can still begin a new namespace: it does so if the
threshold is reached and no cache stands before the layer that rotates.
-/

namespace RowQuery

def Foundry.spaces (foundry : Foundry) : List Namespace :=
  foundry.current :: foundry.retired

/-! ### Resets and fabrications -/

/-- A foundry, the shapes that were made in it, oldest first, and how many of them were counted since
the last reset. -/
structure Ledger where
  count : Nat
  foundry : Foundry
  made : List Shape

namespace Ledger

def new (typePrefix : String) : Ledger :=
  ⟨0, Foundry.new typePrefix, []⟩

def reset (ledger : Ledger) : Ledger :=
  ⟨0, ledger.foundry.reset, ledger.made⟩

def fabricate (ledger : Ledger) (properties : List Property) : Ledger :=
  let (shape, changed) := ledger.foundry.fabricate properties
  ⟨ledger.count + 1, changed, ledger.made ++ [shape]⟩

def ready (threshold : Nat) (ledger : Ledger) : Ledger :=
  if threshold ≤ ledger.count then ledger.reset else ledger

inductive Step (threshold : Nat) (asked : Prop) : Ledger → Ledger → Prop
  | reset {ledger : Ledger} : asked ∨ threshold ≤ ledger.count →
      Step threshold asked ledger ledger.reset
  | fabricate {ledger : Ledger} (properties : List Property) : ledger.count < threshold →
      Step threshold asked ledger (ledger.fabricate properties)

def Steps (threshold : Nat) (asked : Prop) : Ledger → Ledger → Prop :=
  Relation.ReflTransGen (Step threshold asked)

theorem Step.weaken {threshold : Nat} {asked wanted : Prop} {before after : Ledger}
    (step : Step threshold asked before after) (reason : asked → wanted) :
    Step threshold wanted before after := by
  cases step with
  | reset due => exact .reset (due.imp_left reason)
  | fabricate properties room => exact .fabricate properties room

theorem Steps.weaken {threshold : Nat} {asked wanted : Prop} {before after : Ledger}
    (steps : Steps threshold asked before after) (reason : asked → wanted) :
    Steps threshold wanted before after := by
  induction steps with
  | refl => exact .refl
  | tail _ last ih => exact ih.tail (last.weaken reason)

theorem steps_ready (threshold : Nat) (asked : Prop) (ledger : Ledger) :
    Steps threshold asked ledger (ledger.ready threshold) := by
  unfold ready
  split
  · rename_i due
    exact .single (.reset (.inr due))
  · exact .refl

theorem ready_count_lt {threshold : Nat} (positive : 0 < threshold) (ledger : Ledger) :
    (ledger.ready threshold).count < threshold := by
  unfold ready
  split
  · exact positive
  · omega

theorem ready_made (threshold : Nat) (ledger : Ledger) :
    (ledger.ready threshold).made = ledger.made := by
  unfold ready
  split
  · rfl
  · rfl

theorem ready_issued (threshold : Nat) (ledger : Ledger) :
    (ledger.ready threshold).foundry.issued = ledger.foundry.issued := by
  unfold ready
  split
  · rfl
  · rfl

theorem ids_fabricate (ledger : Ledger) (properties : List Property) :
    (ledger.fabricate properties).made.map (·.id) =
      ledger.made.map (·.id) ++ [ledger.foundry.issued] :=
  List.map_append

structure Balanced (threshold : Nat) (ledger : Ledger) : Prop where
  counted : ledger.count = ledger.foundry.current.shapes.length
  bounded : ∀ space ∈ ledger.foundry.spaces, space.shapes.length ≤ threshold
  inStep : ledger.foundry.current.generation = ledger.foundry.epoch
  newestFirst : ledger.foundry.spaces.Pairwise fun newer older => older.generation < newer.generation
  numbered : ledger.made.map (·.id) = List.range ledger.foundry.issued
  complete : (ledger.foundry.spaces.flatMap (·.shapes)).Perm (ledger.made.map (·.id))
  referring : ∀ space ∈ ledger.foundry.spaces, ∀ id ∈ space.shapes,
    ∃ shape ∈ ledger.made, shape.id = id ∧ shape.generation = space.generation

namespace Balanced

variable {threshold : Nat} {ledger : Ledger}

theorem new (threshold : Nat) (typePrefix : String) :
    (Ledger.new typePrefix).Balanced threshold := by
  constructor <;> simp [Ledger.new, Foundry.new, Foundry.spaces]

theorem count_le (balanced : ledger.Balanced threshold) : ledger.count ≤ threshold := by
  have bound := balanced.bounded ledger.foundry.current (by simp [Foundry.spaces])
  have counted := balanced.counted
  omega

theorem length_made (balanced : ledger.Balanced threshold) :
    ledger.made.length = ledger.foundry.issued := by
  have lengths := congrArg List.length balanced.numbered
  simpa using lengths

theorem nodup_ids (balanced : ledger.Balanced threshold) :
    (ledger.made.map (·.id)).Nodup := by
  rw [balanced.numbered]
  exact List.nodup_range

theorem reset (balanced : ledger.Balanced threshold) : ledger.reset.Balanced threshold where
  counted := rfl
  bounded := by
    intro space member
    rcases List.mem_cons.mp member with rfl | older
    · exact Nat.zero_le threshold
    · exact balanced.bounded space older
  inStep := congrArg (· + 1) balanced.inStep
  newestFirst := by
    refine List.pairwise_cons.mpr ⟨?_, balanced.newestFirst⟩
    intro space member
    change space.generation < ledger.foundry.current.generation + 1
    rcases List.mem_cons.mp member with rfl | older
    · omega
    · have before := List.rel_of_pairwise_cons balanced.newestFirst older
      omega
  numbered := balanced.numbered
  complete := balanced.complete
  referring := by
    intro space member id registered
    rcases List.mem_cons.mp member with rfl | older
    · exact absurd registered List.not_mem_nil
    · exact balanced.referring space older id registered

theorem fabricate (balanced : ledger.Balanced threshold) (room : ledger.count < threshold)
    (properties : List Property) : (ledger.fabricate properties).Balanced threshold where
  counted := by
    change ledger.count + 1 = (ledger.foundry.current.shapes ++ [ledger.foundry.issued]).length
    rw [List.length_append, ← balanced.counted]
    rfl
  bounded := by
    intro space member
    rcases List.mem_cons.mp member with rfl | older
    · change (ledger.foundry.current.shapes ++ [ledger.foundry.issued]).length ≤ threshold
      rw [List.length_append, ← balanced.counted]
      exact room
    · exact balanced.bounded space (List.mem_cons_of_mem _ older)
  inStep := balanced.inStep
  newestFirst := List.pairwise_cons.mpr (List.pairwise_cons.mp balanced.newestFirst)
  numbered := by
    rw [ids_fabricate, balanced.numbered]
    exact List.range_succ.symm
  complete := by
    rw [ids_fabricate]
    refine List.Perm.trans ?_ (balanced.complete.append_right _)
    change ((ledger.foundry.current.shapes ++ [ledger.foundry.issued]) ++
      ledger.foundry.retired.flatMap (·.shapes)).Perm
        ((ledger.foundry.current.shapes ++ ledger.foundry.retired.flatMap (·.shapes)) ++
          [ledger.foundry.issued])
    rw [List.append_assoc, List.append_assoc]
    exact List.perm_append_comm.append_left _
  referring := by
    intro space member id registered
    -- A shape that was made before is still there; only the namespace in use got a new one.
    have before (old : Namespace) (known : old ∈ ledger.foundry.spaces) (inOld : id ∈ old.shapes) :
        ∃ shape ∈ (ledger.fabricate properties).made,
          shape.id = id ∧ shape.generation = old.generation := by
      obtain ⟨shape, made, refers⟩ := balanced.referring old known id inOld
      exact ⟨shape, List.mem_append_left _ made, refers⟩
    rcases List.mem_cons.mp member with rfl | older
    · rcases List.mem_append.mp registered with old | new
      · exact before ledger.foundry.current List.mem_cons_self old
      · exact ⟨_, List.mem_append_right _ List.mem_cons_self, (List.mem_singleton.mp new).symm, rfl⟩
    · exact before space (List.mem_cons_of_mem _ older) registered

theorem step {asked : Prop} {after : Ledger} (balanced : ledger.Balanced threshold)
    (step : Step threshold asked ledger after) : after.Balanced threshold := by
  cases step with
  | reset _ => exact balanced.reset
  | fabricate properties room => exact balanced.fabricate room properties

theorem steps {asked : Prop} {after : Ledger} (balanced : ledger.Balanced threshold)
    (steps : Steps threshold asked ledger after) : after.Balanced threshold := by
  induction steps with
  | refl => exact balanced
  | tail _ last ih => exact ih.step last

/-- Each shape is registered once, and that is in the namespace that it refers to. -/
theorem registered (balanced : ledger.Balanced threshold) {shape : Shape}
    (made : shape ∈ ledger.made) :
    (ledger.foundry.spaces.flatMap (·.shapes)).count shape.id = 1 ∧
      ∃ space ∈ ledger.foundry.spaces, space.generation = shape.generation ∧
        shape.id ∈ space.shapes := by
  have listed : shape.id ∈ ledger.made.map (·.id) := List.mem_map_of_mem made
  constructor
  · rw [balanced.complete.count_eq]
    exact List.count_eq_one_of_mem balanced.nodup_ids listed
  · obtain ⟨space, known, registered⟩ :=
      List.mem_flatMap.mp (balanced.complete.mem_iff.mpr listed)
    obtain ⟨other, otherMade, sameId, refers⟩ := balanced.referring space known _ registered
    have same : other = shape := List.inj_on_of_nodup_map balanced.nodup_ids otherMade made sameId
    rw [same] at refers
    exact ⟨space, known, refers.symm, registered⟩

end Balanced

structure Packed (threshold : Nat) (ledger : Ledger) : Prop where
  issued : ledger.foundry.issued = ledger.foundry.epoch * threshold + ledger.count
  generation : ∀ place shape, ledger.made[place]? = some shape → shape.generation = place / threshold

namespace Packed

variable {threshold : Nat} {ledger : Ledger}

theorem new (threshold : Nat) (typePrefix : String) : (Ledger.new typePrefix).Packed threshold := by
  constructor <;> simp [Ledger.new, Foundry.new]

theorem reset (packed : ledger.Packed threshold) (full : ledger.count = threshold) :
    ledger.reset.Packed threshold where
  issued := by
    have issued := packed.issued
    change ledger.foundry.issued = (ledger.foundry.epoch + 1) * threshold + 0
    rw [Nat.add_mul]
    omega
  generation := packed.generation

theorem fabricate (packed : ledger.Packed threshold) (balanced : ledger.Balanced threshold)
    (room : ledger.count < threshold) (properties : List Property) :
    (ledger.fabricate properties).Packed threshold where
  issued := by
    change ledger.foundry.issued + 1 = ledger.foundry.epoch * threshold + (ledger.count + 1)
    rw [packed.issued, Nat.add_assoc]
  generation := by
    intro place shape listed
    change (ledger.made ++ [(ledger.foundry.fabricate properties).1])[place]? = some shape at listed
    by_cases older : place < ledger.made.length
    · rw [List.getElem?_append_left older] at listed
      exact packed.generation place shape listed
    · rw [List.getElem?_append_right (by omega), List.getElem?_singleton] at listed
      split at listed
      · rename_i last
        have placed : place = ledger.foundry.epoch * threshold + ledger.count := by
          rw [← packed.issued, ← balanced.length_made]
          omega
        have division : place / threshold = ledger.foundry.epoch := by
          rw [placed, Nat.mul_comm, Nat.mul_add_div (by omega), Nat.div_eq_of_lt room, Nat.add_zero]
        rw [← Option.some.inj listed, division]
        exact balanced.inStep
      · simp at listed

theorem step {after : Ledger} (packed : ledger.Packed threshold)
    (balanced : ledger.Balanced threshold) (step : Step threshold False ledger after) :
    after.Packed threshold := by
  cases step with
  | reset reason =>
      have due := reason.resolve_left id
      have most := balanced.count_le
      exact packed.reset (by omega)
  | fabricate properties room => exact packed.fabricate balanced room properties

theorem steps {after : Ledger} (packed : ledger.Packed threshold)
    (balanced : ledger.Balanced threshold) (steps : Steps threshold False ledger after) :
    after.Packed threshold := by
  induction steps with
  | refl => exact packed
  | tail before last ih => exact ih.step (balanced.steps before) last

end Packed

/-! ### Forges around a foundry -/

def rotating (threshold : Nat) (ledger : Ledger) : Forge :=
  .rotating threshold ledger.count (.plain ledger.foundry)

def forge (threshold : Nat) (ledger : Ledger) : Option (List CacheEntry) → Forge
  | none => ledger.rotating threshold
  | some entries => .caching entries (ledger.rotating threshold)

theorem foundry_forge (threshold : Nat) (ledger : Ledger) (cache : Option (List CacheEntry)) :
    (ledger.forge threshold cache).foundry = ledger.foundry := by
  cases cache with
  | none => rfl
  | some entries => rfl

theorem rotation_forge (threshold : Nat) (ledger : Ledger) (cache : Option (List CacheEntry)) :
    (ledger.forge threshold cache).rotation? = some (ledger.count, threshold) := by
  cases cache with
  | none => rfl
  | some entries => rfl

theorem reset_forge (threshold : Nat) (ledger : Ledger) (cache : Option (List CacheEntry)) :
    (ledger.forge threshold cache).reset =
      ledger.reset.forge threshold (cache.map fun _ => []) := by
  cases cache with
  | none => rfl
  | some entries => rfl

theorem rotating_refused {properties : List Property} {fault : Error}
    (refused : propertyFault? [] properties = some fault) (threshold : Nat) (ledger : Ledger)
    (held : List Ty) :
    (ledger.rotating threshold).generate held properties =
      (.error fault, (ledger.ready threshold).rotating threshold) := by
  rw [rotating, Forge.generate]
  by_cases due : threshold ≤ ledger.count
  · simp [due, Forge.generate, Forge.reset, refused, ready, reset, rotating]
  · simp [due, Forge.generate, refused, ready, rotating]

theorem rotating_accepted {properties : List Property}
    (accepted : propertyFault? [] properties = none) (threshold : Nat) (ledger : Ledger)
    (held : List Ty) :
    (ledger.rotating threshold).generate held properties =
      (.ok ((ledger.ready threshold).foundry.fabricate properties).1,
        ((ledger.ready threshold).fabricate properties).rotating threshold) := by
  rw [rotating, Forge.generate]
  by_cases due : threshold ≤ ledger.count
  · simp [due, Forge.generate, Forge.reset, accepted, ready, reset, rotating, fabricate]
  · simp [due, Forge.generate, accepted, ready, rotating, fabricate]

/-- A call that is refused comes as far as the layer that rotates only if there is no cache. -/
theorem forge_refused {properties : List Property} {fault : Error}
    (refused : propertyFault? [] properties = some fault) (threshold : Nat) (ledger : Ledger)
    (cache : Option (List CacheEntry)) (held : List Ty) :
    (ledger.forge threshold cache).generate held properties =
      (.error fault,
        (if cache.isSome then ledger else ledger.ready threshold).forge threshold cache) := by
  cases cache with
  | none => exact rotating_refused refused threshold ledger held
  | some entries => exact Forge.generate_refused refused

theorem forge_accepted {properties : List Property}
    (accepted : propertyFault? [] properties = none) (threshold : Nat) (ledger : Ledger)
    (cache : Option (List CacheEntry)) (held : List Ty) :
    (∃ entry ∈ cache.getD [], (ledger.forge threshold cache).generate held properties =
      (.ok entry.shape, ledger.forge threshold cache)) ∨
    ∃ changed, changed.isSome = cache.isSome ∧
      (∀ entry ∈ changed.getD [], entry ∈ cache.getD [] ∨
        entry.shape = ((ledger.ready threshold).foundry.fabricate properties).1) ∧
      (ledger.forge threshold cache).generate held properties =
        (.ok ((ledger.ready threshold).foundry.fabricate properties).1,
          ((ledger.ready threshold).fabricate properties).forge threshold changed) := by
  cases cache with
  | none => exact .inr ⟨none, rfl, by simp, rotating_accepted accepted threshold ledger held⟩
  | some entries =>
      rw [forge, Forge.generate, accepted]
      simp only []
      split
      · rename_i entry found
        exact .inl ⟨entry, List.mem_of_find?_eq_some found, rfl⟩
      · rw [rotating_accepted accepted threshold ledger held]
        refine .inr ⟨some _, ?_, ?_, rfl⟩
        · rfl
        · intro entry member
          rcases List.mem_append.mp member with kept | added
          · exact .inl (List.mem_of_mem_filter (CacheEntry.mem_of_mem_sweep kept))
          · rw [List.mem_singleton.mp added]
            exact .inr rfl

end Ledger

theorem Forge.ofSettings_eq_ok {settings : ShapeSettings} {forge : Forge}
    (built : ofSettings settings = .ok forge) :
    0 < settings.resetThreshold ∧
      forge = (Ledger.new settings.typePrefix).forge settings.resetThreshold
        (if settings.caching then some [] else none) := by
  simp only [ofSettings, withRotation] at built
  split at built
  · obtain ⟨_, impossible, _⟩ := Result.bind_eq_ok.mp built
    simp at impossible
  · rename_i positive
    rw [Result.ok_bind, Result.pure_eq_ok] at built
    refine ⟨Nat.pos_of_ne_zero positive, ?_⟩
    rw [← built]
    split
    · rfl
    · rfl

/-! ### Runs -/

inductive Request where
  | generate (name : String) (properties : List Property)
  | release (name : String)
  | keep (name : String) (row : ShapeValue)
  | free (name : String)
  | reset
  | purge
  /-- Not a call: the entries of a cache come to stand in another order. -/
  | reorder (order : VisitOrder)

def Bench.serve (bench : Bench) : Request → Option Shape × Bench
  | .generate name properties =>
    let (outcome, after) := bench.generate name properties
    (outcome.toOption, after)
  | .release name => (none, (bench.release name).2)
  | .keep name row => (none, bench.keep name row)
  | .free name => (none, (bench.free name).2)
  | .reset => (none, bench.reset)
  | .purge => (none, bench.purge.2)
  | .reorder order => (none, bench.reorder order)

structure Shift where
  bench : Bench
  made : List Shape

namespace Shift

def start (forge : Forge) : Shift :=
  ⟨.ofForge forge, []⟩

/-- Serves a request. A shape that was handed out before was not fabricated now. -/
def serve (shift : Shift) (request : Request) : Shift :=
  match shift.bench.serve request with
  | (none, bench) => ⟨bench, shift.made⟩
  | (some shape, bench) =>
    ⟨bench, if shape.id ∈ shift.made.map (·.id) then shift.made else shift.made ++ [shape]⟩

def run (shift : Shift) (requests : List Request) : Shift :=
  requests.foldl serve shift

/-- A call that is refused leaves on the bench what was there, but for the forge. -/
theorem serve_refused {shift : Shift} {properties : List Property} {fault : Error} {forge : Forge}
    (generated : shift.bench.forge.generate shift.bench.held properties = (.error fault, forge))
    (name : String) :
    shift.serve (.generate name properties) = ⟨{ shift.bench with forge }, shift.made⟩ := by
  rw [serve, Bench.serve, Bench.generate, generated]
  rfl

theorem serve_accepted {shift : Shift} {properties : List Property} {shape : Shape} {forge : Forge}
    (generated : shift.bench.forge.generate shift.bench.held properties = (.ok shape, forge))
    (name : String) :
    (shift.serve (.generate name properties)).bench.forge = forge ∧
      (shift.serve (.generate name properties)).made =
        if shape.id ∈ shift.made.map (·.id) then shift.made else shift.made ++ [shape] := by
  rw [serve, Bench.serve, Bench.generate, generated]
  exact ⟨rfl, rfl⟩

/-- The forge on the bench is one around the foundry of the ledger, and the cache has only shapes
that are in the ledger. -/
def Shows (threshold : Nat) (cached : Bool) (shift : Shift) (ledger : Ledger) : Prop :=
  ∃ cache, shift.bench.forge = ledger.forge threshold cache ∧ cache.isSome = cached ∧
    shift.made = ledger.made ∧ ∀ entry ∈ cache.getD [], entry.shape ∈ ledger.made

namespace Shows

variable {threshold : Nat} {cached : Bool} {shift : Shift} {ledger : Ledger}

theorem foundry_eq (shows : shift.Shows threshold cached ledger) :
    shift.bench.forge.foundry = ledger.foundry := by
  obtain ⟨cache, built, _⟩ := shows
  rw [built, Ledger.foundry_forge]

theorem rotation_eq (shows : shift.Shows threshold cached ledger) :
    shift.bench.forge.rotation? = some (ledger.count, threshold) := by
  obtain ⟨cache, built, _⟩ := shows
  rw [built, Ledger.rotation_forge]

theorem made_eq (shows : shift.Shows threshold cached ledger) : shift.made = ledger.made := by
  obtain ⟨_, _, _, made, _⟩ := shows
  exact made

/-- A request that hands out nothing and leaves the forge as it was. -/
theorem idle (shows : shift.Shows threshold cached ledger) {bench : Bench}
    (same : bench.forge = shift.bench.forge) :
    Shows threshold cached ⟨bench, shift.made⟩ ledger := by
  obtain ⟨cache, built, rest⟩ := shows
  exact ⟨cache, same.trans built, rest⟩

theorem reset (shows : shift.Shows threshold cached ledger) :
    Shows threshold cached ⟨shift.bench.reset, shift.made⟩ ledger.reset := by
  obtain ⟨cache, built, layered, made, _⟩ := shows
  refine ⟨cache.map fun _ => [], ?_, ?_, made, ?_⟩
  · change shift.bench.forge.reset = _
    rw [built, Ledger.reset_forge]
  · rw [Option.isSome_map, layered]
  · cases cache <;> simp

theorem purge (shows : shift.Shows threshold cached ledger) :
    Shows threshold cached ⟨shift.bench.purge.2, shift.made⟩ ledger := by
  obtain ⟨cache, built, layered, made, listed⟩ := shows
  rw [Bench.purge, built]
  cases cache with
  | none => exact ⟨none, rfl, layered, made, listed⟩
  | some entries =>
      refine ⟨some _, rfl, layered, made, ?_⟩
      intro entry member
      exact listed entry (CacheEntry.mem_of_mem_sweep member)

theorem reorder (shows : shift.Shows threshold cached ledger) (order : VisitOrder) :
    Shows threshold cached ⟨shift.bench.reorder order, shift.made⟩ ledger := by
  obtain ⟨cache, built, layered, made, listed⟩ := shows
  rw [Bench.reorder, built]
  cases cache with
  | none => exact ⟨none, rfl, layered, made, listed⟩
  | some entries =>
      refine ⟨some (order.arrange entries), rfl, layered, made, ?_⟩
      intro entry member
      exact listed entry ((order.perm entries).mem_iff.mp member)

theorem refused (shows : shift.Shows threshold cached ledger) {properties : List Property}
    {fault : Error} (refused : propertyFault? [] properties = some fault) (name : String) :
    (shift.serve (.generate name properties)).Shows threshold cached
      (if cached then ledger else ledger.ready threshold) := by
  obtain ⟨cache, built, rfl, made, listed⟩ := shows
  have generated := Ledger.forge_refused refused threshold ledger cache shift.bench.held
  rw [← built] at generated
  have kept : (if cache.isSome then ledger else ledger.ready threshold).made = ledger.made := by
    split
    · rfl
    · exact ledger.ready_made threshold
  rw [serve_refused generated name]
  refine ⟨cache, rfl, rfl, ?_, ?_⟩
  · rw [kept]
    exact made
  · rw [kept]
    exact listed

theorem accepted (shows : shift.Shows threshold cached ledger)
    (balanced : ledger.Balanced threshold) {properties : List Property}
    (accepted : propertyFault? [] properties = none) (name : String) :
    (shift.serve (.generate name properties)).Shows threshold cached ledger ∨
      (shift.serve (.generate name properties)).Shows threshold cached
        ((ledger.ready threshold).fabricate properties) := by
  obtain ⟨cache, built, layered, made, listed⟩ := shows
  rcases Ledger.forge_accepted accepted threshold ledger cache shift.bench.held with
    ⟨entry, member, generated⟩ | ⟨changed, sameLayers, renewed, generated⟩
  · left
    rw [← built] at generated
    obtain ⟨forgeEq, madeEq⟩ := serve_accepted generated name
    have known : entry.shape.id ∈ ledger.made.map (·.id) := List.mem_map_of_mem (listed entry member)
    rw [made, if_pos known] at madeEq
    exact ⟨cache, forgeEq.trans built, layered, madeEq, listed⟩
  · right
    rw [← built] at generated
    obtain ⟨forgeEq, madeEq⟩ := serve_accepted generated name
    have fresh : ((ledger.ready threshold).foundry.fabricate properties).1.id ∉
        ledger.made.map (·.id) := by
      change (ledger.ready threshold).foundry.issued ∉ _
      rw [balanced.numbered, Ledger.ready_issued]
      simp
    rw [made, if_neg fresh, ← ledger.ready_made threshold] at madeEq
    refine ⟨changed, forgeEq, sameLayers.trans layered, madeEq, ?_⟩
    intro entry member
    rcases renewed entry member with old | new
    · refine List.mem_append_left _ ?_
      rw [ledger.ready_made threshold]
      exact listed entry old
    · rw [new]
      exact List.mem_append_right _ List.mem_cons_self

/-- A request comes down to resets and fabrications. A reset that is not due was asked for. -/
theorem serve (shows : shift.Shows threshold cached ledger) (balanced : ledger.Balanced threshold)
    (positive : 0 < threshold) (request : Request) :
    ∃ after, (shift.serve request).Shows threshold cached after ∧
      ledger.Steps threshold (request = .reset) after := by
  cases request with
  | generate name properties =>
      cases checked : propertyFault? [] properties with
      | some fault =>
          refine ⟨_, shows.refused checked name, ?_⟩
          split
          · exact .refl
          · exact ledger.steps_ready threshold _
      | none =>
          rcases shows.accepted balanced checked name with hit | miss
          · exact ⟨ledger, hit, .refl⟩
          · refine ⟨_, miss, (ledger.steps_ready threshold _).tail (.fabricate properties ?_)⟩
            exact ledger.ready_count_lt positive
  | release name => exact ⟨ledger, shows.idle rfl, .refl⟩
  | keep name row => exact ⟨ledger, shows.idle rfl, .refl⟩
  | free name => exact ⟨ledger, shows.idle rfl, .refl⟩
  | reset => exact ⟨ledger.reset, shows.reset, .single (.reset (.inl rfl))⟩
  | purge => exact ⟨ledger, shows.purge, .refl⟩
  | reorder order => exact ⟨ledger, shows.reorder order, .refl⟩

theorem run (shows : shift.Shows threshold cached ledger) (balanced : ledger.Balanced threshold)
    (positive : 0 < threshold) (requests : List Request) :
    ∃ after, (shift.run requests).Shows threshold cached after ∧
      ledger.Steps threshold (.reset ∈ requests) after := by
  induction requests generalizing shift ledger with
  | nil => exact ⟨ledger, shows, .refl⟩
  | cons request requests ih =>
      obtain ⟨between, shown, first⟩ := shows.serve balanced positive request
      obtain ⟨after, reached, rest⟩ := ih shown (balanced.steps first)
      refine ⟨after, reached, .trans (first.weaken ?_) (rest.weaken ?_)⟩
      · intro asked
        rw [asked]
        exact List.mem_cons_self
      · exact List.mem_cons_of_mem _

end Shows

theorem start_shows {settings : ShapeSettings} {forge : Forge}
    (built : Forge.ofSettings settings = .ok forge) :
    (start forge).Shows settings.resetThreshold settings.caching
      (.new settings.typePrefix) := by
  obtain ⟨_, rfl⟩ := Forge.ofSettings_eq_ok built
  refine ⟨_, rfl, ?_, rfl, ?_⟩
  · cases settings.caching <;> rfl
  · cases settings.caching <;> simp

structure InBounds (threshold : Nat) (shift : Shift) : Prop where
  counted : shift.bench.forge.rotation? =
    some (shift.bench.forge.foundry.current.shapes.length, threshold)
  inStep : shift.bench.forge.epoch = shift.bench.forge.foundry.current.generation
  bounded : ∀ space ∈ shift.bench.forge.foundry.spaces, space.shapes.length ≤ threshold
  apart : (shift.bench.forge.foundry.spaces.map (·.generation)).Nodup
  registered : ∀ shape ∈ shift.made,
    (shift.bench.forge.foundry.spaces.flatMap (·.shapes)).count shape.id = 1 ∧
      ∃ space ∈ shift.bench.forge.foundry.spaces, space.generation = shape.generation ∧
        shape.id ∈ space.shapes
  made : ∀ space ∈ shift.bench.forge.foundry.spaces, ∀ id ∈ space.shapes,
    ∃ shape ∈ shift.made, shape.id = id ∧ shape.generation = space.generation

theorem Shows.inBounds {threshold : Nat} {cached : Bool} {shift : Shift} {ledger : Ledger}
    (shows : shift.Shows threshold cached ledger) (balanced : ledger.Balanced threshold) :
    shift.InBounds threshold := by
  have foundry := shows.foundry_eq
  constructor
  · rw [shows.rotation_eq, foundry, balanced.counted]
  · rw [Forge.epoch, foundry]
    exact balanced.inStep.symm
  · rw [foundry]
    exact balanced.bounded
  · rw [foundry]
    refine List.pairwise_map.mpr (balanced.newestFirst.imp ?_)
    intro newer older later
    exact Nat.ne_of_gt later
  · rw [foundry, shows.made_eq]
    intro shape made
    exact balanced.registered made
  · rw [foundry, shows.made_eq]
    exact balanced.referring

/-- After any requests the bench is in bounds. If no reset was asked for, the shape that was
fabricated after `place` others is of generation `place / threshold`. -/
theorem rotation_bound {settings : ShapeSettings} {forge : Forge}
    (built : Forge.ofSettings settings = .ok forge) (requests : List Request) :
    ((start forge).run requests).InBounds settings.resetThreshold ∧
    (.reset ∉ requests → ∀ place shape, ((start forge).run requests).made[place]? = some shape →
      shape.generation = place / settings.resetThreshold) := by
  have positive := (Forge.ofSettings_eq_ok built).1
  have balanced := Ledger.Balanced.new settings.resetThreshold settings.typePrefix
  obtain ⟨ledger, shows, steps⟩ := (start_shows built).run balanced positive requests
  constructor
  · exact shows.inBounds (balanced.steps steps)
  · intro noReset
    have packed := Ledger.Packed.new settings.resetThreshold settings.typePrefix
    have filled := packed.steps balanced (steps.weaken noReset)
    rw [shows.made_eq]
    exact filled.generation

end Shift

/-! Two shapes fill a namespace. The first of them comes back from the cache, a call is refused, and
the third shape begins the next namespace. -/

namespace Sketch

open Shift (start)

def settings : ShapeSettings :=
  ⟨2, "Row", "Space", true⟩

def forge : Forge :=
  .caching [] (.rotating 2 0 (.bare settings))

def blank : List Property :=
  [⟨" ", .bool⟩]

def requests : List Request :=
  [.generate "point" Drawing.point, .generate "size" [⟨"w", .i32⟩],
    .generate "again" Drawing.point.reverse, .generate "none" blank, .release "size",
    .generate "label" [⟨"t", .string⟩], .purge]

def labelShape : Shape :=
  ⟨2, "Row#2", 1, [⟨"t", .string⟩]⟩

theorem label_made : ((start forge).run requests).made[2]? = some labelShape := by
  cbv

end Sketch

theorem Shift.rotation_bound_label :
    Forge.ofSettings Sketch.settings = .ok Sketch.forge ∧ .reset ∉ Sketch.requests ∧
      ((start Sketch.forge).run Sketch.requests).InBounds 2 ∧
      ((start Sketch.forge).run Sketch.requests).made[2]? = some Sketch.labelShape ∧
      Sketch.labelShape.generation = 2 / 2 := by
  have built : Forge.ofSettings Sketch.settings = .ok Sketch.forge := rfl
  have noReset : .reset ∉ Sketch.requests := by simp [Sketch.requests]
  obtain ⟨inBounds, generation⟩ := rotation_bound built Sketch.requests
  exact ⟨built, noReset, inBounds, Sketch.label_made,
    generation noReset 2 Sketch.labelShape Sketch.label_made⟩

/-! ### Calls that are refused -/

namespace Shift

theorem Shows.refused_bench {threshold : Nat} {cached : Bool} {shift : Shift} {ledger : Ledger}
    (shows : shift.Shows threshold cached ledger) {name : String} {properties : List Property}
    {fault : Error} {after : Bench}
    (refused : shift.bench.generate name properties = (.error fault, after)) :
    propertyFault? [] properties = some fault ∧
      after = if cached = true ∨ ledger.count < threshold then shift.bench else shift.bench.reset := by
  obtain ⟨cache, built, rfl, _, _⟩ := shows
  cases checked : propertyFault? [] properties with
  | none =>
      rcases Ledger.forge_accepted checked threshold ledger cache shift.bench.held with
        ⟨entry, _, generated⟩ | ⟨changed, _, _, generated⟩
      · rw [Bench.generate, built, generated] at refused
        simp at refused
      · rw [Bench.generate, built, generated] at refused
        simp at refused
  | some found =>
      have generated := Ledger.forge_refused checked threshold ledger cache shift.bench.held
      rw [← built] at generated
      rw [Bench.generate, generated] at refused
      obtain ⟨sameFault, sameBench⟩ := Prod.mk.inj refused
      refine ⟨congrArg some (Except.error.inj sameFault), ?_⟩
      rw [← sameBench]
      cases cache with
      | some entries =>
          simp only [Option.isSome_some, if_true, true_or]
          rw [← built]
      | none =>
          by_cases room : ledger.count < threshold
          · have ready : ledger.ready threshold = ledger := if_neg (by omega)
            simp only [Option.isSome_none, Bool.false_eq_true, if_false, false_or, room, if_true,
              ready]
            rw [← built]
          · have ready : ledger.ready threshold = ledger.reset := if_pos (by omega)
            simp only [Option.isSome_none, Bool.false_eq_true, if_false, false_or, room, ready]
            rw [Bench.reset, built, Ledger.reset_forge]
            rfl

theorem reset_ne (bench : Bench) : bench.reset ≠ bench := by
  intro same
  have epochs : bench.forge.reset.epoch = bench.forge.epoch := congrArg (·.forge.epoch) same
  rw [Forge.epoch_reset] at epochs
  omega

/-- A call that is refused leaves everything as it was exactly if there is a cache or the namespace in
use has room. Otherwise it is a reset. -/
theorem refused_keeps_bench_iff {settings : ShapeSettings} {forge : Forge}
    (built : Forge.ofSettings settings = .ok forge) (requests : List Request) {name : String}
    {properties : List Property} {fault : Error} {after : Bench}
    (refused : ((start forge).run requests).bench.generate name properties = (.error fault, after)) :
    propertyFault? [] properties = some fault ∧
    (after = ((start forge).run requests).bench ↔
      settings.caching = true ∨
        ((start forge).run requests).bench.forge.foundry.current.shapes.length <
          settings.resetThreshold) ∧
    (after = ((start forge).run requests).bench ∨
      after = ((start forge).run requests).bench.reset) := by
  have positive := (Forge.ofSettings_eq_ok built).1
  have balanced := Ledger.Balanced.new settings.resetThreshold settings.typePrefix
  obtain ⟨ledger, shows, steps⟩ := (start_shows built).run balanced positive requests
  obtain ⟨faulty, outcome⟩ := shows.refused_bench refused
  refine ⟨faulty, ?_, ?_⟩
  · rw [shows.foundry_eq, ← (balanced.steps steps).counted, outcome]
    constructor
    · intro kept
      by_contra exhausted
      rw [if_neg exhausted] at kept
      exact reset_ne _ kept
    · intro kept
      exact if_pos kept
  · rw [outcome]
    split
    · exact .inl rfl
    · exact .inr rfl

end Shift

/-! With a cache, a full namespace stays in use when a blank name is refused. -/

namespace Sketch

open Shift (start)

def full : Bench :=
  ((start forge).run (requests.take 2)).bench

def fault : Error :=
  .invalidProjection "property names must not be blank"

theorem full_refused : full.generate "none" blank = (.error fault, full) := by
  cbv

end Sketch

theorem Shift.refused_keeps_bench_iff_full :
    Forge.ofSettings Sketch.settings = .ok Sketch.forge ∧
      Sketch.full.forge.foundry.current.shapes.length = Sketch.settings.resetThreshold ∧
      ∃ after, Sketch.full.generate "none" Sketch.blank = (.error Sketch.fault, after) ∧
        after = Sketch.full := by
  have built : Forge.ofSettings Sketch.settings = .ok Sketch.forge := rfl
  obtain ⟨_, kept, _⟩ := refused_keeps_bench_iff built (Sketch.requests.take 2) Sketch.full_refused
  exact ⟨built, by cbv, _, Sketch.full_refused, kept.mpr (.inl rfl)⟩

/-! Without a cache, the same call begins a new namespace. -/

namespace Sketch

def bareSettings : ShapeSettings :=
  ⟨1, "Row", "Space", false⟩

def bareForge : Forge :=
  .rotating 1 0 (.bare bareSettings)

def crowded : Bench :=
  ⟨.rotating 1 1 (.plain ⟨"Row", ⟨0, [0]⟩, [], 0, 1⟩), [("point", Drawing.pointShape)], []⟩

def renewed : Bench :=
  ⟨.rotating 1 0 (.plain ⟨"Row", ⟨1, []⟩, [⟨0, [0]⟩], 1, 1⟩), [("point", Drawing.pointShape)], []⟩

end Sketch

theorem Shift.refused_call_resets :
    Forge.ofSettings Sketch.bareSettings = .ok Sketch.bareForge ∧
      ((start Sketch.bareForge).run [.generate "point" Drawing.point]).bench = Sketch.crowded ∧
      Sketch.crowded.generate "none" Sketch.blank = (.error Sketch.fault, Sketch.renewed) ∧
      Sketch.renewed.forge.epoch ≠ Sketch.crowded.forge.epoch ∧
      Sketch.renewed.forge.rotation? ≠ Sketch.crowded.forge.rotation? := by
  refine ⟨rfl, by cbv, by cbv, ?_, ?_⟩
  · decide
  · decide

end RowQuery
