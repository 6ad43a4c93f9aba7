import RowQuery.Proofs.Shape.Fabrication
import RowQuery.Shape.Bench

/-!
The identity of shapes over whole runs. A cache hands out the shape that it handed out before for the
same properties, as long as that shape is alive and no reset came between.
-/

namespace RowQuery

namespace Forge

def entries : Forge → List CacheEntry
  | plain _ => []
  | rotating _ _ inner => entries inner
  | caching outer inner => outer ++ entries inner

theorem Uncached.entries {forge : Forge} (uncached : forge.Uncached) : forge.entries = [] := by
  induction forge with
  | plain foundry => rfl
  | rotating threshold count inner ih => exact ih uncached
  | caching outer inner ih => exact uncached.elim

theorem mem_entries_purge {held : List Ty} {forge : Forge} {entry : CacheEntry}
    (inside : entry ∈ (forge.purge held).2.entries) : entry ∈ forge.entries := by
  induction forge with
  | plain foundry => exact inside
  | rotating threshold count inner ih => exact ih inside
  | caching outer inner _ =>
      rcases List.mem_append.mp inside with kept | deeper
      · exact List.mem_append_left _ (CacheEntry.mem_of_mem_sweep kept)
      · exact List.mem_append_right _ deeper

theorem Uncached.reorder {forge : Forge} (uncached : forge.Uncached) (order : VisitOrder) :
    forge.reorder order = forge := by
  induction forge with
  | plain foundry => rfl
  | rotating threshold count inner ih => rw [Forge.reorder, ih uncached]
  | caching entries inner ih => exact uncached.elim

theorem mem_entries_reorder {order : VisitOrder} {forge : Forge} {entry : CacheEntry} :
    entry ∈ (forge.reorder order).entries ↔ entry ∈ forge.entries := by
  induction forge with
  | plain foundry => exact Iff.rfl
  | rotating threshold count inner ih => exact ih
  | caching outer inner ih =>
      rw [Forge.reorder, Forge.entries, Forge.entries, List.mem_append, List.mem_append, ih,
        (order.perm outer).mem_iff]

end Forge

structure Handout where
  shape : Shape
  epoch : Nat

/-- The same properties are asked for again while the shape is alive and there was no reset. -/
def Handout.Reusable (earlier : Handout) (alive : List Nat) (epoch : Nat)
    (properties : List Property) : Prop :=
  SameProperties earlier.shape.properties properties ∧ earlier.shape.id ∈ alive ∧
    earlier.epoch = epoch

/-- Of the shapes that were handed out, the types mention only such that are alive. Nothing else can
be mentioned: a type keeps the shapes inside it alive. -/
def MentionsAlive (alive : List Nat) (given : List Handout) (types : List Ty) : Prop :=
  ∀ earlier ∈ given, ∀ ty ∈ types, earlier.shape.id ∈ ty.shapes → earlier.shape.id ∈ alive

theorem MentionsAlive.alive_of_asked {held types : List Ty} {entries : List CacheEntry}
    {given : List Handout} (mentions : MentionsAlive (CacheEntry.live held entries) given types)
    {earlier : Handout} (member : earlier ∈ given)
    (asked : earlier.shape.id ∈ CacheEntry.live (held ++ types) entries) :
    earlier.shape.id ∈ CacheEntry.live held entries := by
  rcases CacheEntry.mem_live.mp asked with ⟨ty, inTypes, mentioned⟩ | inKeys
  · rcases List.mem_append.mp inTypes with inHeld | inAsked
    · exact CacheEntry.mem_live.mpr (.inl ⟨ty, inHeld, mentioned⟩)
    · exact mentions earlier member ty inAsked mentioned
  · exact CacheEntry.mem_live.mpr (.inr inKeys)

namespace Forge

/-- Everything that was handed out is accounted for: a shape that is alive and of this epoch has its
entry, and there is one entry for one set of properties. -/
structure Accounts (alive : List Nat) (given : List Handout) (entries : List CacheEntry)
    (inner : Forge) : Prop where
  uncached : inner.Uncached
  inStep : inner.InStep
  numbered : ∀ earlier ∈ given, earlier.shape.id < inner.foundry.issued
  generation : ∀ earlier ∈ given, earlier.shape.generation = earlier.epoch
  past : ∀ earlier ∈ given, earlier.epoch ≤ inner.epoch
  accepted : ∀ earlier ∈ given, propertyFault? [] earlier.shape.properties = none
  identified : ∀ first ∈ given, ∀ second ∈ given, first.shape.id = second.shape.id →
    first.shape = second.shape
  keyed : ∀ entry ∈ entries, entry.key = cacheKey entry.shape.properties
  listed : ∀ entry ∈ entries, ⟨entry.shape, entry.epoch⟩ ∈ given
  single : ∀ first ∈ entries, ∀ second ∈ entries,
    SameProperties first.shape.properties second.shape.properties → first.shape = second.shape
  covered : ∀ earlier ∈ given, earlier.shape.id ∈ alive → earlier.epoch = inner.epoch →
    ∃ entry ∈ entries, entry.shape = earlier.shape

namespace Accounts

variable {alive : List Nat} {given : List Handout} {entries : List CacheEntry} {inner : Forge}

theorem isFor_iff (accounts : Accounts alive given entries inner) {entry : CacheEntry}
    (member : entry ∈ entries) {properties : List Property}
    (accepted : propertyFault? [] properties = none) :
    entry.isFor (cacheKey properties) = true ↔
      SameProperties entry.shape.properties properties :=
  CacheEntry.isFor_cacheKey (accounts.keyed entry member)
    (accounts.accepted _ (accounts.listed entry member)) accepted

theorem entry_of_alive (accounts : Accounts alive given entries inner) {earlier : Handout}
    (member : earlier ∈ given) (living : earlier.shape.id ∈ alive)
    (now : earlier.epoch = inner.epoch) :
    ∃ entry ∈ entries, entry.shape = earlier.shape ∧ entry.epoch = inner.epoch := by
  obtain ⟨entry, inside, same⟩ := accounts.covered earlier member living now
  refine ⟨entry, inside, same, ?_⟩
  rw [← now, ← accounts.generation earlier member, ← same]
  exact (accounts.generation _ (accounts.listed entry inside)).symm

/-- For one set of properties there is one shape that is alive and of this epoch. -/
theorem single_reusable (accounts : Accounts alive given entries inner) {first second : Handout}
    {properties : List Property} (inFirst : first ∈ given) (inSecond : second ∈ given)
    (firstReusable : first.Reusable alive inner.epoch properties)
    (secondReusable : second.Reusable alive inner.epoch properties) :
    first.shape = second.shape := by
  obtain ⟨firstAsked, firstLiving, firstNow⟩ := firstReusable
  obtain ⟨secondAsked, secondLiving, secondNow⟩ := secondReusable
  obtain ⟨entry, inside, same, _⟩ := accounts.entry_of_alive inFirst firstLiving firstNow
  obtain ⟨other, otherInside, otherSame, _⟩ :=
    accounts.entry_of_alive inSecond secondLiving secondNow
  rw [← same, ← otherSame]
  rw [← same] at firstAsked
  rw [← otherSame] at secondAsked
  exact accounts.single entry inside other otherInside (firstAsked.trans secondAsked.symm)

/-- Letting go keeps the accounts. -/
theorem mono (accounts : Accounts alive given entries inner) {fewer : List Nat}
    (released : ∀ earlier ∈ given, earlier.shape.id ∈ fewer → earlier.shape.id ∈ alive) :
    Accounts fewer given entries inner :=
  { accounts with
    covered := fun earlier member living =>
      accounts.covered earlier member (released earlier member living) }

theorem reset (accounts : Accounts alive given entries inner) (living : List Nat) :
    Accounts living given [] inner.reset where
  uncached := accounts.uncached.reset
  inStep := accounts.inStep.reset
  numbered := by
    rw [foundry_reset]
    exact accounts.numbered
  generation := accounts.generation
  past := by
    intro earlier member
    have before := accounts.past earlier member
    rw [epoch_reset]
    omega
  accepted := accounts.accepted
  identified := accounts.identified
  keyed := by simp
  listed := by simp
  single := by simp
  covered := by
    intro earlier member _ now
    have before := accounts.past earlier member
    rw [epoch_reset] at now
    omega

theorem purge {held : List Ty}
    (accounts : Accounts (CacheEntry.live held entries) given entries inner) :
    Accounts (CacheEntry.live held (CacheEntry.sweep held inner.epoch [] entries)) given
      (CacheEntry.sweep held inner.epoch [] entries) inner :=
  { accounts with
    keyed := fun entry left => accounts.keyed entry (CacheEntry.mem_of_mem_sweep left)
    listed := fun entry left => accounts.listed entry (CacheEntry.mem_of_mem_sweep left)
    single := fun first inFirst second inSecond =>
      accounts.single first (CacheEntry.mem_of_mem_sweep inFirst) second
        (CacheEntry.mem_of_mem_sweep inSecond)
    covered := by
      intro earlier member living now
      have before : earlier.shape.id ∈ CacheEntry.live held entries :=
        CacheEntry.live_mono (List.Subset.refl _) (fun _ => CacheEntry.mem_of_mem_sweep) living
      obtain ⟨entry, inside, same, current⟩ := accounts.entry_of_alive member before now
      exact ⟨entry, CacheEntry.mem_sweep_of_live inside current (same ▸ living), same⟩ }

theorem reorder (accounts : Accounts alive given entries inner) {arranged : List CacheEntry}
    (perm : arranged.Perm entries) : Accounts alive given arranged inner :=
  { accounts with
    keyed := fun entry member => accounts.keyed entry (perm.mem_iff.mp member)
    listed := fun entry member => accounts.listed entry (perm.mem_iff.mp member)
    single := fun first inFirst second inSecond =>
      accounts.single first (perm.mem_iff.mp inFirst) second (perm.mem_iff.mp inSecond)
    covered := by
      intro earlier member living now
      obtain ⟨entry, inside, same⟩ := accounts.covered earlier member living now
      exact ⟨entry, perm.mem_iff.mpr inside, same⟩ }

theorem again (accounts : Accounts alive given entries inner) {earlier : Handout}
    (member : earlier ∈ given) : Accounts alive (earlier :: given) entries inner := by
  have inside : ∀ other ∈ earlier :: given, other ∈ given := by
    intro other known
    rcases List.mem_cons.mp known with rfl | later
    · exact member
    · exact later
  exact { accounts with
    numbered := fun other known => accounts.numbered other (inside other known)
    generation := fun other known => accounts.generation other (inside other known)
    past := fun other known => accounts.past other (inside other known)
    accepted := fun other known => accounts.accepted other (inside other known)
    identified := fun first inFirst second inSecond =>
      accounts.identified first (inside first inFirst) second (inside second inSecond)
    listed := fun entry known => List.mem_cons_of_mem _ (accounts.listed entry known)
    covered := fun other known => accounts.covered other (inside other known) }

section Generate

variable {held left : List Ty} {properties : List Property} {shape : Shape} {after : Forge}

theorem listed_of_hits (accounts : Accounts alive given entries inner)
    (hits : Hits held properties entries inner shape after) : ⟨shape, inner.epoch⟩ ∈ given := by
  obtain ⟨entry, member, _, current, rfl, rfl⟩ := hits
  obtain ⟨now, _⟩ := CacheEntry.isCurrent_eq_true.mp current
  exact now ▸ accounts.listed entry member

/-- What is alive after a shape was handed out again was alive before. -/
theorem alive_of_hits (accounts : Accounts (CacheEntry.live held entries) given entries inner)
    (mentions : MentionsAlive (CacheEntry.live held entries) given (properties.map (·.ty)))
    (hits : Hits held properties entries inner shape after) (kept : left ⊆ held) {id : Nat}
    (living : id ∈ CacheEntry.live (.shape shape :: left) entries) :
    id ∈ CacheEntry.live held entries := by
  have listed := accounts.listed_of_hits hits
  obtain ⟨entry, member, _, current, rfl, rfl⟩ := hits
  obtain ⟨_, asked⟩ := CacheEntry.isCurrent_eq_true.mp current
  rcases CacheEntry.mem_live.mp living with ⟨ty, inHeld, mentioned⟩ | inKeys
  · rcases List.mem_cons.mp inHeld with rfl | before
    · rcases Ty.mem_shapes_shape.mp mentioned with same | inner
      · exact same ▸ mentions.alive_of_asked listed asked
      · refine CacheEntry.mem_live.mpr (.inr ⟨entry, member, ?_⟩)
        rw [accounts.keyed entry member]
        exact (mem_propertyShapes_cacheKey (accounts.accepted _ listed)).mpr inner
    · exact CacheEntry.mem_live.mpr (.inl ⟨ty, kept before, mentioned⟩)
  · exact CacheEntry.mem_live.mpr (.inr inKeys)

theorem hit (accounts : Accounts (CacheEntry.live held entries) given entries inner)
    (mentions : MentionsAlive (CacheEntry.live held entries) given (properties.map (·.ty)))
    (hits : Hits held properties entries inner shape after) (kept : left ⊆ held) :
    Accounts (CacheEntry.live (.shape shape :: left) entries) (⟨shape, inner.epoch⟩ :: given) entries
      inner := by
  refine (accounts.mono ?_).again (accounts.listed_of_hits hits)
  intro earlier _ living
  exact accounts.alive_of_hits mentions hits kept living

/-- What is alive after a new shape was made: the shape itself, and nothing that was not alive
before. -/
theorem alive_of_fresh
    (mentions : MentionsAlive (CacheEntry.live held entries) given (properties.map (·.ty)))
    (made : shape.properties = properties) {earlier : Handout} (member : earlier ∈ given)
    (older : earlier.shape.id ≠ shape.id) {others : List CacheEntry} (fewer : others ⊆ entries)
    (living : earlier.shape.id ∈
      CacheEntry.live (.shape shape :: (held ++ properties.map (·.ty))) others) :
    earlier.shape.id ∈ CacheEntry.live held entries := by
  rcases CacheEntry.mem_live.mp living with ⟨ty, inTypes, mentioned⟩ | ⟨entry, inside, inKey⟩
  · rcases List.mem_cons.mp inTypes with rfl | asked
    · have inProperties := (Ty.mem_shapes_shape.mp mentioned).resolve_left older
      rw [made] at inProperties
      obtain ⟨property, inside, inType⟩ := mem_propertyShapes.mp inProperties
      exact mentions earlier member property.ty (List.mem_map_of_mem inside) inType
    · exact mentions.alive_of_asked member (CacheEntry.mem_live.mpr (.inl ⟨ty, asked, mentioned⟩))
  · exact CacheEntry.mem_live.mpr (.inr ⟨entry, fewer inside, inKey⟩)

theorem live_renewed {epoch newer id : Nat} (accepted : propertyFault? [] properties = none)
    (kept : left ⊆ held)
    (living : id ∈ CacheEntry.live (.shape shape :: left)
      (surviving held properties entries shape epoch ++
        [⟨cacheKey properties, shape, newer⟩])) :
    id ∈ CacheEntry.live (.shape shape :: (held ++ properties.map (·.ty)))
      (surviving held properties entries shape epoch) := by
  rcases CacheEntry.mem_live.mp living with ⟨ty, inTypes, mentioned⟩ | ⟨entry, inside, inKey⟩
  · refine CacheEntry.mem_live.mpr (.inl ⟨ty, ?_, mentioned⟩)
    rcases List.mem_cons.mp inTypes with rfl | before
    · exact List.mem_cons_self
    · exact List.mem_cons_of_mem _ (List.mem_append_left _ (kept before))
  · rcases List.mem_append.mp inside with survivor | added
    · exact CacheEntry.mem_live.mpr (.inr ⟨entry, survivor, inKey⟩)
    · rw [List.mem_singleton.mp added, mem_propertyShapes_cacheKey accepted,
        mem_propertyShapes] at inKey
      obtain ⟨property, inProperties, inType⟩ := inKey
      refine CacheEntry.mem_live.mpr (.inl ⟨property.ty, ?_, inType⟩)
      exact List.mem_cons_of_mem _ (List.mem_append_right _ (List.mem_map_of_mem inProperties))

theorem reusable_of_hits (accounts : Accounts (CacheEntry.live held entries) given entries inner)
    (mentions : MentionsAlive (CacheEntry.live held entries) given (properties.map (·.ty)))
    (accepted : propertyFault? [] properties = none)
    (hits : Hits held properties entries inner shape after) :
    ∃ earlier ∈ given, earlier.shape = shape ∧
      earlier.Reusable (CacheEntry.live held entries) inner.epoch properties := by
  obtain ⟨entry, member, asked, current, rfl, rfl⟩ := hits
  obtain ⟨now, living⟩ := CacheEntry.isCurrent_eq_true.mp current
  have listed := accounts.listed entry member
  exact ⟨_, listed, rfl, (accounts.isFor_iff member accepted).mp asked,
    mentions.alive_of_asked listed living, now⟩

theorem not_reusable_of_misses
    (accounts : Accounts (CacheEntry.live held entries) given entries inner)
    (accepted : propertyFault? [] properties = none)
    (misses : Misses held properties entries inner shape after) {earlier : Handout}
    (member : earlier ∈ given) :
    ¬ earlier.Reusable (CacheEntry.live held entries) inner.epoch properties := by
  rintro ⟨asked, living, now⟩
  obtain ⟨entry, inside, same, current⟩ := accounts.entry_of_alive member living now
  rw [← same] at asked living
  have unusable := misses.1 entry inside ((accounts.isFor_iff inside accepted).mpr asked)
  have usable : entry.isCurrent inner.epoch
      (CacheEntry.live (held ++ properties.map (·.ty)) entries) = true :=
    CacheEntry.isCurrent_eq_true.mpr ⟨current,
      CacheEntry.live_mono (List.subset_append_left _ _) (List.Subset.refl _) living⟩
  exact Bool.noConfusion (usable.symm.trans unusable)

/-- The entry of a shape of this epoch is still there after another shape was made. -/
theorem survives (accounts : Accounts (CacheEntry.live held entries) given entries inner)
    (mentions : MentionsAlive (CacheEntry.live held entries) given (properties.map (·.ty)))
    (accepted : propertyFault? [] properties = none)
    (misses : Misses held properties entries inner shape after)
    {changed : Forge} (made : Fabricates inner properties shape changed)
    {earlier : Handout} (member : earlier ∈ given) (now : earlier.epoch = changed.epoch)
    (living : earlier.shape.id ∈
      CacheEntry.live (.shape shape :: (held ++ properties.map (·.ty)))
        (surviving held properties entries shape changed.epoch)) :
    ∃ entry ∈ surviving held properties entries shape changed.epoch,
      entry.shape = earlier.shape := by
  have older : earlier.shape.id ≠ shape.id := by
    have below := accounts.numbered earlier member
    have above := made.numbered
    omega
  have before : earlier.shape.id ∈ CacheEntry.live held entries :=
    alive_of_fresh mentions made.properties member older (fun _ kept => (mem_of_surviving kept).1)
      living
  -- No reset came with the call, since the shape is of the epoch before and after it.
  have sameEpoch : earlier.epoch = inner.epoch := by
    have past := accounts.past earlier member
    have later := made.later
    omega
  obtain ⟨entry, inside, same, current⟩ := accounts.entry_of_alive member before sameEpoch
  have visited : entry ∈ others properties entries := by
    rw [mem_others, ← Bool.not_eq_true, accounts.isFor_iff inside accepted, same]
    refine ⟨inside, ?_⟩
    intro asked
    exact accounts.not_reusable_of_misses accepted misses member ⟨asked, before, sameEpoch⟩
  refine ⟨entry, CacheEntry.mem_sweep_of_live visited ?_ ?_, same⟩
  · rw [current, ← sameEpoch, now]
  · rw [same]
    exact living

theorem miss (accounts : Accounts (CacheEntry.live held entries) given entries inner)
    (mentions : MentionsAlive (CacheEntry.live held entries) given (properties.map (·.ty)))
    (accepted : propertyFault? [] properties = none)
    (misses : Misses held properties entries inner shape after) (kept : left ⊆ held) :
    ∃ renewed changed, after = caching renewed changed ∧
      Accounts (CacheEntry.live (.shape shape :: left) renewed) (⟨shape, changed.epoch⟩ :: given)
        renewed changed := by
  obtain ⟨changed, made, rfl⟩ := misses.2
  have older : ∀ earlier ∈ given, earlier.shape.id < shape.id := by
    intro earlier member
    rw [made.numbered]
    exact accounts.numbered earlier member
  -- An entry that stayed is not for these properties, so it is not for those of the new shape.
  have apart : ∀ entry ∈ surviving held properties entries shape changed.epoch,
      ¬ SameProperties entry.shape.properties shape.properties := by
    intro entry survivor same
    obtain ⟨inside, notAsked⟩ := mem_of_surviving survivor
    rw [made.properties, ← accounts.isFor_iff inside accepted, notAsked] at same
    exact Bool.noConfusion same
  refine ⟨_, changed, rfl, ?_⟩
  exact {
    uncached := made.uncached
    inStep := made.inStep
    numbered := by
      rw [List.forall_mem_cons, made.issued, ← made.numbered]
      exact ⟨Nat.lt_succ_self _, fun earlier member => Nat.lt_succ_of_lt (older earlier member)⟩
    generation := List.forall_mem_cons.mpr ⟨made.generation, accounts.generation⟩
    past := List.forall_mem_cons.mpr ⟨Nat.le_refl _, fun earlier member =>
      Nat.le_trans (accounts.past earlier member) made.later⟩
    accepted := List.forall_mem_cons.mpr ⟨made.properties ▸ accepted, accounts.accepted⟩
    identified := by
      intro first inFirst second inSecond same
      rcases List.mem_cons.mp inFirst with rfl | knownFirst
      · rcases List.mem_cons.mp inSecond with rfl | knownSecond
        · rfl
        · exact absurd same.symm (Nat.ne_of_lt (older second knownSecond))
      · rcases List.mem_cons.mp inSecond with rfl | knownSecond
        · exact absurd same (Nat.ne_of_lt (older first knownFirst))
        · exact accounts.identified first knownFirst second knownSecond same
    keyed := by
      intro entry inside
      rcases List.mem_append.mp inside with survivor | added
      · exact accounts.keyed entry (mem_of_surviving survivor).1
      · rw [List.mem_singleton.mp added, made.properties]
    listed := by
      intro entry inside
      rcases List.mem_append.mp inside with survivor | added
      · exact List.mem_cons_of_mem _ (accounts.listed entry (mem_of_surviving survivor).1)
      · rw [List.mem_singleton.mp added]
        exact List.mem_cons_self
    single := by
      intro first inFirst second inSecond same
      rcases List.mem_append.mp inFirst with keptFirst | addedFirst
      · rcases List.mem_append.mp inSecond with keptSecond | addedSecond
        · exact accounts.single first (mem_of_surviving keptFirst).1 second
            (mem_of_surviving keptSecond).1 same
        · rw [List.mem_singleton.mp addedSecond] at same
          exact absurd same (apart first keptFirst)
      · rcases List.mem_append.mp inSecond with keptSecond | addedSecond
        · rw [List.mem_singleton.mp addedFirst] at same
          exact absurd same.symm (apart second keptSecond)
        · rw [List.mem_singleton.mp addedFirst, List.mem_singleton.mp addedSecond]
    covered := by
      intro earlier member living now
      rcases List.mem_cons.mp member with rfl | known
      · exact ⟨_, List.mem_append_right _ List.mem_cons_self, rfl⟩
      · obtain ⟨entry, survivor, same⟩ :=
          accounts.survives mentions accepted misses made known now
            (live_renewed accepted kept living)
        exact ⟨entry, List.mem_append_left _ survivor, same⟩ }

theorem generate (accounts : Accounts (CacheEntry.live held entries) given entries inner)
    (mentions : MentionsAlive (CacheEntry.live held entries) given (properties.map (·.ty)))
    (generated : (caching entries inner).generate held properties = (.ok shape, after))
    (kept : left ⊆ held) :
    ∃ renewed changed, after = caching renewed changed ∧
      Accounts (CacheEntry.live (.shape shape :: left) renewed) (⟨shape, changed.epoch⟩ :: given)
        renewed changed := by
  obtain ⟨accepted, hits | misses⟩ := generate_eq_ok accounts.uncached accounts.inStep generated
  · have accounted := accounts.hit mentions hits kept
    obtain ⟨_, _, _, _, _, rfl⟩ := hits
    exact ⟨entries, inner, rfl, accounted⟩
  · exact accounts.miss mentions accepted misses kept

end Generate

end Accounts

end Forge

/-! ### Runs -/

namespace Bench

/-- The shapes that are alive: something held mentions them, or the key of an entry. -/
def alive (bench : Bench) : List Nat :=
  CacheEntry.live bench.held bench.forge.entries

/-- The entries of the caches can come to stand in another order between any two calls. -/
def reorder (bench : Bench) (order : VisitOrder) : Bench :=
  { bench with forge := bench.forge.reorder order }

inductive Run (start : Bench) : Bench → List Handout → Prop
  | start : Run start start []
  | generate {bench after : Bench} {given : List Handout} {name : String}
      {properties : List Property} {shape : Shape} (run : Run start bench given)
      (mentions : MentionsAlive bench.alive given (properties.map (·.ty)))
      (made : bench.generate name properties = (.ok shape, after)) :
      Run start after (⟨shape, after.forge.epoch⟩ :: given)
  | refuse {bench after : Bench} {given : List Handout} {name : String}
      {properties : List Property} {fault : Error} (run : Run start bench given)
      (refused : bench.generate name properties = (.error fault, after)) :
      Run start after given
  | release {bench : Bench} {given : List Handout} (run : Run start bench given) (name : String) :
      Run start (bench.release name).2 given
  | keep {bench : Bench} {given : List Handout} {row : ShapeValue} (run : Run start bench given)
      (name : String) (mentions : MentionsAlive bench.alive given row.toValue.types) :
      Run start (bench.keep name row) given
  | free {bench : Bench} {given : List Handout} (run : Run start bench given) (name : String) :
      Run start (bench.free name).2 given
  | reset {bench : Bench} {given : List Handout} (run : Run start bench given) :
      Run start bench.reset given
  | purge {bench : Bench} {given : List Handout} (run : Run start bench given) :
      Run start bench.purge.2 given
  | reorder {bench : Bench} {given : List Handout} (run : Run start bench given)
      (order : VisitOrder) : Run start (bench.reorder order) given

def Accounts (bench : Bench) (given : List Handout) : Prop :=
  ∃ entries inner, bench.forge = .caching entries inner ∧
    Forge.Accounts bench.alive given entries inner

theorem alive_eq {bench : Bench} {entries : List CacheEntry} {inner : Forge}
    (cached : bench.forge = .caching entries inner) (uncached : inner.Uncached) :
    bench.alive = CacheEntry.live bench.held entries := by
  rw [alive, cached, Forge.entries, uncached.entries, List.append_nil]

theorem held_release (bench : Bench) (name : String) : (bench.release name).2.held ⊆ bench.held := by
  intro ty inside
  rcases List.mem_append.mp inside with named | inRows
  · exact List.mem_append_left _ (List.map_subset _ (List.filter_subset_self _) named)
  · exact List.mem_append_right _ inRows

theorem held_free (bench : Bench) (name : String) : (bench.free name).2.held ⊆ bench.held := by
  intro ty inside
  rcases List.mem_append.mp inside with named | inRows
  · exact List.mem_append_left _ named
  · obtain ⟨row, kept, inRow⟩ := List.mem_flatMap.mp inRows
    exact List.mem_append_right _ (List.mem_flatMap.mpr ⟨row, List.mem_of_mem_filter kept, inRow⟩)

theorem held_keep (bench : Bench) (name : String) (row : ShapeValue) :
    (bench.keep name row).held ⊆ row.toValue.types ++ bench.held := by
  intro ty inside
  rcases List.mem_append.mp inside with named | inRows
  · exact List.mem_append_right _ (List.mem_append_left _ named)
  · rw [Bench.keep, List.flatMap_cons] at inRows
    rcases List.mem_append.mp inRows with inRow | inOthers
    · exact List.mem_append_left _ inRow
    · exact List.mem_append_right _ (held_free bench name (List.mem_append_right _ inOthers))

theorem generate_eq_ok {bench after : Bench} {name : String} {properties : List Property}
    {shape : Shape} (made : bench.generate name properties = (.ok shape, after)) :
    bench.forge.generate bench.held properties = (.ok shape, after.forge) ∧
      ∃ left, left ⊆ bench.held ∧ after.held = .shape shape :: left := by
  rw [Bench.generate] at made
  split at made
  · simp at made
  · rename_i generated
    obtain ⟨rfl, rfl⟩ : _ = shape ∧ _ = after := by simpa using made
    exact ⟨generated, _, held_release bench name, rfl⟩

theorem generate_of_made (bench : Bench) {properties : List Property} {shape : Shape} {forge : Forge}
    (made : bench.forge.generate bench.held properties = (.ok shape, forge)) (name : String) :
    bench.generate name properties =
      (.ok shape, ⟨forge, (name, shape) :: bench.shapes.filter (·.1 != name), bench.instances⟩) := by
  rw [Bench.generate, made]

theorem mentions_of_held {bench : Bench} (given : List Handout) {types : List Ty}
    (fewer : types ⊆ bench.held) : MentionsAlive bench.alive given types := by
  intro earlier _ ty inside mentioned
  exact CacheEntry.mem_live.mpr (.inl ⟨ty, fewer inside, mentioned⟩)

theorem mentions_of_kept {bench : Bench} {given : List Handout} {row : ShapeValue} (name : String)
    (mentions : MentionsAlive bench.alive given row.toValue.types) :
    MentionsAlive bench.alive given (bench.keep name row).held := by
  intro earlier member ty inside
  rcases List.mem_append.mp (held_keep bench name row inside) with inRow | inHeld
  · exact mentions earlier member ty inRow
  · exact mentions_of_held given (List.Subset.refl _) earlier member ty inHeld

theorem alive_of_hold {bench after : Bench} {given : List Handout}
    (same : after.forge = bench.forge) (mentions : MentionsAlive bench.alive given after.held)
    {earlier : Handout} (member : earlier ∈ given) (living : earlier.shape.id ∈ after.alive) :
    earlier.shape.id ∈ bench.alive := by
  rcases CacheEntry.mem_live.mp living with ⟨ty, inHeld, mentioned⟩ | inKeys
  · exact mentions earlier member ty inHeld mentioned
  · rw [same] at inKeys
    exact CacheEntry.mem_live.mpr (.inr inKeys)

theorem alive_of_purge {bench : Bench} {id : Nat} (living : id ∈ bench.purge.2.alive) :
    id ∈ bench.alive := by
  rcases CacheEntry.mem_live.mp living with inHeld | ⟨entry, inside, inKey⟩
  · exact CacheEntry.mem_live.mpr (.inl inHeld)
  · exact CacheEntry.mem_live.mpr (.inr ⟨entry, Forge.mem_entries_purge inside, inKey⟩)

theorem mem_alive_reorder {bench : Bench} {order : VisitOrder} {id : Nat} :
    id ∈ (bench.reorder order).alive ↔ id ∈ bench.alive := by
  simp only [alive, CacheEntry.mem_live, Bench.reorder, Forge.mem_entries_reorder]
  rfl

namespace Accounts

variable {bench : Bench} {given : List Handout}

/-- Holding less, or holding anew what is alive, keeps the accounts. -/
theorem hold (accounts : bench.Accounts given) {after : Bench} (same : after.forge = bench.forge)
    (mentions : MentionsAlive bench.alive given after.held) : after.Accounts given := by
  obtain ⟨entries, inner, cached, accounted⟩ := accounts
  refine ⟨entries, inner, same.trans cached, accounted.mono ?_⟩
  intro earlier member living
  exact alive_of_hold same mentions member living

theorem generate (accounts : bench.Accounts given) {after : Bench} {name : String}
    {properties : List Property} {shape : Shape}
    (mentions : MentionsAlive bench.alive given (properties.map (·.ty)))
    (made : bench.generate name properties = (.ok shape, after)) :
    after.Accounts (⟨shape, after.forge.epoch⟩ :: given) := by
  obtain ⟨entries, inner, cached, accounted⟩ := accounts
  obtain ⟨generated, left, kept, heldAfter⟩ := generate_eq_ok made
  rw [alive_eq cached accounted.uncached] at accounted mentions
  rw [cached] at generated
  obtain ⟨renewed, changed, changedForge, renewedAccounts⟩ :=
    accounted.generate mentions generated kept
  refine ⟨renewed, changed, changedForge, ?_⟩
  rw [alive_eq changedForge renewedAccounts.uncached, heldAfter, changedForge]
  exact renewedAccounts

theorem refuse (accounts : bench.Accounts given) {after : Bench} {name : String}
    {properties : List Property} {fault : Error}
    (refused : bench.generate name properties = (.error fault, after)) : after = bench := by
  obtain ⟨entries, inner, cached, accounted⟩ := accounts
  rw [Bench.generate, cached] at refused
  cases accepted : propertyFault? [] properties with
  | some found =>
      rw [Forge.generate_refused accepted, ← cached] at refused
      exact (Prod.mk.inj refused).2.symm
  | none =>
      obtain ⟨shape, changed, generated, _⟩ := Forge.generate_accepted bench.held entries
        accounted.uncached accounted.inStep accepted
      rw [generated] at refused
      simp at refused

theorem reset (accounts : bench.Accounts given) : bench.reset.Accounts given := by
  obtain ⟨entries, inner, cached, accounted⟩ := accounts
  refine ⟨[], inner.reset, ?_, accounted.reset _⟩
  rw [Bench.reset, cached]
  rfl

theorem purge (accounts : bench.Accounts given) : bench.purge.2.Accounts given := by
  obtain ⟨entries, inner, cached, accounted⟩ := accounts
  rw [alive_eq cached accounted.uncached] at accounted
  have purged : bench.purge.2.forge =
      .caching (CacheEntry.sweep bench.held inner.epoch [] entries) inner := by
    rw [Bench.purge, cached]
    rfl
  refine ⟨_, inner, purged, ?_⟩
  rw [alive_eq purged accounted.uncached]
  exact accounted.purge

theorem reorder (accounts : bench.Accounts given) (order : VisitOrder) :
    (bench.reorder order).Accounts given := by
  obtain ⟨entries, inner, cached, accounted⟩ := accounts
  refine ⟨order.arrange entries, inner, ?_, ?_⟩
  · rw [Bench.reorder, cached]
    exact congrArg (Forge.caching _) (accounted.uncached.reorder order)
  · refine (accounted.reorder (order.perm entries)).mono ?_
    intro earlier _ living
    exact mem_alive_reorder.mp living

end Accounts

theorem accounts_new {typePrefix : String} {inner : Forge} (uncached : inner.Uncached)
    (fresh : inner.foundry = Foundry.new typePrefix) : (ofForge inner.withCache).Accounts [] := by
  refine ⟨[], inner, rfl, ?_⟩
  exact {
    uncached := uncached
    inStep := by
      rw [Forge.InStep, Forge.epoch, fresh]
      rfl
    numbered := by simp
    generation := by simp
    past := by simp
    accepted := by simp
    identified := by simp
    keyed := by simp
    listed := by simp
    single := by simp
    covered := by simp }

theorem Run.accounts {start bench : Bench} {given : List Handout} (run : Run start bench given)
    (fresh : start.Accounts []) : bench.Accounts given := by
  induction run with
  | start => exact fresh
  | generate _ mentions made ih => exact ih.generate mentions made
  | refuse _ refused ih => exact ih.refuse refused ▸ ih
  | release _ name ih => exact ih.hold rfl (mentions_of_held _ (held_release _ name))
  | keep _ name mentions ih => exact ih.hold rfl (mentions_of_kept name mentions)
  | free _ name ih => exact ih.hold rfl (mentions_of_held _ (held_free _ name))
  | reset _ ih => exact ih.reset
  | purge _ ih => exact ih.purge
  | reorder _ order ih => exact ih.reorder order

structure Identity (bench : Bench) (given : List Handout) (properties : List Property)
    (shape : Shape) (after : Bench) : Prop where
  asked : SameProperties shape.properties properties
  generation : shape.generation = after.forge.epoch
  /-- No shape from before a reset comes back. -/
  current : ∀ earlier ∈ given, earlier.epoch ≠ after.forge.epoch → shape.id ≠ earlier.shape.id
  reused : ∀ earlier ∈ given, earlier.Reusable bench.alive bench.forge.epoch properties →
    shape = earlier.shape
  fresh : (∀ earlier ∈ given, ¬ earlier.Reusable bench.alive bench.forge.epoch properties) →
    shape.id = bench.forge.foundry.issued ∧ after.forge.foundry.issued = shape.id + 1 ∧
      ∀ earlier ∈ given, shape.id ≠ earlier.shape.id

theorem Accounts.current {after : Bench} {given : List Handout} {shape : Shape}
    (accounts : after.Accounts (⟨shape, after.forge.epoch⟩ :: given)) :
    shape.generation = after.forge.epoch ∧
      ∀ earlier ∈ given, earlier.epoch ≠ after.forge.epoch → shape.id ≠ earlier.shape.id := by
  obtain ⟨_, _, _, accounted⟩ := accounts
  have generation := accounted.generation _ List.mem_cons_self
  refine ⟨generation, ?_⟩
  intro earlier member older same
  have identified := accounted.identified _ List.mem_cons_self earlier
    (List.mem_cons_of_mem _ member) same
  rw [← accounted.generation earlier (List.mem_cons_of_mem _ member), ← identified] at older
  exact older generation

theorem Accounts.identity {bench after : Bench} {given : List Handout} {name : String}
    {properties : List Property} {shape : Shape} (accounts : bench.Accounts given)
    (mentions : MentionsAlive bench.alive given (properties.map (·.ty)))
    (made : bench.generate name properties = (.ok shape, after)) :
    Identity bench given properties shape after := by
  obtain ⟨generation, current⟩ := (accounts.generate mentions made).current
  obtain ⟨entries, inner, cached, accounted⟩ := accounts
  have generated := (generate_eq_ok made).1
  have sameFoundry : bench.forge.foundry = inner.foundry := by
    rw [cached]
    rfl
  have sameEpoch : bench.forge.epoch = inner.epoch := congrArg Foundry.epoch sameFoundry
  have living := alive_eq cached accounted.uncached
  rw [cached] at generated
  rw [living] at accounted mentions
  obtain ⟨accepted, hits | misses⟩ :=
    Forge.generate_eq_ok accounted.uncached accounted.inStep generated
  · obtain ⟨found, member, rfl, reusable⟩ := accounted.reusable_of_hits mentions accepted hits
    refine ⟨reusable.1, generation, current, ?_, ?_⟩
    · intro earlier known again
      rw [living, sameEpoch] at again
      exact accounted.single_reusable member known reusable again
    · intro noneReusable
      rw [living, sameEpoch] at noneReusable
      exact absurd reusable (noneReusable found member)
  · obtain ⟨changed, fabricated, changedForge⟩ := misses.2
    refine ⟨?_, generation, current, ?_, ?_⟩
    · rw [fabricated.properties]
      exact .refl properties
    · intro earlier known again
      rw [living, sameEpoch] at again
      exact absurd again (accounted.not_reusable_of_misses accepted misses known)
    · intro _
      refine ⟨?_, ?_, ?_⟩
      · rw [sameFoundry, fabricated.numbered]
      · rw [changedForge, fabricated.numbered]
        exact fabricated.issued
      · intro earlier known
        have older := accounted.numbered earlier known
        have newer := fabricated.numbered
        omega

theorem Accounts.accepts {bench : Bench} {given : List Handout} {properties : List Property}
    (accounts : bench.Accounts given) (accepted : propertyFault? [] properties = none)
    (name : String) : ∃ shape after, bench.generate name properties = (.ok shape, after) := by
  obtain ⟨entries, inner, cached, accounted⟩ := accounts
  obtain ⟨shape, changed, generated, _⟩ := Forge.generate_accepted bench.held entries
    accounted.uncached accounted.inStep accepted
  rw [Bench.generate, cached, generated]
  exact ⟨_, _, rfl⟩

theorem Accounts.single {bench : Bench} {given : List Handout} (accounts : bench.Accounts given)
    {first second : Handout} (inFirst : first ∈ given) (inSecond : second ∈ given)
    {properties : List Property}
    (firstReusable : first.Reusable bench.alive bench.forge.epoch properties)
    (secondReusable : second.Reusable bench.alive bench.forge.epoch properties) :
    first.shape = second.shape := by
  obtain ⟨entries, inner, cached, accounted⟩ := accounts
  rw [cached] at firstReusable secondReusable
  exact accounted.single_reusable inFirst inSecond firstReusable secondReusable

/-- Over any run on a cache, a shape is handed out again for the same properties as long as it is
alive and there was no reset, and every other shape is new. -/
theorem cache_identity {typePrefix : String} {inner : Forge} {bench : Bench} {given : List Handout}
    (uncached : inner.Uncached) (fresh : inner.foundry = Foundry.new typePrefix)
    (run : Run (ofForge inner.withCache) bench given) :
    (∀ name properties, MentionsAlive bench.alive given (properties.map (·.ty)) →
      (propertyFault? [] properties = none →
        ∃ shape after, bench.generate name properties = (.ok shape, after)) ∧
      ∀ shape after, bench.generate name properties = (.ok shape, after) →
        Identity bench given properties shape after) ∧
    ∀ first ∈ given, ∀ second ∈ given, ∀ properties,
      first.Reusable bench.alive bench.forge.epoch properties →
      second.Reusable bench.alive bench.forge.epoch properties → first.shape = second.shape := by
  have accounts := run.accounts (accounts_new uncached fresh)
  refine ⟨?_, ?_⟩
  · intro name properties mentions
    refine ⟨?_, ?_⟩
    · intro accepted
      exact accounts.accepts accepted name
    · intro shape after made
      exact accounts.identity mentions made
  · intro first inFirst second inSecond properties firstReusable secondReusable
    exact accounts.single inFirst inSecond firstReusable secondReusable

end Bench

/-! A run: a line is made of two points, then the name of the point is let go. The shape of the point
stays alive inside the line, so it comes back, although the next new shape would reset the forge. -/

namespace Drawing

def forge : Forge :=
  .rotating 2 0 (.plain (Foundry.new "Row"))

def point : List Property :=
  [⟨"x", .bool⟩, ⟨"y", .string⟩]

def pointShape : Shape :=
  ⟨0, "Row#0", 0, point⟩

def line : List Property :=
  [⟨"from", .shape pointShape⟩, ⟨"to", .shape pointShape⟩]

def lineShape : Shape :=
  ⟨1, "Row#1", 0, line⟩

def pointed : Bench :=
  ⟨.caching [⟨point, pointShape, 0⟩] (.rotating 2 1 (.plain ⟨"Row", ⟨0, [0]⟩, [], 0, 1⟩)),
    [("point", pointShape)], []⟩

def drawn : Bench :=
  ⟨.caching [⟨point, pointShape, 0⟩, ⟨line, lineShape, 0⟩]
      (.rotating 2 2 (.plain ⟨"Row", ⟨0, [0, 1]⟩, [], 0, 2⟩)),
    [("line", lineShape), ("point", pointShape)], []⟩

def left : Bench :=
  (drawn.release "point").2

def given : List Handout :=
  [⟨lineShape, 0⟩, ⟨pointShape, 0⟩]

theorem pointed_made :
    (Bench.ofForge forge.withCache).generate "point" point = (.ok pointShape, pointed) := by
  have made : forge.withCache.generate [] point = (.ok pointShape, pointed.forge) := by
    rw [forge, Forge.withCache, Forge.generate, Forge.generate, if_neg (by decide), Forge.generate]
    rfl
  exact Bench.generate_of_made (.ofForge forge.withCache) made "point"

theorem drawn_made : pointed.generate "line" line = (.ok lineShape, drawn) := by
  have made : pointed.forge.generate pointed.held line = (.ok lineShape, drawn.forge) := by
    rw [pointed, Forge.generate, Forge.generate, if_neg (by decide), Forge.generate]
    rfl
  exact pointed.generate_of_made made "line"

theorem left_run : Bench.Run (.ofForge forge.withCache) left given := by
  have first : Bench.Run (.ofForge forge.withCache) pointed [⟨pointShape, 0⟩] := by
    refine .generate .start ?_ pointed_made
    simp [MentionsAlive]
  have second : Bench.Run (.ofForge forge.withCache) drawn given := by
    refine .generate first ?_ drawn_made
    intro earlier member _ _ _
    rw [List.mem_singleton.mp member]
    decide
  exact second.release "point"

end Drawing

theorem Bench.cache_identity_point :
    Drawing.forge.Uncached ∧ Drawing.forge.foundry = Foundry.new "Row" ∧
    Run (ofForge Drawing.forge.withCache) Drawing.left Drawing.given ∧
    ∃ shape after, Drawing.left.generate "again" Drawing.point.reverse = (.ok shape, after) ∧
      Identity Drawing.left Drawing.given Drawing.point.reverse shape after ∧
      shape = Drawing.pointShape := by
  have uncached : Drawing.forge.Uncached := trivial
  have fresh : Drawing.forge.foundry = Foundry.new "Row" := rfl
  refine ⟨uncached, fresh, Drawing.left_run, ?_⟩
  have mentions : MentionsAlive Drawing.left.alive Drawing.given
      (Drawing.point.reverse.map (·.ty)) := by
    simp [MentionsAlive, Drawing.point, Ty.shapes]
  obtain ⟨accepts, keeps⟩ := (cache_identity uncached fresh Drawing.left_run).1 "again" _ mentions
  obtain ⟨shape, after, made⟩ := accepts (by decide)
  have identity := keeps shape after made
  refine ⟨shape, after, made, identity, identity.reused ⟨Drawing.pointShape, 0⟩ ?_ ?_⟩
  · simp [Drawing.given]
  · refine ⟨.of_perm (List.reverse_perm _).symm, by decide, rfl⟩

end RowQuery
