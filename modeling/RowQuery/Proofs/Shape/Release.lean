import RowQuery.Proofs.Shape.Identity

/-!
When a cache lets a shape go. No call brings a shape back to life, so of the shapes handed out for one
set of properties only the latest can be alive. The next request after everyone has let it go makes a
new shape, unless the key of an entry mentions the old one: what is inside a key stays alive.
-/

namespace RowQuery

namespace Forge

theorem entries_reset (forge : Forge) : forge.reset.entries = [] := by
  induction forge with
  | plain foundry => rfl
  | rotating threshold count inner ih => exact ih
  | caching outer inner ih => exact ih

theorem foundry_purge (held : List Ty) (forge : Forge) :
    (forge.purge held).2.foundry = forge.foundry := by
  induction forge with
  | plain foundry => rfl
  | rotating threshold count inner ih => exact ih
  | caching outer inner _ => rfl

end Forge

namespace Bench

/-! ### Shapes do not come back to life -/

/-- Of the shapes that were handed out before, those that are alive after were alive before. -/
structure Fades (given : List Handout) (before after : Bench) : Prop where
  alive : ∀ earlier ∈ given, earlier.shape.id ∈ after.alive → earlier.shape.id ∈ before.alive
  epoch : before.forge.epoch ≤ after.forge.epoch

namespace Fades

variable {bench after : Bench} {given : List Handout}

theorem hold (same : after.forge = bench.forge)
    (mentions : MentionsAlive bench.alive given after.held) : Fades given bench after where
  alive _ member := alive_of_hold same mentions member
  epoch := Nat.le_of_eq (by rw [same])

theorem reset (bench : Bench) (given : List Handout) : Fades given bench bench.reset where
  alive := by
    intro earlier _ living
    rcases CacheEntry.mem_live.mp living with inHeld | ⟨entry, inside, _⟩
    · exact CacheEntry.mem_live.mpr (.inl inHeld)
    · rw [Bench.reset, Forge.entries_reset] at inside
      simp at inside
  epoch := by
    rw [Bench.reset, Forge.epoch_reset]
    omega

theorem purge (bench : Bench) (given : List Handout) : Fades given bench bench.purge.2 where
  alive _ _ := alive_of_purge
  epoch := Nat.le_of_eq (congrArg Foundry.epoch (Forge.foundry_purge bench.held bench.forge)).symm

theorem reorder (bench : Bench) (given : List Handout) (order : VisitOrder) :
    Fades given bench (bench.reorder order) where
  alive _ _ := mem_alive_reorder.mp
  epoch := Nat.le_of_eq (congrArg Foundry.epoch (Forge.foundry_reorder order bench.forge)).symm

theorem generate (accounts : bench.Accounts given) {name : String} {properties : List Property}
    {shape : Shape} (mentions : MentionsAlive bench.alive given (properties.map (·.ty)))
    (made : bench.generate name properties = (.ok shape, after)) : Fades given bench after := by
  obtain ⟨entries, inner, cached, accounted⟩ := accounts
  obtain ⟨generated, left, kept, heldAfter⟩ := generate_eq_ok made
  have living := alive_eq cached accounted.uncached
  rw [living] at accounted mentions
  rw [cached] at generated
  obtain ⟨accepted, hits | misses⟩ :=
    Forge.generate_eq_ok accounted.uncached accounted.inStep generated
  · have same : after.forge = .caching entries inner := by
      obtain ⟨_, _, _, _, _, unchanged⟩ := hits
      exact unchanged
    constructor
    · intro earlier _ still
      rw [alive_eq same accounted.uncached, heldAfter] at still
      rw [living]
      exact accounted.alive_of_hits mentions hits kept still
    · exact Nat.le_of_eq (by rw [cached, same])
  · obtain ⟨changed, fabricated, changedForge⟩ := misses.2
    constructor
    · intro earlier known still
      have older : earlier.shape.id ≠ shape.id := by
        have below := accounted.numbered earlier known
        have above := fabricated.numbered
        omega
      rw [alive_eq changedForge fabricated.uncached, heldAfter] at still
      rw [living]
      exact Forge.Accounts.alive_of_fresh mentions fabricated.properties known older
        (fun _ survivor => (Forge.mem_of_surviving survivor).1)
        (Forge.Accounts.live_renewed accepted kept still)
    · rw [cached, changedForge]
      exact fabricated.later

end Fades

theorem Accounts.past {bench : Bench} {given : List Handout} (accounts : bench.Accounts given) :
    ∀ earlier ∈ given, earlier.epoch ≤ bench.forge.epoch := by
  obtain ⟨entries, inner, cached, accounted⟩ := accounts
  rw [cached]
  exact accounted.past

/-! ### Only the latest is alive -/

/-- Among the shapes for one set of properties, one that is alive and of this epoch is the same as
all that came after it. -/
def LatestOnly (given : List Handout) (bench : Bench) : Prop :=
  given.Pairwise fun later earlier =>
    SameProperties earlier.shape.properties later.shape.properties →
    earlier.shape.id ∈ bench.alive → earlier.epoch = bench.forge.epoch → later.shape = earlier.shape

theorem LatestOnly.fade {given : List Handout} {before after : Bench}
    (latest : LatestOnly given before) (fades : Fades given before after)
    (past : ∀ earlier ∈ given, earlier.epoch ≤ before.forge.epoch) : LatestOnly given after := by
  refine latest.imp_of_mem ?_
  intro later earlier _ member only same living now
  refine only same (fades.alive earlier member living) ?_
  have before := past earlier member
  have onward := fades.epoch
  omega

theorem LatestOnly.generate {bench after : Bench} {given : List Handout} {name : String}
    {properties : List Property} {shape : Shape} (latest : LatestOnly given bench)
    (accounts : bench.Accounts given)
    (mentions : MentionsAlive bench.alive given (properties.map (·.ty)))
    (made : bench.generate name properties = (.ok shape, after)) :
    LatestOnly (⟨shape, after.forge.epoch⟩ :: given) after := by
  have fades := Fades.generate accounts mentions made
  have identity := accounts.identity mentions made
  refine List.pairwise_cons.mpr ⟨?_, latest.fade fades accounts.past⟩
  intro earlier member same living now
  refine identity.reused earlier member ⟨?_, fades.alive earlier member living, ?_⟩
  · exact same.trans identity.asked
  · have before := accounts.past earlier member
    have onward := fades.epoch
    omega

theorem Run.latestOnly {start bench : Bench} {given : List Handout} (run : Run start bench given)
    (fresh : start.Accounts []) : LatestOnly given bench := by
  induction run with
  | start => exact .nil
  | generate run mentions made ih => exact ih.generate (run.accounts fresh) mentions made
  | refuse run refused ih => exact (run.accounts fresh).refuse refused ▸ ih
  | release run name ih =>
      exact ih.fade (.hold rfl (mentions_of_held _ (held_release _ name))) (run.accounts fresh).past
  | keep run name mentions ih =>
      exact ih.fade (.hold rfl (mentions_of_kept name mentions)) (run.accounts fresh).past
  | free run name ih =>
      exact ih.fade (.hold rfl (mentions_of_held _ (held_free _ name))) (run.accounts fresh).past
  | reset run ih => exact ih.fade (.reset _ _) (run.accounts fresh).past
  | purge run ih => exact ih.fade (.purge _ _) (run.accounts fresh).past
  | reorder run order ih => exact ih.fade (.reorder _ _ order) (run.accounts fresh).past

/-! ### The next request -/

/-- Someone holds the shape: by name, by an instance, or by a type that mentions it. -/
def Holds (bench : Bench) (shape : Shape) : Prop :=
  ∃ ty ∈ bench.held, shape.id ∈ ty.shapes

def InKey (bench : Bench) (shape : Shape) : Prop :=
  ∃ entry ∈ bench.forge.entries, shape.id ∈ propertyShapes entry.key

theorem mem_alive {bench : Bench} {shape : Shape} :
    shape.id ∈ bench.alive ↔ bench.Holds shape ∨ bench.InKey shape :=
  CacheEntry.mem_live

structure Renewed (bench : Bench) (given : List Handout) (shape : Shape) (after : Bench) : Prop where
  numbered : shape.id = bench.forge.foundry.issued
  issued : after.forge.foundry.issued = shape.id + 1
  unknown : ∀ earlier ∈ given, shape.id ≠ earlier.shape.id

/-- Only a shape that was handed out has its entry, and the key of the entry is what it was made
of. -/
theorem Accounts.handout_of_inKey {bench : Bench} {given : List Handout}
    (accounts : bench.Accounts given) {shape : Shape} (inKey : bench.InKey shape) :
    ∃ other ∈ given, shape.id ∈ propertyShapes other.shape.properties := by
  obtain ⟨entries, inner, cached, accounted⟩ := accounts
  obtain ⟨entry, inside, mentioned⟩ := inKey
  rw [cached, Forge.entries, accounted.uncached.entries, List.append_nil] at inside
  have listed := accounted.listed entry inside
  rw [accounted.keyed entry inside,
    mem_propertyShapes_cacheKey (accounted.accepted _ listed)] at mentioned
  exact ⟨_, listed, mentioned⟩

theorem Accounts.epoch_eq {bench : Bench} {given : List Handout} (accounts : bench.Accounts given)
    {first second : Handout} (inFirst : first ∈ given) (inSecond : second ∈ given)
    (same : first.shape = second.shape) : first.epoch = second.epoch := by
  obtain ⟨_, _, _, accounted⟩ := accounts
  rw [← accounted.generation first inFirst, ← accounted.generation second inSecond, same]

/-- If any shape can be used again for some properties, then the latest for them can. -/
theorem LatestOnly.reusable {bench : Bench} {newer older : List Handout} {earlier : Handout}
    {properties : List Property} (latest : LatestOnly (newer ++ earlier :: older) bench)
    (accounts : bench.Accounts (newer ++ earlier :: older))
    (last : ∀ later ∈ newer, ¬SameProperties later.shape.properties properties)
    (asked : SameProperties earlier.shape.properties properties) {other : Handout}
    (member : other ∈ newer ++ earlier :: older)
    (reusable : other.Reusable bench.alive bench.forge.epoch properties) :
    earlier.Reusable bench.alive bench.forge.epoch properties := by
  rcases List.mem_append.mp member with inNewer | rest
  · exact absurd reusable.1 (last other inNewer)
  · rcases List.mem_cons.mp rest with rfl | inOlder
    · exact reusable
    · obtain ⟨same, living, now⟩ := reusable
      have pair := (List.pairwise_cons.mp (List.pairwise_append.mp latest).2.1).1 other inOlder
      have equal := pair (same.trans asked.symm) living now
      refine ⟨asked, equal ▸ living, ?_⟩
      rw [← now]
      exact accounts.epoch_eq (by simp) member equal

/-- Over any run on a cache: once nobody holds a shape any more, the next request for its properties
makes a new one, except that the shape itself comes back if it is of this epoch and in the key of an
entry. It is in no key if it is not among the property types of what was handed out. -/
theorem let_go_renewed {typePrefix : String} {inner : Forge} {bench : Bench}
    {newer older : List Handout} {earlier : Handout} {properties : List Property}
    (uncached : inner.Uncached) (fresh : inner.foundry = Foundry.new typePrefix)
    (run : Run (ofForge inner.withCache) bench (newer ++ earlier :: older))
    (last : ∀ later ∈ newer, ¬SameProperties later.shape.properties properties)
    (asked : SameProperties earlier.shape.properties properties)
    (accepted : propertyFault? [] properties = none)
    (mentions : MentionsAlive bench.alive (newer ++ earlier :: older) (properties.map (·.ty)))
    (letGo : ¬bench.Holds earlier.shape) (name : String) :
    ∃ shape after, bench.generate name properties = (.ok shape, after) ∧
      (Renewed bench (newer ++ earlier :: older) shape after ↔
        ¬(earlier.epoch = bench.forge.epoch ∧ bench.InKey earlier.shape)) ∧
      (shape = earlier.shape ↔ earlier.epoch = bench.forge.epoch ∧ bench.InKey earlier.shape) ∧
      ((∀ other ∈ newer ++ earlier :: older,
        earlier.shape.id ∉ propertyShapes other.shape.properties) →
        Renewed bench (newer ++ earlier :: older) shape after) := by
  have start := accounts_new uncached fresh
  have accounts := run.accounts start
  have latest := run.latestOnly start
  have known : earlier ∈ newer ++ earlier :: older := by simp
  have reusable : earlier.Reusable bench.alive bench.forge.epoch properties ↔
      earlier.epoch = bench.forge.epoch ∧ bench.InKey earlier.shape := by
    rw [Handout.Reusable, mem_alive]
    tauto
  obtain ⟨shape, after, made⟩ := accounts.accepts accepted name
  have identity := accounts.identity mentions made
  have back : earlier.epoch = bench.forge.epoch ∧ bench.InKey earlier.shape →
      shape = earlier.shape := fun kept => identity.reused earlier known (reusable.mpr kept)
  have renewed : ¬(earlier.epoch = bench.forge.epoch ∧ bench.InKey earlier.shape) →
      Renewed bench (newer ++ earlier :: older) shape after := by
    intro lost
    obtain ⟨numbered, issued, unknown⟩ := identity.fresh fun other member again =>
      lost (reusable.mp (latest.reusable accounts last asked member again))
    exact ⟨numbered, issued, unknown⟩
  refine ⟨shape, after, made, ⟨?_, renewed⟩, ⟨?_, back⟩, ?_⟩
  · intro new kept
    exact new.unknown earlier known (congrArg Shape.id (back kept))
  · intro same
    by_contra lost
    exact (renewed lost).unknown earlier known (congrArg Shape.id same)
  · intro alone
    refine renewed fun kept => ?_
    obtain ⟨other, member, mentioned⟩ := accounts.handout_of_inKey kept.2
    exact alone other member mentioned

end Bench

/-! A letter is put into an envelope, and both are let go. The entry of the envelope is still there, and
its key mentions the letter. After a purge it is gone. -/

namespace Post

def forge : Forge :=
  .plain (Foundry.new "Row")

def letter : List Property :=
  [⟨"text", .string⟩]

def letterShape : Shape :=
  ⟨0, "Row#0", 0, letter⟩

def envelope : List Property :=
  [⟨"holds", .shape letterShape⟩]

def envelopeShape : Shape :=
  ⟨1, "Row#1", 0, envelope⟩

def written : Bench :=
  ⟨.caching [⟨letter, letterShape, 0⟩] (.plain ⟨"Row", ⟨0, [0]⟩, [], 0, 1⟩),
    [("letter", letterShape)], []⟩

def closed : Bench :=
  ⟨.caching [⟨letter, letterShape, 0⟩, ⟨envelope, envelopeShape, 0⟩]
      (.plain ⟨"Row", ⟨0, [0, 1]⟩, [], 0, 2⟩),
    [("envelope", envelopeShape), ("letter", letterShape)], []⟩

def posted : Bench :=
  { closed with shapes := [] }

def given : List Handout :=
  [⟨envelopeShape, 0⟩, ⟨letterShape, 0⟩]

theorem written_made :
    (Bench.ofForge forge.withCache).generate "letter" letter = (.ok letterShape, written) := by
  have made : forge.withCache.generate [] letter = (.ok letterShape, written.forge) := by
    rw [forge, Forge.withCache, Forge.generate, Forge.generate]
    rfl
  exact Bench.generate_of_made (.ofForge forge.withCache) made "letter"

theorem closed_made : written.generate "envelope" envelope = (.ok envelopeShape, closed) := by
  have made : written.forge.generate written.held envelope = (.ok envelopeShape, closed.forge) := by
    rw [written, Forge.generate, Forge.generate]
    rfl
  exact written.generate_of_made made "envelope"

theorem closed_run : Bench.Run (.ofForge forge.withCache) closed given := by
  have first : Bench.Run (.ofForge forge.withCache) written [⟨letterShape, 0⟩] := by
    refine .generate .start ?_ written_made
    simp [MentionsAlive]
  refine .generate first ?_ closed_made
  intro earlier member _ _ _
  rw [List.mem_singleton.mp member]
  decide

theorem posted_run : Bench.Run (.ofForge forge.withCache) posted given :=
  (closed_run.release "envelope").release "letter"

def emptied : Bench :=
  posted.purge.2

theorem emptied_run : Bench.Run (.ofForge forge.withCache) emptied given :=
  posted_run.purge

end Post

theorem Bench.let_go_renewed_letter :
    Run (ofForge Post.forge.withCache) Post.emptied Post.given ∧
    ¬Post.emptied.Holds Post.letterShape ∧ ¬Post.emptied.InKey Post.letterShape ∧
    ∃ shape after, Post.emptied.generate "again" Post.letter = (.ok shape, after) ∧
      Renewed Post.emptied Post.given shape after := by
  have letGo : ¬Post.emptied.Holds Post.letterShape := by
    rintro ⟨ty, inHeld, _⟩
    exact List.not_mem_nil inHeld
  have noKey : ¬Post.emptied.InKey Post.letterShape := by
    rintro ⟨entry, inside, mentioned⟩
    rw [List.mem_singleton.mp inside] at mentioned
    exact List.not_mem_nil mentioned
  have last : ∀ later ∈ [(⟨Post.envelopeShape, 0⟩ : Handout)],
      ¬SameProperties later.shape.properties Post.letter := by
    intro later member
    rw [List.mem_singleton.mp member]
    simp [SameProperties, Post.envelopeShape, Post.envelope, Post.letter, Property.same]
  have mentions : MentionsAlive Post.emptied.alive
      ([⟨Post.envelopeShape, 0⟩] ++ ⟨Post.letterShape, 0⟩ :: []) (Post.letter.map (·.ty)) := by
    simp [MentionsAlive, Post.letter, Ty.shapes]
  have run : Run (ofForge Post.forge.withCache) Post.emptied
      ([⟨Post.envelopeShape, 0⟩] ++ ⟨Post.letterShape, 0⟩ :: []) := Post.emptied_run
  have uncached : Post.forge.Uncached := trivial
  have fresh : Post.forge.foundry = Foundry.new "Row" := rfl
  obtain ⟨shape, after, made, renewed, _⟩ :=
    let_go_renewed uncached fresh run last (.refl _) (by decide) mentions letGo "again"
  exact ⟨run, letGo, noKey, shape, after, made, renewed.mpr fun kept => noKey kept.2⟩

/-- Without the purge the letter comes back, although nobody holds it or anything that it is in. -/
theorem Bench.letter_kept_by_key :
    Run (ofForge Post.forge.withCache) Post.posted Post.given ∧ Post.posted.held = [] ∧
    Post.posted.generate "again" Post.letter =
      (.ok Post.letterShape, { Post.posted with shapes := [("again", Post.letterShape)] }) := by
  have made : Post.posted.forge.generate Post.posted.held Post.letter =
      (.ok Post.letterShape, Post.posted.forge) := by
    rw [Post.posted, Post.closed, Forge.generate]
    rfl
  exact ⟨Post.posted_run, rfl, Post.posted.generate_of_made made "again"⟩

end RowQuery
