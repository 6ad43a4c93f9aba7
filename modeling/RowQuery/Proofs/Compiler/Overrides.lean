import Mathlib.Data.List.Nodup
import RowQuery.Proofs.Compiler.Paths

/-!
Overrides of members. An override stands for one declared member, wherever a path reaches it, and for
nothing else: a record that inherits the member has the override, one that declares it again has not,
unless it has the name of the type that is overridden. A formula that does not come across the member
is bound as if there were no override, unless an overload looks for the member itself.
-/

namespace RowQuery

/-! ### Where members are declared -/

namespace RecordDraft

/-- The draft, and the names that it has declared since it took over the members of its base. -/
inductive Adds : RecordDraft → List String → Prop
  | named (name : String) : Adds (.named name) []
  | extending {draft own} (base : RecordType) : Adds draft own → Adds (draft.extending base) []
  | addMember {draft own} (name : String) (ty : Ty) (kind : MemberKind) (visibility : Visibility) :
      Adds draft own → Adds (draft.addMember name ty kind visibility) (name :: own)
  | addConversion {draft own} (conversion : DeclaredConversion) :
      Adds draft own → Adds (draft.addConversion conversion) own

theorem Drawn.adds {draft : RecordDraft} (drawn : draft.Drawn) : ∃ own, draft.Adds own := by
  induction drawn with
  | named name => exact ⟨_, .named name⟩
  | extending base _ ih => exact ih.elim fun _ adds => ⟨_, .extending base adds⟩
  | addMember name ty kind visibility _ ih =>
      exact ih.elim fun _ adds => ⟨_, .addMember name ty kind visibility adds⟩
  | addConversion conversion _ ih => exact ih.elim fun _ adds => ⟨_, .addConversion conversion adds⟩

theorem Adds.drawn {draft : RecordDraft} {own : List String} (adds : draft.Adds own) : draft.Drawn := by
  induction adds with
  | named name => exact .named name
  | extending base _ ih => exact .extending base ih
  | addMember name ty kind visibility _ ih => exact .addMember name ty kind visibility ih
  | addConversion conversion _ ih => exact .addConversion conversion ih

/-- A member is added, and at most an inherited one of its name is lost. -/
theorem addMember_eq (draft : RecordDraft) (name : String) (ty : Ty) (kind : MemberKind)
    (visibility : Visibility) :
    ∃ members added, draft.addMember name ty kind visibility = { draft with members } ∧
      added ∈ members ∧ added.name = name ∧ added.declaringType = draft.name ∧
      (∀ member ∈ members, member = added ∨ member ∈ draft.members) ∧
      ∀ member ∈ draft.members, member.name ≠ name → member ∈ members := by
  have appended (added : Member) :
      added ∈ draft.members ++ [added] ∧
      (∀ member ∈ draft.members ++ [added], member = added ∨ member ∈ draft.members) ∧
      ∀ member ∈ draft.members, member.name ≠ name → member ∈ draft.members ++ [added] := by
    refine ⟨by simp, ?_, fun member inside _ => by simp [inside]⟩
    intro member inside
    simpa [or_comm] using inside
  rw [addMember]
  split
  · rename_i index found
    split
    · obtain ⟨bound, same, _⟩ := List.findIdx?_eq_some_iff_getElem.mp found
      refine ⟨_, _, rfl, List.mem_set bound _, rfl, rfl, ?_, ?_⟩
      · intro member inside
        exact (List.mem_or_eq_of_mem_set inside).symm
      · intro member inside differs
        obtain ⟨place, placed⟩ := List.mem_iff_getElem?.mp inside
        have apart : index ≠ place := by
          rintro rfl
          rw [List.getElem?_eq_getElem bound] at placed
          rw [Option.some.inj placed] at same
          exact differs (by simpa using same)
        exact List.mem_iff_getElem?.mpr ⟨place, by rw [List.getElem?_set_ne apart, placed]⟩
    · obtain ⟨added, listed, kept⟩ := appended ⟨name, ty, kind, visibility, draft.name⟩
      exact ⟨_, _, rfl, added, rfl, rfl, listed, kept⟩
  · obtain ⟨added, listed, kept⟩ := appended ⟨name, ty, kind, visibility, draft.name⟩
    exact ⟨_, _, rfl, added, rfl, rfl, listed, kept⟩

structure Split (draft : RecordDraft) (own : List String) : Prop where
  declares : ∀ name ∈ own, ∃ member ∈ draft.members, member.name = name ∧
    member.declaringType = draft.name
  inherited : ∀ base, draft.base = some base → ∀ member ∈ base.members, member.name ∉ own →
    member ∈ draft.members
  all : ∀ member ∈ draft.members, member.name ∈ own ∨
    ∃ base, draft.base = some base ∧ member ∈ base.members

theorem Split.addMember {draft : RecordDraft} {own : List String} (split : draft.Split own)
    (name : String) (ty : Ty) (kind : MemberKind) (visibility : Visibility) :
    (draft.addMember name ty kind visibility).Split (name :: own) := by
  obtain ⟨members, added, same, present, named, declaring, listed, kept⟩ :=
    addMember_eq draft name ty kind visibility
  rw [same]
  constructor
  case declares =>
    intro other inOwn
    by_cases again : other = name
    · exact ⟨added, present, named.trans again.symm, declaring⟩
    · have before : other ∈ own := by simpa [again] using inOwn
      obtain ⟨member, inside, rfl, declaredHere⟩ := split.declares other before
      exact ⟨member, kept member inside again, rfl, declaredHere⟩
  case inherited =>
    intro base extended member inside notOwn
    simp only [List.mem_cons, not_or] at notOwn
    exact kept member (split.inherited base extended member inside notOwn.2) notOwn.1
  case all =>
    intro member inside
    rcases listed member inside with rfl | before
    · exact .inl (by simp [named])
    · exact (split.all member before).imp_left (List.mem_cons_of_mem _)

theorem Adds.split {draft : RecordDraft} {own : List String} (adds : draft.Adds own) :
    draft.Split own := by
  induction adds with
  | named name => exact ⟨by simp, by simp [RecordDraft.named], by simp [RecordDraft.named]⟩
  | extending base _ _ =>
      refine ⟨by simp, ?_, fun member inside => .inr ⟨base, rfl, inside⟩⟩
      intro other extended member inside _
      simp only [RecordDraft.extending, Option.some.injEq] at extended
      subst extended
      exact inside
  | addConversion conversion _ ih => exact ⟨ih.declares, ih.inherited, ih.all⟩
  | addMember name ty kind visibility _ ih => exact ih.addMember name ty kind visibility

end RecordDraft

/-- Members of that name, in the record type and between it and `source`, are the one that `source`
has declared. -/
inductive RecordType.Supplies (name : String) (source : RecordType) : RecordType → Prop
  | own {draft : RecordDraft} {own : List String} : draft.Adds own → draft.build = .ok source →
      name ∈ own → Supplies name source source
  | inherited {base decl : RecordType} {draft : RecordDraft} {own : List String} :
      Supplies name source base → draft.Adds own → draft.base = some base → draft.build = .ok decl →
      name ∉ own → Supplies name source decl

namespace RecordType.Supplies

variable {name : String} {source decl : RecordType}

theorem declared (supplies : Supplies name source decl) : decl.Declared := by
  cases supplies with
  | own adds built _ => exact ⟨_, adds.drawn, built⟩
  | inherited _ adds _ built _ => exact ⟨_, adds.drawn, built⟩

theorem member (supplies : Supplies name source decl) :
    ∃ member ∈ decl.members, member.name = name ∧ member.declaringType = source.name := by
  induction supplies with
  | own adds built listed =>
      rw [RecordDraft.build_eq_ok built]
      exact adds.split.declares name listed
  | inherited _ adds extended built notOwn ih =>
      obtain ⟨member, inside, rfl, declaring⟩ := ih
      rw [RecordDraft.build_eq_ok built]
      exact ⟨member, adds.split.inherited _ extended member inside notOwn, rfl, declaring⟩

theorem declaringType (supplies : Supplies name source decl) {member : Member}
    (inside : member ∈ decl.members) (named : member.name = name) :
    member.declaringType = source.name := by
  obtain ⟨other, otherInside, sameName, declaring⟩ := supplies.member
  have same : member = other :=
    List.inj_on_of_nodup_map supplies.declared.nodup inside otherInside (named.trans sameName.symm)
  rw [same, declaring]

end RecordType.Supplies

/-- Each member of a record type is supplied by the type itself or by one of its bases. -/
theorem RecordType.BaseOf.supplied {above decl : RecordType} (isBase : above.BaseOf decl)
    (root : above.base = none) {member : Member} (inside : member ∈ decl.members) :
    ∃ source, Supplies member.name source decl := by
  induction isBase with
  | self declared =>
      obtain ⟨draft, drawn, built⟩ := declared
      obtain ⟨own, adds⟩ := drawn.adds
      have parts := RecordDraft.build_eq_ok built
      rw [parts] at inside root
      rcases adds.split.all member inside with inOwn | ⟨base, extended, _⟩
      · exact ⟨above, .own adds built inOwn⟩
      · exact absurd (extended.symm.trans root) (by simp)
  | @extend base decl _ declared extended ih =>
      obtain ⟨draft, drawn, built⟩ := declared
      obtain ⟨own, adds⟩ := drawn.adds
      have parts := RecordDraft.build_eq_ok built
      by_cases inOwn : member.name ∈ own
      · exact ⟨decl, .own adds built inOwn⟩
      · rw [parts] at inside extended
        obtain ⟨other, sameBase, inherited⟩ := (adds.split.all member inside).resolve_left inOwn
        obtain rfl := Option.some.inj (extended.symm.trans sameBase)
        obtain ⟨source, supplies⟩ := ih inherited
        exact ⟨source, .inherited supplies adds extended built inOwn⟩

/-! ### Steps with an override -/

def Override.Applies (override : Override) (key : MemberKey) (reached : MemberRef) (isLast : Bool) :
    Prop :=
  reached.key? = some key ∧ (override.onlyOnDirect = true → isLast = true)

namespace Compiler

variable {compiler changed : Compiler} {path : String} {owner target : Expr} {reached : MemberRef}

/-- The members that are reached one after the other, and whether they are the last ones. -/
inductive Visits (compiler : Compiler) (path : String) : Expr → List String → MemberRef → Bool → Prop
  | here {owner : Expr} {name : String} {rest : List String} {reached : MemberRef} :
      owner.ty.memberNamed name path = .ok reached →
      Visits compiler path owner (name :: rest) reached rest.isEmpty
  | later {owner next : Expr} {name : String} {rest : List String} {reached : MemberRef}
      {isLast : Bool} : compiler.step path owner name rest.isEmpty = .ok next →
      Visits compiler path next rest reached isLast →
      Visits compiler path owner (name :: rest) reached isLast

def Takes (compiler : Compiler) (target : Expr) (path : String) (reached : MemberRef) (isLast : Bool) :
    Prop :=
  Text.AllNamed path ∧ compiler.Visits path target (Text.names path) reached isLast

theorem step_rewritten {name : String} {isLast : Bool} {override : Override}
    (found : owner.ty.memberNamed name path = .ok reached)
    (stands : compiler.override? reached isLast = some override) :
    compiler.step path owner name isLast = override.replace owner := by
  rw [step, found, Result.ok_bind, stands]

theorem step_kept {name : String} {isLast : Bool}
    (found : owner.ty.memberNamed name path = .ok reached)
    (spared : compiler.override? reached isLast = none) :
    compiler.step path owner name isLast = .ok (.member owner reached) := by
  rw [step, found, Result.ok_bind, spared]

theorem follow_eq_of_unrewritten (plain : compiler.overrides = []) {names : List String}
    (untouched : ∀ reached isLast, changed.Visits path owner names reached isLast →
      changed.override? reached isLast = none) :
    changed.follow path owner names = compiler.follow path owner names := by
  induction names generalizing owner with
  | nil => rfl
  | cons name rest ih =>
      have same : changed.step path owner name rest.isEmpty =
          compiler.step path owner name rest.isEmpty := by
        cases found : owner.ty.memberNamed name path with
        | error fault => rw [step, step, found]; rfl
        | ok reached =>
            rw [step_kept found (untouched _ _ (.here found)),
              step_kept found (override?_eq_none plain _ _)]
      -- Both are at the same owner then, and what is visited from it on is visited from here.
      rw [follow_cons, follow_cons, same]
      cases stepped : compiler.step path owner name rest.isEmpty with
      | error fault => rfl
      | ok next =>
          rw [Result.ok_bind, Result.ok_bind]
          apply ih
          intro reached isLast visits
          exact untouched reached isLast (.later (same.trans stepped) visits)

/-! ### One override -/

section

variable {key : MemberKey} {override : Override}

theorem override?_single (only : changed.overrides = [(key, override)])
    {isLast : Bool} (applies : override.Applies key reached isLast) :
    changed.override? reached isLast = some override := by
  refine override?_eq_some.mpr ⟨⟨key, (key, override), applies.1, ?_, rfl⟩, applies.2⟩
  rw [only, List.find?_cons_of_pos (by simp)]

theorem override?_single_none (only : changed.overrides = [(key, override)])
    {isLast : Bool} (spared : ¬ override.Applies key reached isLast) :
    changed.override? reached isLast = none := by
  cases found : changed.override? reached isLast with
  | none => rfl
  | some other =>
      obtain ⟨⟨reachedKey, entry, keyed, inside, rfl⟩, direct⟩ := override?_eq_some.mp found
      have listed := List.mem_of_find?_eq_some inside
      rw [only, List.mem_singleton] at listed
      have same : entry.1 = reachedKey := by simpa using List.find?_some inside
      rw [← same, listed] at keyed
      rw [listed] at direct
      exact absurd ⟨keyed, direct⟩ spared

theorem defineOverride_plain (plain : compiler.overrides = []) {decl : RecordType} {name : String}
    (keyed : memberKey decl name = .ok key) (override : Override) :
    compiler.defineOverride decl name override = .ok ⟨compiler.catalog, [(key, override)]⟩ := by
  rw [defineOverride, keyed, plain]
  rfl

theorem removeOverride_single (plain : compiler.overrides = []) {decl : RecordType} {name : String}
    (keyed : memberKey decl name = .ok key) (override : Override) :
    removeOverride ⟨compiler.catalog, [(key, override)]⟩ decl name = (compiler, true) := by
  have restored : (⟨compiler.catalog, []⟩ : Compiler) = compiler := by
    rw [← plain]
  rw [removeOverride, keyed]
  simp [restored]

end

end Compiler

inductive Formula.Mentions (path : String) : Formula → Prop
  | field : Mentions path (.field path)
  | call {method : String} {args : List Formula} {arg : Formula} : arg ∈ args → Mentions path arg →
      Mentions path (.call method args)

theorem Compiler.binder_eq_of_unrewritten {compiler changed : Compiler}
    (plain : compiler.overrides = []) (sameCatalog : changed.catalog = compiler.catalog)
    (indifferent : ∀ method, ∀ overload ∈ compiler.catalog.lookup method,
      overload.Indifferent changed.view compiler.view)
    {target : Expr} {formula : Formula}
    (untouched : ∀ path, formula.Mentions path → ∀ reached isLast,
      changed.Takes target path reached isLast → changed.override? reached isLast = none) :
    changed.binder target formula = compiler.binder target formula := by
  induction formula with
  | constant value => rfl
  | field path =>
      have resolved : changed.resolvePath target path = compiler.resolvePath target path := by
        by_cases named : Text.AllNamed path
        · rw [resolvePath_eq_follow named, resolvePath_eq_follow named]
          apply follow_eq_of_unrewritten plain
          intro reached isLast visits
          exact untouched path .field reached isLast ⟨named, visits⟩
        · rw [resolvePath_eq_error named, resolvePath_eq_error named]
      rw [binder, binder]
      congr 1
      funext expected
      rw [bindField, bindField, resolved]
  | call method args ih =>
      have same : changed.binders target args = compiler.binders target args := by
        rw [binders_eq_map, binders_eq_map]
        apply List.map_congr_left
        intro arg inside
        exact ih arg inside fun path mentions => untouched path (.call inside mentions)
      rw [binder, binder, same]
      exact callBinder_view (by rw [sameCatalog]) (indifferent method)

/-- The override of a member is taken for the member that a type of the same name has declared and for
no other one; formulas that do not come across it are bound as before if the overloads make no
difference between the compilers, and all are once it is removed. -/
theorem override_affects_its_member (compiler : Compiler) (plain : compiler.overrides = [])
    {decl : RecordType} {name : String} {index : Nat} {member : Member}
    (resolved : (Ty.record decl).memberNamed name name = .ok (.record decl index member))
    (override : Override) :
    ∃ changed, compiler.defineOverride decl name override = .ok changed ∧
      (∀ path owner next rest reached, owner.ty.memberNamed next path = .ok reached →
        (override.Applies ⟨member.declaringType, member.name⟩ reached rest.isEmpty →
          changed.follow path owner (next :: rest) =
            override.replace owner >>= fun expr => changed.follow path expr rest) ∧
        (¬ override.Applies ⟨member.declaringType, member.name⟩ reached rest.isEmpty →
          changed.follow path owner (next :: rest) =
            changed.follow path (.member owner reached) rest)) ∧
      (∀ (holder : RecordType) (place : Nat) (found : Member), holder.members[place]? = some found →
        found.name = member.name →
        (∀ source, RecordType.Supplies member.name source holder → ∀ isLast,
          (override.Applies ⟨member.declaringType, member.name⟩ (.record holder place found) isLast ↔
            source.name = member.declaringType ∧ (override.onlyOnDirect = true → isLast = true))) ∧
        ∀ root : RecordType, root.base = none → root.BaseOf holder →
          ∃ source, RecordType.Supplies member.name source holder) ∧
      ((∀ method, ∀ overload ∈ compiler.catalog.lookup method,
          overload.Indifferent changed.view compiler.view) →
        ∀ target formula,
        (∀ path, formula.Mentions path → ∀ reached isLast,
          changed.Takes target path reached isLast →
          ¬ override.Applies ⟨member.declaringType, member.name⟩ reached isLast) →
        changed.binder target formula = compiler.binder target formula) ∧
      changed.removeOverride decl name = (compiler, true) := by
  have keyed : Compiler.memberKey decl name = .ok ⟨member.declaringType, member.name⟩ := by
    rw [Compiler.memberKey, resolved]
    rfl
  refine ⟨_, Compiler.defineOverride_plain plain keyed override, ?_, ?_, ?_,
    Compiler.removeOverride_single plain keyed override⟩
  · intro path owner next rest reached found
    constructor
    · intro applies
      rw [Compiler.follow_cons, Compiler.step_rewritten found (Compiler.override?_single rfl applies)]
    · intro spared
      rw [Compiler.follow_cons, Compiler.step_kept found (Compiler.override?_single_none rfl spared),
        Result.ok_bind]
  · intro holder place found placed sameName
    have inside := List.mem_of_getElem? placed
    constructor
    · intro source supplies isLast
      have declaring := supplies.declaringType inside sameName
      simp only [Override.Applies, MemberRef.key?, Option.some.injEq, MemberKey.mk.injEq, sameName,
        declaring, and_true]
    · intro root noBase isBase
      rw [← sameName]
      exact isBase.supplied noBase inside
  · intro indifferent target formula untouched
    refine Compiler.binder_eq_of_unrewritten plain ?_ indifferent ?_
    · rfl
    · intro path mentions reached isLast takes
      exact Compiler.override?_single_none rfl (untouched path mentions reached isLast takes)

namespace Kennel

def hidden : Override :=
  ⟨true, fun _ => .ok (.constant (.string "hidden") .string)⟩

theorem dog_supplies_tag : RecordType.Supplies "tag" dog puppy := by
  have dogAdds := RecordDraft.Adds.addConversion ⟨0, .outgoing .string, true⟩
    (.addMember "age" (.nullable .i32) .property .shown
      (.addMember "tag" .string .property .shown (.extending animal (.named "Dog"))))
  have puppyAdds := RecordDraft.Adds.addMember "weeks" .i32 .property .shown
    (.extending dog (.named "Puppy"))
  exact .inherited (.own dogAdds rfl (by decide)) puppyAdds rfl rfl (by decide)

/-- The tag of an animal is hidden, and that of a puppy, which the dog has declared, is not. -/
theorem override_affects_its_member_tag :
    ∃ changed, Compiler.defineOverride (.ofCatalog .empty) animal "Tag" hidden = .ok changed ∧
      changed.follow "tag" (.target (.record animal)) ["tag"] =
        .ok (.constant (.string "hidden") .string) ∧
      (∀ isLast, ¬ hidden.Applies ⟨"Animal", "tag"⟩
        (.record puppy 1 ⟨"tag", .string, .property, .shown, "Dog"⟩) isLast) ∧
      changed.binder (.target (.record puppy)) (.field "tag") =
        Compiler.binder (.ofCatalog .empty) (.target (.record puppy)) (.field "tag") ∧
      changed.removeOverride animal "Tag" = (.ofCatalog .empty, true) := by
  have found : (Ty.record animal).memberNamed "Tag" "Tag" =
      .ok (.record animal 1 ⟨"tag", .any, .property, .shown, "Animal"⟩) := rfl
  have reachable : (Ty.record puppy).memberNamed "tag" "tag" =
      .ok (.record puppy 1 ⟨"tag", .string, .property, .shown, "Dog"⟩) := rfl
  obtain ⟨changed, defined, steps, inherits, unseen, removed⟩ :=
    override_affects_its_member (.ofCatalog .empty) rfl found hidden
  have spared (isLast : Bool) : ¬ hidden.Applies ⟨"Animal", "tag"⟩
      (.record puppy 1 ⟨"tag", .string, .property, .shown, "Dog"⟩) isLast := by
    rw [(inherits puppy 1 _ rfl rfl).1 dog dog_supplies_tag]
    rintro ⟨sameName, _⟩
    exact absurd sameName (by decide)
  refine ⟨changed, defined, ?_, spared, unseen ?_ _ _ ?_, removed⟩
  · exact (steps "tag" (.target (.record animal)) "tag" [] _ rfl).1 ⟨rfl, fun _ => rfl⟩
  · intro method overload listed
    exact absurd listed List.not_mem_nil
  · rintro path (_ | _) reached isLast ⟨_, visits⟩
    have visits : changed.Visits "tag" (.target (.record puppy)) ["tag"] reached isLast := visits
    cases visits with
    | here resolved =>
        obtain rfl := Except.ok.inj (reachable.symm.trans resolved)
        exact spared _
    | later _ more => cases more

/-! Where an override reaches further: an overload asks the compiler for the tag, and a record that
declares the tag again is itself called an animal. -/

def tagOf : Definition :=
  .ofSite "tagof" [] fun site => (site.compiler.resolvePath site.target "tag").map some

def tagging : Compiler :=
  .ofCatalog (.addAll .empty [tagOf])

def stray : RecordType :=
  ⟨"Animal", some puppy, puppy.members.set 1 ⟨"tag", .bool, .property, .shown, "Animal"⟩, []⟩

def strayDraft : RecordDraft :=
  ((RecordDraft.named "Animal").extending puppy).addMember "tag" .bool .property .shown

theorem override_affects_others :
    ∃ changed, tagging.defineOverride animal "tag" hidden = .ok changed ∧
      (∀ path, ¬ (Formula.call "tagof" []).Mentions path) ∧
      tagging.build (.target (.record animal)) (.call "tagof" []) =
        .ok (.member (.target (.record animal))
          (.record animal 1 ⟨"tag", .any, .property, .shown, "Animal"⟩)) ∧
      changed.build (.target (.record animal)) (.call "tagof" []) =
        .ok (.constant (.string "hidden") .string) ∧
      strayDraft.Adds ["tag"] ∧ strayDraft.build = .ok stray ∧
      tagging.build (.target (.record stray)) (.field "tag") =
        .ok (.member (.target (.record stray))
          (.record stray 1 ⟨"tag", .bool, .property, .shown, "Animal"⟩)) ∧
      changed.build (.target (.record stray)) (.field "tag") =
        .ok (.constant (.string "hidden") .string) := by
  refine ⟨_, rfl, ?_, rfl, rfl, ?_, rfl, rfl, rfl⟩
  · rintro path (_ | ⟨impossible, _⟩)
    exact List.not_mem_nil impossible
  · exact .addMember "tag" .bool .property .shown (.extending puppy (.named "Animal"))

end Kennel

end RowQuery
