import RowQuery.Proofs.Compiler.Faults
import RowQuery.Proofs.Compiler.Upcast

/-!
Paths of members, joined with a dot. The whole path leads where its second part leads from the end of
its first part, and reads what the second part reads from what the first part has read.
-/

namespace RowQuery

/-! ### Names of a path -/

namespace Text

theorem segments_ne_nil (chars : List Char) : segments chars ≠ [] := by
  cases chars with
  | nil => simp [segments]
  | cons c rest =>
      rw [segments]
      cases c == '.' <;> cases segments rest <;> simp

theorem segments_append (before after : List Char) :
    segments (before ++ '.' :: after) = segments before ++ segments after := by
  induction before with
  | nil => rfl
  | cons c rest ih =>
      obtain ⟨part, parts, split⟩ := List.exists_cons_of_ne_nil (segments_ne_nil rest)
      rw [List.cons_append, segments, segments, ih, split]
      cases c == '.' <;> rfl

def names (path : String) : List String :=
  (segments path.toList).map String.ofList

theorem names_ne_nil (path : String) : names path ≠ [] := by
  simpa [names] using segments_ne_nil path.toList

theorem names_append (before after : String) :
    names (before ++ "." ++ after) = names before ++ names after := by
  have chars : (before ++ "." ++ after).toList = before.toList ++ '.' :: after.toList := by
    simp [String.toList_append]
  rw [names, chars, segments_append, List.map_append]
  rfl

def AllNamed (path : String) : Prop :=
  ∀ name ∈ names path, name.isEmpty = false

theorem allNamed_append {before after : String} :
    AllNamed (before ++ "." ++ after) ↔ AllNamed before ∧ AllNamed after := by
  simp only [AllNamed, names_append, List.forall_mem_append]

end Text

namespace Compiler

variable {compiler : Compiler} {owner target expr : Expr} {path name : String} {names : List String}

/-! ### Steps -/

def step (compiler : Compiler) (path : String) (owner : Expr) (name : String) (isLast : Bool) :
    Result Expr := do
  let member ← owner.ty.memberNamed name path
  match compiler.override? member isLast with
  | some override => override.replace owner
  | none => .ok (.member owner member)

theorem follow_cons (compiler : Compiler) (path : String) (owner : Expr) (name : String)
    (rest : List String) :
    compiler.follow path owner (name :: rest) =
      compiler.step path owner name rest.isEmpty >>= fun next => compiler.follow path next rest := by
  rw [follow, step, bind_assoc]
  congr 1
  funext member
  cases compiler.override? member rest.isEmpty <;> rfl

/-- The path is named in errors only. -/
theorem memberNamed_ok {ty : Ty} {member : MemberRef} (other : String)
    (found : ty.memberNamed name path = .ok member) : ty.memberNamed name other = .ok member := by
  unfold Ty.memberNamed at found ⊢
  split at found
  · simp at found
  · exact found
  · simp at found

theorem step_ok {isLast : Bool} (other : String)
    (reached : compiler.step path owner name isLast = .ok expr) :
    compiler.step other owner name isLast = .ok expr := by
  obtain ⟨member, found, rest⟩ := Result.bind_eq_ok.mp reached
  rw [step, memberNamed_ok other found, Result.ok_bind]
  exact rest

theorem follow_ok (other : String) (reached : compiler.follow path owner names = .ok expr) :
    compiler.follow other owner names = .ok expr := by
  induction names generalizing owner with
  | nil => exact reached
  | cons name rest ih =>
      rw [follow_cons] at reached ⊢
      obtain ⟨next, stepped, further⟩ := Result.bind_eq_ok.mp reached
      rw [step_ok other stepped, Result.ok_bind]
      exact ih further

theorem resolvePath_eq_follow (named : Text.AllNamed path) :
    compiler.resolvePath target path = compiler.follow path target (Text.names path) := by
  apply if_neg
  intro blank
  obtain ⟨name, inside, isEmpty⟩ := List.any_eq_true.mp blank
  rw [named name inside] at isEmpty
  simp at isEmpty

theorem resolvePath_eq_error (unnamed : ¬ Text.AllNamed path) :
    compiler.resolvePath target path =
      .error (.malformedExpression ("field path '" ++ path ++ "' has an empty segment")) := by
  apply if_pos
  simp only [Text.AllNamed, not_forall, Bool.not_eq_false] at unnamed
  obtain ⟨name, inside, isEmpty⟩ := unnamed
  exact List.any_eq_true.mpr ⟨name, inside, isEmpty⟩

theorem resolvePath_eq_ok :
    compiler.resolvePath target path = .ok expr ↔
      Text.AllNamed path ∧ compiler.follow path target (Text.names path) = .ok expr := by
  by_cases named : Text.AllNamed path
  · simp [resolvePath_eq_follow named, named]
  · simp [resolvePath_eq_error named, named]

/-! ### Two paths in a row -/

/-- The names of a path that goes on behind them. -/
def walk (compiler : Compiler) (path : String) : Expr → List String → Result Expr
  | owner, [] => .ok owner
  | owner, name :: rest => do
    walk compiler path (← compiler.step path owner name false) rest

theorem follow_append (before : List String) {after : List String} (goesOn : after ≠ []) :
    compiler.follow path owner (before ++ after) =
      compiler.walk path owner before >>= fun next => compiler.follow path next after := by
  induction before generalizing owner with
  | nil => rfl
  | cons name rest ih =>
      have inside : (rest ++ after).isEmpty = false := by simp [goesOn]
      rw [List.cons_append, follow_cons, inside, walk, bind_assoc]
      congr 1
      funext next
      exact ih

/-- The member that the last name of a path stands for has no override that is for the end of paths
only. -/
def EndsAnywhere (compiler : Compiler) (target : Expr) (path : String) : Prop :=
  ∀ (before : List String) (last : String) (owner : Expr) (member : MemberRef) (override : Override),
    Text.names path = before ++ [last] → compiler.walk path target before = .ok owner →
    owner.ty.memberNamed last path = .ok member → compiler.override? member true = some override →
    override.onlyOnDirect = false

theorem override?_eq_some {member : MemberRef} {isLast : Bool} {override : Override} :
    compiler.override? member isLast = some override ↔
      (∃ key entry, member.key? = some key ∧ compiler.overrides.find? (·.1 == key) = some entry ∧
        entry.2 = override) ∧ (override.onlyOnDirect = true → isLast = true) := by
  simp only [override?, Option.bind_eq_bind, Option.bind_eq_some_iff]
  constructor
  · rintro ⟨key, keyed, entry, found, taken⟩
    split at taken
    · rename_i applies
      obtain rfl := Option.some.inj taken
      exact ⟨⟨key, entry, keyed, found, rfl⟩, fun direct => by simpa [direct] using applies⟩
    · simp at taken
  · rintro ⟨⟨key, entry, keyed, found, rfl⟩, direct⟩
    refine ⟨key, keyed, entry, found, if_pos ?_⟩
    cases onlyOnDirect : entry.2.onlyOnDirect with
    | false => rfl
    | true => simpa using direct onlyOnDirect

theorem override?_inside {member : MemberRef}
    (anywhere : ∀ override, compiler.override? member true = some override →
      override.onlyOnDirect = false) :
    compiler.override? member false = compiler.override? member true := by
  apply Option.ext
  intro override
  constructor
  · intro found
    rw [override?_eq_some] at found ⊢
    exact ⟨found.1, fun _ => rfl⟩
  · intro found
    have direct := anywhere override found
    rw [override?_eq_some] at found ⊢
    exact ⟨found.1, fun only => by simp [direct] at only⟩

theorem EndsAnywhere.walk_eq (anywhere : compiler.EndsAnywhere target path) :
    compiler.walk path target (Text.names path) = compiler.follow path target (Text.names path) := by
  obtain ⟨before, last, split⟩ : ∃ before last, Text.names path = before ++ [last] :=
    ⟨_, _, (List.dropLast_append_getLast (Text.names_ne_nil path)).symm⟩
  have walked (names : List String) : compiler.walk path target (before ++ names) =
      compiler.walk path target before >>= fun next => compiler.walk path next names := by
    clear split anywhere
    induction before generalizing target with
    | nil => rfl
    | cons name rest ih =>
        rw [List.cons_append, walk, walk, bind_assoc]
        congr 1
        funext next
        exact ih
  -- Up to the last name the two do the same, and there the override does not ask for the position.
  rw [split, walked, follow_append before (by simp)]
  cases reached : compiler.walk path target before with
  | error fault => rfl
  | ok owner =>
      rw [Result.ok_bind, Result.ok_bind, follow_cons, walk]
      cases found : owner.ty.memberNamed last path with
      | error fault => rw [step, step, found]; rfl
      | ok member =>
          have same := override?_inside fun override =>
            anywhere before last owner member override split reached found
          rw [step, step, found, Result.ok_bind, Result.ok_bind, same]
          rfl

theorem resolvePath_append (anywhere : compiler.EndsAnywhere target path) (further : String) :
    compiler.resolvePath target (path ++ "." ++ further) = .ok expr ↔
      ∃ middle, compiler.resolvePath target path = .ok middle ∧
        compiler.resolvePath middle further = .ok expr := by
  simp only [resolvePath_eq_ok, Text.names_append, Text.allNamed_append]
  constructor
  -- What is reached does not depend on the path that errors name, so all is followed as the first one.
  · rintro ⟨⟨namedFirst, namedSecond⟩, reached⟩
    have onPath := follow_ok path reached
    rw [follow_append _ (Text.names_ne_nil further), anywhere.walk_eq] at onPath
    obtain ⟨middle, first, second⟩ := Result.bind_eq_ok.mp onPath
    exact ⟨middle, ⟨namedFirst, first⟩, namedSecond, follow_ok further second⟩
  · rintro ⟨middle, ⟨namedFirst, first⟩, namedSecond, second⟩
    have onPath : compiler.follow path target (Text.names path ++ Text.names further) = .ok expr := by
      rw [follow_append _ (Text.names_ne_nil further), anywhere.walk_eq, first, Result.ok_bind]
      exact follow_ok path second
    exact ⟨⟨namedFirst, namedSecond⟩, follow_ok _ onPath⟩

end Compiler

/-! ### Reading along a path -/

/-- The outcomes are the same, or they are errors that name places in the same way, one from `start`
and the other one from the target. -/
inductive Relocated (start : String) : Result Value → Result Value → Prop
  | same (outcome : Result Value) : Relocated start outcome outcome
  | nullReference (rest : String) :
      Relocated start (.error (.nullReference (start ++ rest)))
        (.error (.nullReference ("target" ++ rest)))
  | access (value : Value) (rest : String) :
      Relocated start (.error (accessFault value (start ++ rest)))
        (.error (accessFault value ("target" ++ rest)))

theorem Relocated.bind {start : String} {first second : Result Value} {next other : Value → Result Value}
    (relocated : Relocated start first second)
    (further : ∀ value, Relocated start (next value) (other value)) :
    Relocated start (first >>= next) (second >>= other) := by
  cases relocated with
  | nullReference rest => exact .nullReference rest
  | access value rest => exact .access value rest
  | same =>
      cases first with
      | ok value => exact further value
      | error fault => exact .same (.error fault)

theorem Intrinsic.read_relocated (start rest : String) (member : Intrinsic) (value : Value) :
    Relocated start (member.read (start ++ rest) value) (member.read ("target" ++ rest) value) := by
  unfold Intrinsic.read
  split
  case h_12 => exact .access value rest
  all_goals exact .same _

theorem MemberRef.read_relocated (start rest : String) (member : MemberRef) (value : Value) :
    Relocated start (member.read (start ++ rest) value) (member.read ("target" ++ rest) value) := by
  unfold MemberRef.read
  split
  · exact .same _
  · split
    · exact .nullReference rest
    · split
      · exact .same _
      · exact .same _
      · exact Intrinsic.read_relocated start rest _ value
      · exact .access value rest

/-- What `whole` reads from a row, `part` reads from what `middle` has read. -/
structure Expr.Continues (middle whole part : Expr) : Prop where
  ty : part.ty = whole.ty
  place : ∃ rest, whole.text = middle.text ++ rest ∧ part.text = "target" ++ rest
  value : ∀ host row, Relocated middle.text (whole.evaluate host row)
    (middle.evaluate host row >>= part.evaluate host)

namespace Expr.Continues

variable {middle whole part : Expr}

theorem start (middle : Expr) : middle.Continues middle (.target middle.ty) where
  ty := rfl
  place := ⟨"", by simp, by simp [Expr.text]⟩
  value host row := by
    have again : (middle.evaluate host row >>= (Expr.target middle.ty).evaluate host) =
        middle.evaluate host row := by
      cases middle.evaluate host row <;> simp [bind, Except.bind, Expr.evaluate]
    rw [again]
    exact .same _

theorem member (continues : middle.Continues whole part) (access : MemberRef) :
    middle.Continues (.member whole access) (.member part access) := by
  obtain ⟨rest, wholeText, partText⟩ := continues.place
  have wholePlace : (whole.member access).text = middle.text ++ (rest ++ "." ++ access.name) := by
    simp [Expr.text, wholeText, String.append_assoc]
  have partPlace : (part.member access).text = "target" ++ (rest ++ "." ++ access.name) := by
    simp [Expr.text, partText, String.append_assoc]
  refine ⟨rfl, ⟨_, wholePlace, partPlace⟩, ?_⟩
  intro host row
  have regrouped : (middle.evaluate host row >>= (part.member access).evaluate host) =
      (middle.evaluate host row >>= part.evaluate host) >>=
        access.read (part.member access).text := by
    rw [bind_assoc]
    congr 1
  rw [regrouped, Expr.evaluate, wholePlace, partPlace]
  exact (continues.value host row).bind (access.read_relocated _ _)

end Expr.Continues

theorem Compiler.follow_continues {compiler : Compiler} (plain : compiler.overrides = [])
    {middle whole part expr : Expr} {path : String} {names : List String}
    (continues : middle.Continues whole part) (reached : compiler.follow path whole names = .ok expr) :
    ∃ tail, compiler.follow path part names = .ok tail ∧ middle.Continues expr tail := by
  induction names generalizing whole part with
  | nil =>
      obtain rfl := Except.ok.inj reached
      exact ⟨part, rfl, continues⟩
  | cons name rest ih =>
      simp only [follow_cons, step, override?_eq_none plain] at reached ⊢
      obtain ⟨next, stepped, further⟩ := Result.bind_eq_ok.mp reached
      obtain ⟨access, found, here⟩ := Result.bind_eq_ok.mp stepped
      obtain rfl := Except.ok.inj here
      rw [continues.ty, found, Result.ok_bind, Result.ok_bind]
      exact ih (continues.member access) further

/-- A path goes on where its first part ends. Without overrides the second part, from a target of the
type that was reached, reads the same from what the first part has read; only the places that errors
name start at the target. -/
theorem paths_compose {compiler : Compiler} {target : Expr} {first : String}
    (anywhere : compiler.EndsAnywhere target first) (second : String) (expr : Expr) :
    (compiler.resolvePath target (first ++ "." ++ second) = .ok expr ↔
      ∃ middle, compiler.resolvePath target first = .ok middle ∧
        compiler.resolvePath middle second = .ok expr) ∧
    (compiler.overrides = [] → ∀ middle, compiler.resolvePath target first = .ok middle →
      compiler.resolvePath middle second = .ok expr →
      ∃ tail, compiler.resolvePath (.target middle.ty) second = .ok tail ∧
        ∀ host row, Relocated middle.text (expr.evaluate host row)
          (middle.evaluate host row >>= tail.evaluate host)) := by
  refine ⟨Compiler.resolvePath_append anywhere second, ?_⟩
  intro plain middle _ reached
  obtain ⟨named, followed⟩ := Compiler.resolvePath_eq_ok.mp reached
  obtain ⟨tail, again, continues⟩ := Compiler.follow_continues plain (.start middle) followed
  exact ⟨tail, Compiler.resolvePath_eq_ok.mpr ⟨named, again⟩, continues.value⟩

namespace Labels

def labelling : Compiler :=
  ⟨.empty, [(⟨"Base", "id"⟩, ⟨false, fun owner =>
    .ok (.member owner (.record base 1 ⟨"label", .string, .field, .shown, "Base"⟩))⟩)]⟩

theorem labelling_endsAnywhere :
    labelling.EndsAnywhere (.target (.record base)) "id" := by
  intro before last owner member override _ _ _ overridden
  obtain ⟨⟨key, entry, _, found, rfl⟩, _⟩ := Compiler.override?_eq_some.mp overridden
  have only := List.mem_of_find?_eq_some found
  rw [List.mem_singleton.mp only]

/-- The length of a label, through the number that stands for it and directly. -/
theorem paths_compose_label :
    (∃ middle whole, labelling.resolvePath (.target (.record base)) "id" = .ok middle ∧
      labelling.resolvePath middle "length" = .ok whole ∧
      labelling.resolvePath (.target (.record base)) "id.length" = .ok whole) ∧
    ∃ middle whole tail,
      Compiler.resolvePath (.ofCatalog .empty) (.target (.record base)) "label" = .ok middle ∧
      Compiler.resolvePath (.ofCatalog .empty) (.target (.record base)) "label.length" = .ok whole ∧
      Compiler.resolvePath (.ofCatalog .empty) (.target middle.ty) "length" = .ok tail ∧
      ∀ host row, Relocated "target.label" (whole.evaluate host row)
        (middle.evaluate host row >>= tail.evaluate host) := by
  constructor
  · have resolved := (paths_compose labelling_endsAnywhere "length" _).1.mpr ⟨_, rfl, rfl⟩
    exact ⟨_, _, rfl, rfl, resolved⟩
  · have anywhere : Compiler.EndsAnywhere (.ofCatalog .empty) (.target (.record base)) "label" := by
      intro before last owner member override _ _ _ overridden
      rw [Compiler.override?_eq_none rfl] at overridden
      simp at overridden
    obtain ⟨joined, reads⟩ := paths_compose anywhere "length" _
    obtain ⟨middle, first, second⟩ := joined.mp rfl
    obtain rfl := Except.ok.inj first
    obtain ⟨tail, resolved, relocated⟩ := reads rfl _ rfl second
    exact ⟨_, _, tail, rfl, rfl, resolved, relocated⟩

/-- A label that is a character has no length. The error names the place in the whole path, and only
the part of it that is left if the label was read before. -/
theorem joined_path_names_whole_place :
    ∃ middle whole tail : Expr,
      Compiler.resolvePath (.ofCatalog .empty) (.target (.record base)) "label" = .ok middle ∧
      Compiler.resolvePath (.ofCatalog .empty) (.target (.record base)) "label.length" = .ok whole ∧
      Compiler.resolvePath (.ofCatalog .empty) (.target middle.ty) "length" = .ok tail ∧
      whole.evaluate Kennel.keeper (.record derived labelled) =
        .error (.typeError "value of type char cannot be accessed as 'target.label.length'") ∧
      (middle.evaluate Kennel.keeper (.record derived labelled) >>= tail.evaluate Kennel.keeper) =
        .error (.typeError "value of type char cannot be accessed as 'target.length'") ∧
      whole.evaluate Kennel.keeper (.record derived labelled) ≠
        (middle.evaluate Kennel.keeper (.record derived labelled) >>=
          tail.evaluate Kennel.keeper) := by
  refine ⟨_, _, _, rfl, rfl, rfl, rfl, rfl, ?_⟩
  intro same
  have sameText := Error.typeError.inj (Except.error.inj same)
  revert sameText
  decide

end Labels

end RowQuery
