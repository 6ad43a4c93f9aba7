import RowQuery.Error

/-! What the outcome of a step promises, whether it succeeds or fails. -/

namespace RowQuery

/-- Whether an error says that a value is not of the type that it is taken for. -/
def Error.isMismatch : Error → Bool
  | .typeError _ | .missingSlot .. => true
  | _ => false

namespace Result

variable {α β : Type}

theorem ok_bind (value : α) (next : α → Result β) : (.ok value >>= next) = next value := rfl

theorem bind_eq_ok {first : Result α} {next : α → Result β} {value : β} :
    (first >>= next) = .ok value ↔ ∃ found, first = .ok found ∧ next found = .ok value := by
  cases first <;> simp [bind, Except.bind]

theorem pure_eq_ok {found value : α} : (pure found : Result α) = .ok value ↔ found = value := by
  simp [pure, Except.pure]

theorem map_eq_ok {outcome : Result α} {wrap : α → β} {value : β} :
    outcome.map wrap = .ok value ↔ ∃ found, outcome = .ok found ∧ wrap found = value := by
  cases outcome <;> simp [Except.map]

theorem map_some_eq_ok {outcome : Result α} {value : α} :
    outcome.map some = .ok (some value) ↔ outcome = .ok value := by
  cases outcome <;> simp [Except.map]

theorem eq_ok_of_toOption {outcome : Result α} {value : α} (found : outcome.toOption = some value) :
    outcome = .ok value := by
  cases outcome <;> simp_all [Except.toOption]

def Meets (post : α → Prop) (fault : Error → Prop) : Result α → Prop
  | .ok value => post value
  | .error error => fault error

theorem Meets.bind {post : α → Prop} {goal : β → Prop} {fault : Error → Prop} {first : Result α}
    {next : α → Result β} (met : Meets post fault first)
    (further : ∀ value, post value → Meets goal fault (next value)) :
    Meets goal fault (first >>= next) := by
  cases first with
  | ok value => exact further value met
  | error error => exact met

theorem Meets.reached {post : α → Prop} {fault : Error → Prop} {outcome : Result α}
    (met : Meets post fault outcome) :
    Meets (fun value => outcome = .ok value ∧ post value) fault outcome := by
  cases outcome with
  | ok value => exact ⟨rfl, met⟩
  | error error => exact met

theorem Meets.mono {post goal : α → Prop} {fault allowed : Error → Prop} {outcome : Result α}
    (met : Meets post fault outcome) (stronger : ∀ value, post value → goal value)
    (fewer : ∀ error, fault error → allowed error) : Meets goal allowed outcome := by
  cases outcome with
  | ok value => exact stronger value met
  | error error => exact fewer error met

def Yields (post : α → Prop) (outcome : Result α) : Prop :=
  ∀ value, outcome = .ok value → post value

theorem Yields.ok {post : α → Prop} {value : α} (holds : post value) : Yields post (.ok value) := by
  intro found same
  rw [← Except.ok.inj same]
  exact holds

theorem Yields.error {post : α → Prop} {error : Error} : Yields post (.error error) := by
  intro found impossible
  simp at impossible

theorem Yields.bind {post : β → Prop} {first : Result α} {next : α → Result β}
    (further : ∀ value, Yields post (next value)) : Yields post (first >>= next) := by
  intro found bound
  obtain ⟨value, _, reached⟩ := bind_eq_ok.mp bound
  exact further value found reached

theorem Meets.yields {post : α → Prop} {fault : Error → Prop} {outcome : Result α}
    (met : Meets post fault outcome) : Yields post outcome := by
  intro value same
  rw [same] at met
  exact met

def Agree (related : α → β → Prop) : Result α → Result β → Prop
  | .ok first, .ok second => related first second
  | .error first, .error second => first = second
  | .ok _, .error _ | .error _, .ok _ => False

theorem Agree.refl (outcome : Result α) : Agree (· = ·) outcome outcome := by
  cases outcome with
  | ok value => rfl
  | error error => rfl

theorem Agree.bind {γ δ : Type} {related : α → β → Prop} {goal : γ → δ → Prop} {first : Result α}
    {second : Result β} {next : α → Result γ} {follow : β → Result δ}
    (agree : Agree related first second)
    (further : ∀ a b, related a b → Agree goal (next a) (follow b)) :
    Agree goal (first >>= next) (second >>= follow) := by
  cases first with
  | ok a =>
      cases second with
      | ok b => exact further a b agree
      | error error => exact agree.elim
  | error error =>
      cases second with
      | ok b => exact agree.elim
      | error other => exact agree

/-- What is done to the result of one side does not make it fail. -/
theorem Agree.pure_left {γ : Type} {related : α → β → Prop} {goal : γ → β → Prop}
    {first : Result α} {second : Result β} {change : α → γ} (agree : Agree related first second)
    (further : ∀ a b, related a b → goal (change a) b) :
    Agree goal (first >>= fun a => pure (change a)) second := by
  have joined : Agree goal (first >>= fun a => pure (change a)) (second >>= pure) :=
    agree.bind further
  rwa [bind_pure] at joined

theorem Agree.reached {related : α → β → Prop} {first : Result α} {second : Result β}
    (agree : Agree related first second) :
    Agree (fun a b => first = .ok a ∧ related a b) first second := by
  cases first with
  | ok a =>
      cases second with
      | ok b => exact ⟨rfl, agree⟩
      | error error => exact agree.elim
  | error error =>
      cases second with
      | ok b => exact agree.elim
      | error other => exact agree

/-- Two outcomes that agree with a third agree with each other. -/
theorem Agree.via {γ : Type} {left : α → β → Prop} {right : α → γ → Prop} {goal : β → γ → Prop}
    {middle : Result α} {first : Result β} {second : Result γ} (toFirst : Agree left middle first)
    (toSecond : Agree right middle second)
    (further : ∀ a b c, left a b → right a c → goal b c) : Agree goal first second := by
  cases middle with
  | ok a =>
      cases first with
      | error error => exact toFirst.elim
      | ok b =>
          cases second with
          | error error => exact toSecond.elim
          | ok c => exact further a b c toFirst toSecond
  | error error =>
      cases first with
      | ok b => exact toFirst.elim
      | error other =>
          cases second with
          | ok c => exact toSecond.elim
          | error third => exact toFirst.symm.trans toSecond

end Result

end RowQuery
