import LineScript.Console

/-! Laws of actions, and the values that an action can return, whatever the world answers. A
run that ends well ends in one of them, and each part of a composed action has returned
before the whole does. -/
namespace LineScript.Action

variable {ε α β : Type}

theorem mapError_bind {δ : Type} (convert : ε → δ) (action : Action ε α) (next : α → Action ε β) :
    (action >>= next).mapError convert =
      action.mapError convert >>= fun value => (next value).mapError convert := by
  induction action with
  | done value => rfl
  | fail error => rfl
  | ask request answered ih => exact congrArg (ask request) (funext ih)

theorem mapError_mapError {δ γ : Type} (first : ε → δ) (second : δ → γ) (action : Action ε α) :
    (action.mapError first).mapError second = action.mapError (second ∘ first) := by
  induction action with
  | done value => rfl
  | fail error => rfl
  | ask request answered ih => exact congrArg (ask request) (funext ih)

theorem run_mapError {σ δ : Type} (console : Console σ) (convert : ε → δ) (action : Action ε α)
    (world : World σ) :
    (action.mapError convert).run console world =
      ((action.run console world).1.mapError convert, (action.run console world).2) := by
  induction action generalizing world with
  | done value => rfl
  | fail error => rfl
  | ask request answered ih => exact ih _ _

/-- Goes on with the outcome of an action, whether it is a value or an error. -/
def attempt {δ : Type} (action : Action ε α) (next : Except ε α → Action δ β) : Action δ β :=
  match action with
  | done value => next (.ok value)
  | fail error => next (.error error)
  | ask request answered => ask request fun answer => (answered answer).attempt next

theorem run_attempt {σ δ : Type} (console : Console σ) (action : Action ε α)
    (next : Except ε α → Action δ β) (world : World σ) :
    (action.attempt next).run console world =
      (next (action.run console world).1).run console (action.run console world).2 := by
  induction action generalizing world with
  | done value => rfl
  | fail error => rfl
  | ask request answered ih => exact ih _ _

theorem attempt_bind {δ γ : Type} (action : Action ε α) (next : Except ε α → Action δ β)
    (rest : β → Action δ γ) :
    action.attempt next >>= rest = action.attempt fun outcome => next outcome >>= rest := by
  induction action with
  | done value => rfl
  | fail error => rfl
  | ask request answered ih => exact congrArg (ask request) (funext ih)

theorem mapError_attempt {δ γ : Type} (convert : δ → γ) (action : Action ε α)
    (next : Except ε α → Action δ β) :
    (action.attempt next).mapError convert =
      action.attempt fun outcome => (next outcome).mapError convert := by
  induction action with
  | done value => rfl
  | fail error => rfl
  | ask request answered ih => exact congrArg (ask request) (funext ih)

theorem attempt_ofExcept (action : Action ε α) : action.attempt ofExcept = action := by
  induction action with
  | done value => rfl
  | fail error => rfl
  | ask request answered ih => exact congrArg (ask request) (funext ih)

theorem run_bind {σ : Type} {console : Console σ} {action : Action ε α} {world later : World σ}
    {value : α} (ends : action.run console world = (.ok value, later))
    (next : α → Action ε β) :
    (action >>= next).run console world = (next value).run console later := by
  induction action generalizing world with
  | done result =>
    cases ends
    rfl
  | fail error => cases ends
  | ask request answered ih => exact ih _ ends

theorem run_bind_error {σ : Type} {console : Console σ} {action : Action ε α}
    {world later : World σ} {error : ε} (ends : action.run console world = (.error error, later))
    (next : α → Action ε β) : (action >>= next).run console world = (.error error, later) := by
  induction action generalizing world with
  | done result => cases ends
  | fail cause =>
    cases ends
    rfl
  | ask request answered ih => exact ih _ ends

def Returns : Action ε α → α → Prop
  | done value, result => value = result
  | fail _, _ => False
  | ask _ next, result => ∃ answer, (next answer).Returns result

theorem returns_of_run {σ : Type} {console : Console σ} {action : Action ε α} {world : World σ}
    {result : α} (ends : (action.run console world).1 = .ok result) : action.Returns result := by
  induction action generalizing world with
  | done value =>
    cases ends
    rfl
  | fail error => cases ends
  | ask request next ih => exact ⟨_, ih _ ends⟩

theorem returns_bind {action : Action ε α} {next : α → Action ε β} {result : β}
    (returns : (action >>= next).Returns result) :
    ∃ value, action.Returns value ∧ (next value).Returns result := by
  induction action with
  | done value => exact ⟨value, rfl, returns⟩
  | fail error => cases returns
  | ask request answered ih =>
    obtain ⟨answer, later⟩ := returns
    obtain ⟨value, first, second⟩ := ih answer later
    exact ⟨value, ⟨answer, first⟩, second⟩

theorem eq_of_returns_ofExcept {outcome : Except ε α} {result : α}
    (returns : (ofExcept outcome).Returns result) : outcome = .ok result := by
  cases outcome with
  | ok value => exact congrArg _ returns
  | error error => cases returns

theorem returns_mapM {f : α → Action ε β} {list : List α} {results : List β}
    (returns : (list.mapM f).Returns results) : ∀ a ∈ list, ∃ b, (f a).Returns b := by
  induction list generalizing results with
  | nil => simp
  | cons a rest ih =>
    rw [List.mapM_cons] at returns
    obtain ⟨value, here, others⟩ := returns_bind returns
    obtain ⟨values, later, _⟩ := returns_bind others
    exact List.forall_mem_cons.2 ⟨⟨value, here⟩, ih later⟩

theorem returns_foldlM {f : β → α → Action ε β} {list : List α} {start result : β}
    (returns : (list.foldlM f start).Returns result) :
    ∀ a ∈ list, ∃ before after, (f before a).Returns after := by
  induction list generalizing start with
  | nil => simp
  | cons a rest ih =>
    rw [List.foldlM_cons] at returns
    obtain ⟨value, here, later⟩ := returns_bind returns
    exact List.forall_mem_cons.2 ⟨⟨start, value, here⟩, ih later⟩

def Fails : Action ε α → ε → Prop
  | done _, _ => False
  | fail error, cause => error = cause
  | ask _ next, cause => ∃ answer, (next answer).Fails cause

theorem fails_of_run {σ : Type} {console : Console σ} {action : Action ε α} {world : World σ}
    {error : ε} (ends : (action.run console world).1 = .error error) : action.Fails error := by
  induction action generalizing world with
  | done value => cases ends
  | fail cause =>
    cases ends
    rfl
  | ask request next ih => exact ⟨_, ih _ ends⟩

theorem fails_bind {action : Action ε α} {next : α → Action ε β} {error : ε}
    (fails : (action >>= next).Fails error) :
    action.Fails error ∨ ∃ value, (next value).Fails error := by
  induction action with
  | done value => exact .inr ⟨value, fails⟩
  | fail cause => exact .inl fails
  | ask request answered ih =>
    obtain ⟨answer, later⟩ := fails
    exact (ih answer later).imp_left fun first => ⟨answer, first⟩

theorem fails_mapError {δ : Type} {convert : ε → δ} {action : Action ε α} {error : δ}
    (fails : (action.mapError convert).Fails error) : ∃ cause, error = convert cause := by
  induction action with
  | done value => cases fails
  | fail cause => exact ⟨cause, fails.symm⟩
  | ask request next ih =>
    obtain ⟨answer, later⟩ := fails
    exact ih answer later

/-- The first action makes the requests of the second up to some point. There it is done, or
both fail with the same error. -/
inductive Begins : Action ε α → Action ε α → Prop where
  | done (value : α) (longer : Action ε α) : Begins (done value) longer
  | fail (error : ε) : Begins (fail error) (fail error)
  | ask (request : Request) {next longer : request.Answer → Action ε α} :
      (∀ answer, Begins (next answer) (longer answer)) →
      Begins (ask request next) (ask request longer)

theorem Begins.refl (action : Action ε α) : Begins action action := by
  induction action with
  | done value => exact .done value _
  | fail error => exact .fail error
  | ask request next ih => exact .ask request ih

theorem Begins.bind (action : Action ε α) {next longer : α → Action ε β}
    (begins : ∀ value, Begins (next value) (longer value)) :
    Begins (action >>= next) (action >>= longer) := by
  induction action with
  | done value => exact begins value
  | fail error => exact .fail error
  | ask request answered ih => exact .ask request ih

theorem Begins.followed {shorter longer : Action ε α} (begins : Begins shorter longer)
    (next : α → Action ε α) : Begins shorter (longer >>= next) := by
  induction begins with
  | done value longer => exact .done value _
  | fail error => exact .fail error
  | ask request _ ih => exact .ask request ih

/-- When the longer action fails, either the shorter one fails with the same error, or it has
ended well and the error comes from what follows. -/
theorem Begins.run {shorter longer : Action ε α} (begins : Begins shorter longer) {σ : Type}
    {console : Console σ} {world later : World σ} {error : ε}
    (fails : longer.run console world = (.error error, later)) :
    (shorter.run console world).1 = .error error ∨
      ∃ value middle, ∃ rest : Action ε α, shorter.run console world = (.ok value, middle) ∧
        rest.run console middle = (.error error, later) := by
  induction begins generalizing world with
  | done value longer => exact .inr ⟨value, world, longer, rfl, fails⟩
  | fail cause =>
    cases fails
    exact .inl rfl
  | ask request _ ih => exact ih _ fails

end LineScript.Action
