import HostLifecycle.Attempt

/-!
How computations run, and what they leave alone. A run of several steps is told from the
runs of its steps. A view shows a part of a state, and a computation keeps it if the same
view is left behind, whether the computation ends with a result or in a fault. Views are
kept along every way of putting computations together, so that a view of a long
computation only asks for its steps. What holds of a state is preserved in the same way,
and what a computation yields is told from its last step.
-/

namespace HostLifecycle.Attempt

variable {σ τ α β ν : Type}

/-- A result that was reached in two steps is the one that the second step goes on to from
that of the first. -/
theorem exists_of_bind_ok {ε : Type} {result : Except ε α} {next : α → Except ε β} {y : β}
    (h : result >>= next = .ok y) : ∃ x, result = .ok x ∧ next x = .ok y := by
  cases result with
  | error fault => cases h
  | ok x => exact ⟨x, rfl, h⟩

theorem exists_of_map_ok {ε : Type} {result : Except ε α} {f : α → β} {y : β}
    (h : result.map f = .ok y) : ∃ x, result = .ok x ∧ f x = y := by
  cases result with
  | error fault => cases h
  | ok x =>
    cases h
    exact ⟨x, rfl, rfl⟩

/-- A fault of two steps is one of the first step, or of the second one behind its result. -/
theorem error_of_bind {ε : Type} {result : Except ε α} {next : α → Except ε β} {fault : ε}
    (h : result >>= next = .error fault) :
    result = .error fault ∨ ∃ x, result = .ok x ∧ next x = .error fault := by
  cases result with
  | error fault' =>
    cases h
    exact Or.inl rfl
  | ok x => exact Or.inr ⟨x, rfl, h⟩

theorem error_of_map {ε : Type} {result : Except ε α} {f : α → β} {fault : ε}
    (h : result.map f = .error fault) : result = .error fault := by
  cases result with
  | error fault' =>
    cases h
    rfl
  | ok x => cases h

theorem runOn_bind_ok {action : Attempt σ α} {next : α → Attempt σ β} {state changed : σ}
    {x : α} (h : action.runOn state = (.ok x, changed)) :
    (action >>= next).runOn state = (next x).runOn changed := by
  rw [runOn_bind, h]

theorem runOn_bind_error {action : Attempt σ α} {next : α → Attempt σ β} {state changed : σ}
    {fault : Fault} (h : action.runOn state = (.error fault, changed)) :
    (action >>= next).runOn state = (.error fault, changed) := by
  rw [runOn_bind, h]

theorem runOn_caught (action : Attempt σ α) (state : σ) :
    action.caught.runOn state =
      match action.runOn state with
      | (.ok result, changed) => (.ok (.ok result), changed)
      | (.error (.lifecycle e), changed) => (.ok (.error e), changed)
      | (.error fault, changed) => (.error fault, changed) := rfl

theorem runOn_caught_ok {action : Attempt σ α} {state changed : σ} {x : α}
    (h : action.runOn state = (.ok x, changed)) :
    action.caught.runOn state = (.ok (.ok x), changed) := by
  rw [runOn_caught, h]

/-- Behind a fault a computation goes on with the error of the lifecycle that the fault
is, or else it ends there. -/
theorem runOn_caught_bind_error {action : Attempt σ α}
    {next : Except LifecycleError α → Attempt σ β} {state changed : σ} {fault : Fault}
    (h : action.runOn state = (.error fault, changed)) :
    (∃ error, (action.caught >>= next).runOn state = (next (.error error)).runOn changed) ∨
      (action.caught >>= next).runOn state = (.error fault, changed) := by
  rw [runOn_bind, runOn_caught, h]
  cases fault with
  | lifecycle error => exact Or.inl ⟨error, rfl⟩
  | _ => exact Or.inr rfl

/-- A computation keeps a view of the state, however it ends. -/
def Keeps (view : σ → ν) (action : Attempt σ α) : Prop :=
  ∀ state, view (action.runOn state).2 = view state

variable {view : σ → ν}

theorem keeps_pure (x : α) : Keeps view (pure x : Attempt σ α) :=
  fun _ => rfl

theorem keeps_get : Keeps view (get : Attempt σ σ) :=
  fun _ => rfl

theorem keeps_ofExcept (result : Except Fault α) :
    Keeps view (ofExcept result : Attempt σ α) :=
  fun _ => rfl

theorem keeps_fail (fault : Fault) : Keeps view (fail fault : Attempt σ α) :=
  fun _ => rfl

theorem Keeps.bind {action : Attempt σ α} {next : α → Attempt σ β}
    (haction : Keeps view action) (hnext : ∀ x, Keeps view (next x)) :
    Keeps view (action >>= next) := by
  intro state
  have hfirst := haction state
  rcases hrun : action.runOn state with ⟨fault | x, changed⟩
  · rw [runOn_bind_error hrun]
    simpa only [hrun] using hfirst
  · rw [runOn_bind_ok hrun, hnext x changed]
    simpa only [hrun] using hfirst

theorem Keeps.caught {action : Attempt σ α} (haction : Keeps view action) :
    Keeps view action.caught := by
  intro state
  rw [runOn_caught_state]
  exact haction state

/-- A computation on a part of the state keeps every view that a change of this part
does not reach. -/
theorem keeps_within {part : σ → τ} {store : τ → σ → σ} (action : Attempt τ α)
    (hstore : ∀ changed state, view (store changed state) = view state) :
    Keeps view (Attempt.within part store action) := by
  intro state
  rw [runOn_within]
  exact hstore _ state

/-- A computation preserves what holds of the state, however it ends. -/
def Preserves (invariant : σ → Prop) (action : Attempt σ α) : Prop :=
  ∀ state, invariant state → invariant (action.runOn state).2

variable {invariant : σ → Prop}

/-- What is told from a view is preserved if the view is kept. -/
theorem Keeps.preserves {action : Attempt σ α} (haction : Keeps view action)
    (hview : ∀ state changed, view changed = view state → invariant state → invariant changed) :
    Preserves invariant action :=
  fun state => hview state _ (haction state)

theorem preserves_pure (x : α) : Preserves invariant (pure x : Attempt σ α) :=
  fun _ h => h

theorem preserves_ofExcept (result : Except Fault α) :
    Preserves invariant (ofExcept result : Attempt σ α) :=
  fun _ h => h

theorem Preserves.bind {action : Attempt σ α} {next : α → Attempt σ β}
    (haction : Preserves invariant action) (hnext : ∀ x, Preserves invariant (next x)) :
    Preserves invariant (action >>= next) := by
  intro state hstate
  have hfirst := haction state hstate
  rcases hrun : action.runOn state with ⟨fault | x, changed⟩
  · rw [runOn_bind_error hrun]
    simpa only [hrun] using hfirst
  · rw [runOn_bind_ok hrun]
    exact hnext x changed (by simpa only [hrun] using hfirst)

/-- Every fault that a computation ends in is of a kind. -/
def Fails (kind : Fault → Prop) (action : Attempt σ α) : Prop :=
  ∀ state fault, (action.runOn state).1 = .error fault → kind fault

variable {kind : Fault → Prop}

theorem fails_ofExcept {result : Except Fault α} (h : ∀ fault, result = .error fault → kind fault) :
    Fails kind (ofExcept result : Attempt σ α) :=
  fun _ => h

theorem Fails.bind {action : Attempt σ α} {next : α → Attempt σ β} (haction : Fails kind action)
    (hnext : ∀ x, Fails kind (next x)) : Fails kind (action >>= next) := by
  intro state fault h
  rcases hrun : action.runOn state with ⟨fault' | x, changed⟩
  · rw [runOn_bind_error hrun] at h
    cases h
    exact haction state fault (by rw [hrun])
  · rw [runOn_bind_ok hrun] at h
    exact hnext x changed fault h

/-- Behind a computation that is settled the next one knows which faults it may have to go on
with. -/
theorem Fails.settled_bind {action : Attempt σ α} {next : Except Fault α → Attempt σ β}
    (haction : Fails kind action)
    (hnext : ∀ result, (∀ fault, result = .error fault → kind fault) → Fails kind (next result)) :
    Fails kind (action.settled >>= next) := by
  intro state fault h
  rw [runOn_bind, runOn_settled] at h
  exact hnext _ (haction state) _ fault h

/-- Every result that a computation ends with has a property. -/
def Yields (property : α → Prop) (action : Attempt σ α) : Prop :=
  ∀ state x, (action.runOn state).1 = .ok x → property x

variable {property : α → Prop}

theorem yields_pure {x : α} (h : property x) : Yields property (pure x : Attempt σ α) := by
  intro state y hy
  cases hy
  exact h

theorem yields_bind {action : Attempt σ β} {next : β → Attempt σ α}
    (hnext : ∀ x, Yields property (next x)) : Yields property (action >>= next) := by
  intro state y hy
  rcases hrun : action.runOn state with ⟨fault | x, changed⟩
  · rw [runOn_bind_error hrun] at hy
    cases hy
  · rw [runOn_bind_ok hrun] at hy
    exact hnext x changed y hy

/-- However a computation ends, what it ends with has a property: its result, or its fault. -/
def Ends (property : α → Prop) (kind : Fault → Prop) (action : Attempt σ α) : Prop :=
  Yields property action ∧ Fails kind action

theorem ends_pure {x : α} (h : property x) : Ends property kind (pure x : Attempt σ α) :=
  ⟨yields_pure h, fun _ _ => nofun⟩

theorem ends_ofExcept {result : Except Fault α} (hok : ∀ x, result = .ok x → property x)
    (herror : ∀ fault, result = .error fault → kind fault) :
    Ends property kind (ofExcept result : Attempt σ α) :=
  ⟨fun _ => hok, fun _ => herror⟩

theorem Fails.ends {action : Attempt σ α} (h : Fails kind action) :
    Ends (fun _ => True) kind action :=
  ⟨fun _ _ _ => trivial, h⟩

theorem Ends.imp {action : Attempt σ α} {property' : α → Prop} {kind' : Fault → Prop}
    (h : Ends property kind action) (hproperty : ∀ x, property x → property' x)
    (hkind : ∀ fault, kind fault → kind' fault) : Ends property' kind' action :=
  ⟨fun state x hx => hproperty x (h.1 state x hx),
    fun state fault hfault => hkind fault (h.2 state fault hfault)⟩

theorem Ends.bind {known : β → Prop} {action : Attempt σ β} {next : β → Attempt σ α}
    (haction : Ends known kind action) (hnext : ∀ x, known x → Ends property kind (next x)) :
    Ends property kind (action >>= next) := by
  constructor <;> intro state y hy <;>
    rcases hrun : action.runOn state with ⟨fault | x, changed⟩
  · rw [runOn_bind_error hrun] at hy
    cases hy
  · rw [runOn_bind_ok hrun] at hy
    exact (hnext x (haction.1 state x (by rw [hrun]))).1 changed y hy
  · rw [runOn_bind_error hrun] at hy
    cases hy
    exact haction.2 state y (by rw [hrun])
  · rw [runOn_bind_ok hrun] at hy
    exact (hnext x (haction.1 state x (by rw [hrun]))).2 changed y hy

/-- A computation that is settled ends with what it comes to. -/
theorem Ends.settled {action : Attempt σ α} (h : Ends property kind action) {any : Fault → Prop} :
    Ends (fun result : Except Fault α => (∀ x, result = .ok x → property x) ∧
      ∀ fault, result = .error fault → kind fault) any action.settled := by
  constructor
  · intro state result hresult
    rw [runOn_settled] at hresult
    cases hresult
    exact ⟨h.1 state, h.2 state⟩
  · intro state fault hfault
    rw [runOn_settled] at hfault
    cases hfault

end HostLifecycle.Attempt
