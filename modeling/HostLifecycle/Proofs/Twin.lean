import HostLifecycle.Proofs.Attempt

/-!
Two runs side by side. Two results are paired if they are related or the same fault, and two
ends match if the states in them are related as well. Two computations are twins if from related
states they come to ends that match. Twins are put together to twins, so that a pair of long
computations only asks for the pairs of their steps.
-/

namespace HostLifecycle.Attempt

variable {σ τ α β γ δ ε : Type}

/-- Two results that are related, or the same fault twice. -/
inductive Paired (related : α → β → Prop) : Except ε α → Except ε β → Prop where
  | error (fault : ε) : Paired related (.error fault) (.error fault)
  | ok {x : α} {y : β} (hrelated : related x y) : Paired related (.ok x) (.ok y)

theorem Paired.bind {first : α → β → Prop} {second : γ → δ → Prop} {result : Except ε α}
    {result' : Except ε β} {next : α → Except ε γ} {next' : β → Except ε δ}
    (h : Paired first result result')
    (hnext : ∀ x y, first x y → Paired second (next x) (next' y)) :
    Paired second (result >>= next) (result' >>= next') := by
  cases h with
  | error fault => exact .error fault
  | ok hrelated => exact hnext _ _ hrelated

theorem Paired.imp {first second : α → β → Prop} {result : Except ε α} {result' : Except ε β}
    (h : Paired first result result') (himp : ∀ x y, first x y → second x y) :
    Paired second result result' := by
  cases h with
  | error fault => exact .error fault
  | ok hrelated => exact .ok (himp _ _ hrelated)

theorem Paired.map {first : α → β → Prop} {second : γ → δ → Prop} {result : Except ε α}
    {result' : Except ε β} {f : α → γ} {g : β → δ} (h : Paired first result result')
    (hmap : ∀ x y, first x y → second (f x) (g y)) :
    Paired second (result.map f) (result'.map g) := by
  cases h with
  | error fault => exact .error fault
  | ok hrelated => exact .ok (hmap _ _ hrelated)

theorem paired_eq (result : Except ε α) : Paired Eq result result := by
  cases result with
  | error fault => exact .error fault
  | ok x => exact .ok rfl

/-- Behind the same result two steps go on with it. -/
theorem paired_bind {second : γ → δ → Prop} (result : Except ε α) {next : α → Except ε γ}
    {next' : α → Except ε δ} (hnext : ∀ x, Paired second (next x) (next' x)) :
    Paired second (result >>= next) (result >>= next') := by
  apply (paired_eq result).bind
  rintro x _ rfl
  exact hnext x

theorem Paired.eq {result result' : Except ε α} (h : Paired Eq result result') :
    result = result' := by
  cases h with
  | error fault => rfl
  | ok hrelated => rw [hrelated]

/-- Two ends with related results, or in the same fault, and with related states. -/
structure Matched (related : σ → σ → Prop) (results : α → β → Prop) (run : Except Fault α × σ)
    (run' : Except Fault β × σ) : Prop where
  result : Paired results run.1 run'.1
  behind : related run.2 run'.2

/-- From related states two computations come to ends that match. -/
def Twin (related : σ → σ → Prop) (results : α → β → Prop) (action : Attempt σ α)
    (action' : Attempt σ β) : Prop :=
  ∀ state state', related state state' →
    Matched related results (action.runOn state) (action'.runOn state')

variable {related : σ → σ → Prop} {results : α → β → Prop} {state state' : σ}

/-- From equal states a computation ends as it ends. -/
theorem twin_refl (action : Attempt σ α) : Twin Eq Eq action action := by
  rintro state _ rfl
  exact ⟨paired_eq _, rfl⟩

theorem twin_ofExcept {result : Except Fault α} {result' : Except Fault β}
    (h : Paired results result result') :
    Twin related results (ofExcept result) (ofExcept result') :=
  fun _ _ hrelated => ⟨h, hrelated⟩

theorem twin_pure {x : α} {y : β} (h : results x y) : Twin related results (pure x) (pure y) :=
  twin_ofExcept (.ok h)

theorem twin_fail (fault : Fault) : Twin related results (fail fault) (fail fault) :=
  twin_ofExcept (.error fault)

theorem Twin.imp {action : Attempt σ α} {action' : Attempt σ β} {weaker : α → β → Prop}
    (haction : Twin related results action action') (himp : ∀ x y, results x y → weaker x y) :
    Twin related weaker action action' := by
  intro state state' hrelated
  obtain ⟨hresult, hbehind⟩ := haction state state' hrelated
  exact ⟨hresult.imp himp, hbehind⟩

/-- Behind ends that match two computations go on to ends that match in a weaker sense, as long
as the states in a fault match in it as well. -/
theorem Matched.bind_weaker {behind : σ → σ → Prop} {second : γ → δ → Prop} {action : Attempt σ α}
    {action' : Attempt σ β} {next : α → Attempt σ γ} {next' : β → Attempt σ δ}
    (h : Matched related results (action.runOn state) (action'.runOn state'))
    (hweaker : ∀ changed changed', related changed changed' → behind changed changed')
    (hnext : ∀ x y, results x y → ∀ changed changed', related changed changed' →
      Matched behind second ((next x).runOn changed) ((next' y).runOn changed')) :
    Matched behind second ((action >>= next).runOn state)
      ((action' >>= next').runOn state') := by
  obtain ⟨hresult, hbehind⟩ := h
  rcases hrun : action.runOn state with ⟨result, changed⟩
  rcases hrun' : action'.runOn state' with ⟨result', changed'⟩
  rw [hrun, hrun'] at hresult hbehind
  cases hresult with
  | error fault =>
    rw [runOn_bind_error hrun, runOn_bind_error hrun']
    exact ⟨.error fault, hweaker _ _ hbehind⟩
  | ok hsame =>
    rw [runOn_bind_ok hrun, runOn_bind_ok hrun']
    exact hnext _ _ hsame changed changed' hbehind

theorem Matched.weaken {behind : σ → σ → Prop} {run : Except Fault α × σ}
    {run' : Except Fault β × σ} (h : Matched related results run run')
    (hweaker : ∀ changed changed', related changed changed' → behind changed changed') :
    Matched behind results run run' :=
  ⟨h.result, hweaker _ _ h.behind⟩

/-- Behind ends that match two computations go on as twins. -/
theorem Matched.bind {second : γ → δ → Prop} {action : Attempt σ α} {action' : Attempt σ β}
    {next : α → Attempt σ γ} {next' : β → Attempt σ δ}
    (h : Matched related results (action.runOn state) (action'.runOn state'))
    (hnext : ∀ x y, results x y → Twin related second (next x) (next' y)) :
    Matched related second ((action >>= next).runOn state)
      ((action' >>= next').runOn state') :=
  h.bind_weaker (fun _ _ => id) hnext

theorem Matched.caught {action : Attempt σ α} {action' : Attempt σ β}
    (h : Matched related results (action.runOn state) (action'.runOn state')) :
    Matched related (Paired results) (action.caught.runOn state)
      (action'.caught.runOn state') := by
  obtain ⟨hresult, hbehind⟩ := h
  constructor
  · rw [runOn_caught, runOn_caught]
    rcases hrun : action.runOn state with ⟨result, changed⟩
    rcases hrun' : action'.runOn state' with ⟨result', changed'⟩
    rw [hrun, hrun'] at hresult
    cases hresult with
    | error fault =>
      cases fault with
      | lifecycle error => exact .ok (.error error)
      | _ => exact .error _
    | ok hsame => exact .ok (.ok hsame)
  · rw [runOn_caught_state, runOn_caught_state]
    exact hbehind

theorem Twin.bind {second : γ → δ → Prop} {action : Attempt σ α} {action' : Attempt σ β}
    {next : α → Attempt σ γ} {next' : β → Attempt σ δ}
    (haction : Twin related results action action')
    (hnext : ∀ x y, results x y → Twin related second (next x) (next' y)) :
    Twin related second (action >>= next) (action' >>= next') :=
  fun _ _ hrelated => (haction _ _ hrelated).bind hnext

/-- Behind the same result two computations go on with it. -/
theorem Twin.then {second : γ → δ → Prop} {action action' : Attempt σ α}
    {next : α → Attempt σ γ} {next' : α → Attempt σ δ} (haction : Twin related Eq action action')
    (hnext : ∀ x, Twin related second (next x) (next' x)) :
    Twin related second (action >>= next) (action' >>= next') := by
  apply haction.bind
  rintro x _ rfl
  exact hnext x

/-- Two computations that go on with the states they find. -/
theorem twin_get_bind {next : σ → Attempt σ α} {next' : σ → Attempt σ β}
    (hnext : ∀ state state', related state state' →
      Twin related results (next state) (next' state')) :
    Twin related results (get >>= next) (get >>= next') := by
  intro state state' hrelated
  rw [runOn_bind, runOn_bind, runOn_get, runOn_get]
  exact hnext state state' hrelated state state' hrelated

theorem twin_modify {change change' : σ → σ}
    (hchange : ∀ state state', related state state' → related (change state) (change' state')) :
    Twin related Eq (modify change) (modify change') :=
  fun state state' hrelated => ⟨.ok rfl, hchange state state' hrelated⟩

/-- Where both faults are part of the results, the results are paired. -/
theorem Twin.settled {action : Attempt σ α} {action' : Attempt σ β}
    (haction : Twin related results action action') :
    Twin related (Paired results) action.settled action'.settled :=
  fun _ _ hrelated => ⟨.ok (haction _ _ hrelated).result, (haction _ _ hrelated).behind⟩

theorem Twin.caught {action : Attempt σ α} {action' : Attempt σ β}
    (haction : Twin related results action action') :
    Twin related (Paired results) action.caught action'.caught :=
  fun _ _ hrelated => (haction _ _ hrelated).caught

/-- Twins on a part of the state are twins on the whole. -/
theorem Twin.within {part : σ → τ} {store : τ → σ → σ} {inner : τ → τ → Prop}
    {action : Attempt τ α} {action' : Attempt τ β} (haction : Twin inner results action action')
    (hpart : ∀ state state', related state state' → inner (part state) (part state'))
    (hstore : ∀ state state' changed changed', related state state' → inner changed changed' →
      related (store changed state) (store changed' state')) :
    Twin related results (Attempt.within part store action)
      (Attempt.within part store action') := by
  intro state state' hrelated
  obtain ⟨hresult, hbehind⟩ := haction _ _ (hpart state state' hrelated)
  rw [runOn_within, runOn_within]
  exact ⟨hresult, hstore _ _ _ _ hrelated hbehind⟩

end HostLifecycle.Attempt
