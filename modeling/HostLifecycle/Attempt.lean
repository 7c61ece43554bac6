import HostLifecycle.Fault

/-!
Computations that change a state and may end in a fault. A fault ends the rest of
the computation, but what was changed before it stays changed. The lemmas say what
each way of putting computations together does to a state.
-/

namespace HostLifecycle

abbrev Attempt (σ : Type) := ExceptT Fault (StateM σ)

namespace Attempt

variable {σ τ α β : Type}

def runOn (action : Attempt σ α) (state : σ) : Except Fault α × σ :=
  action.run state

/-- The computation that changes nothing and has a given result. -/
def ofExcept (result : Except Fault α) : Attempt σ α :=
  fun state => (result, state)

def fail (fault : Fault) : Attempt σ α :=
  ofExcept (.error fault)

def within (part : σ → τ) (store : τ → σ → σ) (action : Attempt τ α) :
    Attempt σ α :=
  fun state =>
    let (result, changed) := action.runOn (part state)
    (result, store changed state)

def settled (action : Attempt σ α) : Attempt σ (Except Fault α) :=
  fun state =>
    let (result, changed) := action.runOn state
    (.ok result, changed)

/-- Makes an error of the lifecycle part of the result. Every other fault stays
one. -/
def caught (action : Attempt σ α) : Attempt σ (Except LifecycleError α) :=
  fun state =>
    match action.runOn state with
    | (.ok result, changed) => (.ok (.ok result), changed)
    | (.error (.lifecycle e), changed) => (.ok (.error e), changed)
    | (.error fault, changed) => (.error fault, changed)

/-- Runs a computation, and a change of the state behind it however it ends. -/
def andFinally (action : Attempt σ α) (change : σ → σ) : Attempt σ α :=
  fun state =>
    let (result, changed) := action.runOn state
    (result, change changed)

/-- Runs computations one after the other, each on the state that the one before left
behind, and gives all results with the states behind them. A fault ends only the
computation in which it arises. -/
def each : List (Attempt σ α) → σ → List (Except Fault α × σ)
  | [], _ => []
  | action :: rest, state =>
    let (result, changed) := action.runOn state
    (result, changed) :: each rest changed

@[simp] theorem runOn_pure (x : α) (state : σ) :
    (pure x : Attempt σ α).runOn state = (.ok x, state) := rfl

@[simp] theorem runOn_bind (action : Attempt σ α) (next : α → Attempt σ β) (state : σ) :
    (action >>= next).runOn state =
      match action.runOn state with
      | (.ok x, changed) => (next x).runOn changed
      | (.error fault, changed) => (.error fault, changed) := by
  simp only [runOn, ExceptT.run_bind]
  simp only [bind, StateT.bind]
  cases hrun : action.run state with
  | mk result changed => cases result <;> rfl

@[simp] theorem runOn_get (state : σ) :
    (get : Attempt σ σ).runOn state = (.ok state, state) := rfl

@[simp] theorem runOn_modify (change : σ → σ) (state : σ) :
    (modify change : Attempt σ Unit).runOn state = (.ok (), change state) := rfl

@[simp] theorem runOn_ofExcept (result : Except Fault α) (state : σ) :
    (ofExcept result : Attempt σ α).runOn state = (result, state) := rfl

@[simp] theorem runOn_fail (fault : Fault) (state : σ) :
    (fail fault : Attempt σ α).runOn state = (.error fault, state) := rfl

@[simp] theorem runOn_within (part : σ → τ) (store : τ → σ → σ) (action : Attempt τ α)
    (state : σ) :
    (within part store action).runOn state =
      ((action.runOn (part state)).1, store (action.runOn (part state)).2 state) := rfl

@[simp] theorem runOn_settled (action : Attempt σ α) (state : σ) :
    action.settled.runOn state =
      (.ok (action.runOn state).1, (action.runOn state).2) := rfl

@[simp] theorem runOn_andFinally (action : Attempt σ α) (change : σ → σ) (state : σ) :
    (action.andFinally change).runOn state =
      ((action.runOn state).1, change (action.runOn state).2) := rfl

/-- What a computation changes stays changed when its error is caught. -/
theorem runOn_caught_state (action : Attempt σ α) (state : σ) :
    (action.caught.runOn state).2 = (action.runOn state).2 := by
  have hcaught : action.caught.runOn state =
      match action.runOn state with
      | (.ok result, changed) => (.ok (.ok result), changed)
      | (.error (.lifecycle e), changed) => (.ok (.error e), changed)
      | (.error fault, changed) => (.error fault, changed) := rfl
  rw [hcaught]
  rcases action.runOn state with ⟨fault | x, changed⟩
  · cases fault <;> rfl
  · rfl

end Attempt

end HostLifecycle
