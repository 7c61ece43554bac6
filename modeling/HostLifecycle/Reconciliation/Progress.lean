import HostLifecycle.Reconciliation.Pass

/-!
The progress of a host through its states. Each state but none has an action. Once
the action of a state completes, the host moves on to the successor of that state,
unless another state was decided on before. A host whose image was withdrawn is torn
down in place of the action.
-/

namespace HostLifecycle.Reconciliation

def isCancellable (state : State) : Bool :=
  state.isForward || state = .provisioned

namespace Pass

/-- The state that comes next once the action has completed. What was decided before
stands, but for a teardown, which always ends. -/
def advanced (pass : Pass) : State :=
  if pass.start = .deprovisioning || pass.next = pass.start then
    pass.start.successor?.getD pass.next
  else pass.next

/-- Calls the action of the state in which the pass started. -/
def act : Attempt Pass Outcome := do
  let outcome ← onSite (Site.act (← get).start)
  if outcome.isComplete then
    moveTo (← get).advanced
  pure outcome

def reportUnhandled (logger : Text) : Attempt Pass Outcome := do
  let pass ← get
  log logger .warning ("No handler found for state " ++ pass.start.text)
    (pass.hostAt pass.start)
  pure (.failed (.lifecycle (.unknownState (.str pass.start.text))))

def handle (logger : Text) : Attempt Pass Outcome := do
  let pass ← get
  if !pass.start.isHandled then reportUnhandled logger
  else if isCancellable pass.start && pass.site.host.isCancelled then
    moveTo .deprovisioning
    pure .complete
  else act

end Pass

end HostLifecycle.Reconciliation
