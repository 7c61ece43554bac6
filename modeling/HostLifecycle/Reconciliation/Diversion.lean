import HostLifecycle.Reconciliation.Pass

/-!
The diversion of a host whose deletion was requested. A host in the middle of its
provisioning is torn down first, any other goes straight to its deletion, and one
that is being torn down already is left alone.
-/

namespace HostLifecycle.Reconciliation

def diversionLogger : Text := "baremetal.host.deletion"

/-- The state that a requested deletion leads to instead of another one. -/
def diversion? (next : State) : Option State :=
  if next = .deprovisioning then none
  else if next.isActive then some .deprovisioning
  else some .deleting

namespace Pass

def divertTo (state : State) : Attempt Pass Unit := do
  moveTo state
  log diversionLogger .debug ("Deletion requested in state " ++ (← get).start.text ++
    ", diverting to " ++ state.text) []

/-- Diverts the pass if the deletion of the host was requested, and tells whether
that was so. -/
def divert : Attempt Pass Bool := do
  let pass ← get
  if pass.site.host.deletionRequested then
    match diversion? pass.next with
    | some state => do
      divertTo state
      pure true
    | none => pure false
  else pure false

end Pass

end HostLifecycle.Reconciliation
