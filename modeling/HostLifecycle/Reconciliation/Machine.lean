import HostLifecycle.Reconciliation.Diversion
import HostLifecycle.Reconciliation.Progress
import HostLifecycle.Reconciliation.Rotation

/-!
The reconciliation of a host. A pass first looks whether the deletion of the host
was requested, then at its credentials, and then handles its state; each of these
may end the pass. However the pass ends, the state that was decided on is written to
the record if it is another one.
-/

namespace HostLifecycle.Reconciliation

/-- The name under which passes are logged unless another one is given. -/
def passLogger : Text := "baremetal.host.state_machine"

namespace Pass

def reportDeletion (logger : Text) : Attempt Pass Outcome := do
  let pass ← get
  log logger .info "Initiating host deletion" (pass.hostAt pass.start)
  pure .complete

def decide (service : Service) (logger : Text) : Attempt Pass Outcome := do
  if ← divert then reportDeletion logger
  else
    let outcome ← checkCredentials service logger
    if outcome.isComplete then handle logger else pure outcome

def changeMessage (pass : Pass) : Text :=
  "Changing provisioning state " ++ pass.start.text ++ " -> " ++ pass.next.text

def changeExtras (pass : Pass) : Fields Value :=
  [("host", pass.site.host.name), ("old_state", .str pass.start.text),
   ("new_state", .str pass.next.text)]

/-- Tells that the state changes, and writes the new one to the record. -/
def writeState (logger : Text) : Attempt Pass Unit := do
  let pass ← get
  log logger .info pass.changeMessage pass.changeExtras
  modify fun pass =>
    { pass with site := { pass.site with host := { pass.site.host with state := pass.next } } }

/-- The pass after the state that was decided on is written, if it is another
one. -/
def committed (logger : Text) (pass : Pass) : Pass :=
  if pass.isChanged then ((writeState logger).runOn pass).2 else pass

def reconcile (service : Service) (logger : Text) : Attempt Pass Outcome :=
  (decide service logger).andFinally (committed logger)

end Pass

/-- A host that is reconciled again and again: what surrounds it, what its provider
asks for, the name under which passes are logged if one is given, and the state that
the latest pass decided on. -/
structure Machine where
  site : Site
  service : Service
  logger : Option Text
  latest : State

namespace Machine

def of (site : Site) (service : Service) (logger : Option Text) : Machine :=
  ⟨site, service, logger, site.host.state⟩

def passName (machine : Machine) : Text := machine.logger.getD passLogger

def tick : Attempt Machine Outcome := fun machine =>
  let (result, pass) :=
    (Pass.reconcile machine.service machine.passName).runOn (Pass.of machine.site)
  (result, { machine with site := pass.site, latest := pass.next })

/-- Makes a pass over the host that leaves no trace in the machine itself. -/
def tickOnce : Attempt Machine Outcome := fun machine =>
  let (result, pass) :=
    (Pass.reconcile machine.service machine.passName).runOn (Pass.of machine.site)
  (result, { machine with site := pass.site })

/-- Puts the host anew, from the document of its record. -/
def reload : Attempt Machine Unit := fun machine =>
  match machine.site.host.reloaded with
  | .ok host =>
    (.ok (), { machine with site := { machine.site with host := host }, latest := host.state })
  | .error fault => (.error fault, machine)

end Machine

end HostLifecycle.Reconciliation
