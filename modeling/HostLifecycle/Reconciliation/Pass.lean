import HostLifecycle.Reconciliation.Site

/-!
One pass over a host. It starts in the state that the record is in, and it decides
which state comes next; until something is decided the host remains where it is.
The record itself is written once, at the end.
-/

namespace HostLifecycle.Reconciliation

open Logging

/-- A pass over a host: the state in which it started, and the one that comes
next. -/
structure Pass where
  site : Site
  start : State
  next : State

namespace Pass

def of (site : Site) : Pass := ⟨site, site.host.state, site.host.state⟩

def isChanged (pass : Pass) : Bool := pass.next != pass.start

/-- Performs an operation on what surrounds the host. -/
def onSite {α : Type} (action : Attempt Site α) : Attempt Pass α :=
  Attempt.within (·.site) (fun site pass => { pass with site := site }) action

def moveTo (state : State) : Attempt Pass Unit := fun pass =>
  (.ok (), { pass with next := state })

def log (logger : Text) (severity : Severity) (message : Text)
    (extras : Fields Value) : Attempt Pass Unit :=
  onSite (Site.log logger severity message extras)

/-- The host and a state, as they are given beside a message. -/
def hostAt (pass : Pass) (state : State) : Fields Value :=
  [("host", pass.site.host.name), ("state", .str state.text)]

end Pass

end HostLifecycle.Reconciliation
