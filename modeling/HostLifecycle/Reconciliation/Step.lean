import HostLifecycle.Reconciliation.Machine

/-!
The ways in which a host is driven: passes over it, parts of a pass that are tried
alone, and what happens between two passes. A step that fails leaves behind whatever
it changed before, and the next step goes on from there.
-/

namespace HostLifecycle.Reconciliation

open Settings

inductive Part where
  | divert
  | checkCredentials
  | handle
deriving DecidableEq, Repr

def Part.logger : Part → Text
  | divert => diversionLogger
  | checkCredentials => "baremetal.host.credentials"
  | handle => "baremetal.host.dispatcher"

inductive Step where
  | tick
  | tickOnce
  | attempt (part : Part) (next : Option State)
  | script (state : State) (behaviours : List Behaviour)
  | offer (change : Offer → Offer)
  | judge (judgement : CredentialKind → Option (Except Fault Outcome))
  | require (keys : Value)
  | validate (kind : Value) (credential : Option Credential)
  | fail (errorType message : Value)
  | fetch
  | remember (kind : CredentialKind) (credential : Option Credential)
  | setVariables (change : Environment → Environment)
  | reload
  | edit (step : RecordStep)

inductive Finding where
  | diverted (isDiverted : Bool)
  | ended (outcome : Outcome)

/-- A part of a pass that was tried alone, and the pass behind it. -/
structure Attempted where
  finding : Except Fault Finding
  start : State
  next : State

inductive StepResult where
  | done
  | ended (outcome : Outcome)
  | attempted (attempted : Attempted)
  | fetched (os rescue : Option Credential)
  | read (value : Value)

namespace Machine

/-- Performs an operation on what surrounds the host. -/
def onSite {α : Type} (action : Attempt Site α) : Attempt Machine α :=
  Attempt.within (·.site) (fun site machine => { machine with site := site }) action

def change (f : Machine → Machine) : Attempt Machine StepResult := fun machine =>
  (.ok .done, f machine)

def perform (part : Part) (service : Service) (logger : Text) :
    Attempt Pass Finding :=
  match part with
  | .divert => do pure (.diverted (← Pass.divert))
  | .checkCredentials => do pure (.ended (← Pass.checkCredentials service logger))
  | .handle => do pure (.ended (← Pass.handle logger))

/-- Tries a part of a pass alone, with another state coming next if one is given.
Nothing is written to the record for it. -/
def attempt (part : Part) (next : Option State) : Attempt Machine Attempted :=
  fun machine =>
    let pass := Pass.of machine.site
    let (finding, after) :=
      (perform part machine.service (machine.logger.getD part.logger)).runOn
        { pass with next := next.getD pass.next }
    (.ok ⟨finding, after.start, after.next⟩, { machine with site := after.site })

def script (state : State) (behaviours : List Behaviour) (machine : Machine) : Machine :=
  let actions := machine.site.actions
  { machine with
    site := { machine.site with
      actions := fun other => if other = state then behaviours else actions other } }

/-- Changes what the provider holds out. A secret store holds out nothing. -/
def reoffer (change : Offer → Offer) (machine : Machine) : Machine :=
  match machine.site.source with
  | .provider offer =>
    { machine with site := { machine.site with source := .provider (change offer) } }
  | .secrets _ _ => machine

def require (keys : Value) : Attempt Machine StepResult := do
  match keys.parts? with
  | some keys =>
    change fun machine => { machine with service := { machine.service with requiredKeys := keys } }
  | none => Attempt.fail .wrongType

def validate (kind : Value) (credential : Option Credential) :
    Attempt Machine Outcome := do
  let kind ← Attempt.ofExcept (CredentialKind.ofValue kind)
  let service := (← get).service
  onSite (Site.validate service kind credential)

def fail (errorType message : Value) : Attempt Machine Outcome := do
  let errorType ← Attempt.ofExcept (ErrorType.ofValue errorType)
  onSite (Site.recordFailure errorType message)

end Machine

def Step.perform : Step → Attempt Machine StepResult
  | tick => do pure (.ended (← Machine.tick))
  | tickOnce => do pure (.ended (← Machine.tickOnce))
  | attempt part next => do pure (.attempted (← Machine.attempt part next))
  | script state behaviours => Machine.change (Machine.script state behaviours)
  | offer change => Machine.change (Machine.reoffer change)
  | judge judgement => Machine.change fun machine =>
    { machine with service := { machine.service with judgement := judgement } }
  | require keys => Machine.require keys
  | validate kind credential => do pure (.ended (← Machine.validate kind credential))
  | fail errorType message => do pure (.ended (← Machine.fail errorType message))
  | fetch => do
    let (os, rescue) ← Machine.onSite Site.fetch
    pure (.fetched os rescue)
  | remember kind credential => do
    Machine.onSite (Site.remember kind credential)
    pure .done
  | setVariables change => Machine.change fun machine =>
    { machine with
      site := { machine.site with environment := change machine.site.environment } }
  | reload => do
    Machine.reload
    pure .done
  | edit step => do
    let value ← Machine.onSite (Site.onHost step.perform)
    pure (.read value)

end HostLifecycle.Reconciliation
