import HostLifecycle.Audit.Recorder
import HostLifecycle.Settings.App

/-!
The recorders of a process: one that is at hand, and one that all hosts share. The
shared one is made from the settings when it is first asked for, and the settings
are read once.
-/

namespace HostLifecycle.Audit

open Settings Storage

def Recorder.ofSettings (settings : EventSettings) : Except Fault Recorder := do
  let logFile := if settings.logFile == "" then none else some (Path.ofText settings.logFile)
  let capacity ← capacityOf (.int settings.maxEvents)
  pure (new logFile capacity settings.redactionEnabled)

/-- The recorders of a process, its settings once they are read, and what it works
in. -/
structure Desk where
  own : Recorder
  shared : Option Recorder
  settings : Option AppSettings
  environment : Environment
  around : Surroundings

/-- How a recorder is described: by arguments, by the settings of the process, or by
arguments for settings. -/
inductive RecorderPlan where
  | arguments (arguments : Value)
  | settings
  | group (arguments : Value)

namespace Desk

def ofProcess (environment : Environment) (around : Surroundings) : Desk :=
  ⟨Recorder.new none (some defaultCapacity) true, none, none, environment, around⟩

def reading {α : Type} (action : Sources → Reading α) : Attempt Desk α := fun desk =>
  let (result, journal) :=
    (action ⟨desk.environment, desk.around.disk⟩).runOn desk.around.journal
  (result, { desk with around := { desk.around with journal := journal } })

/-- The settings of the process, which are read when they are first asked for. -/
def appSettings : Attempt Desk AppSettings := do
  match (← get).settings with
  | some settings => pure settings
  | none =>
    let settings ← reading AppSettings.read
    modify fun desk => { desk with settings := some settings }
    pure settings

def eventSettings (arguments : Value) : Attempt Desk EventSettings :=
  match arguments with
  | .object fields => reading (SettingsGroup.events.read fields)
  | _ => Attempt.fail .wrongType

def planned : RecorderPlan → Attempt Desk Recorder
  | .arguments arguments => Attempt.ofExcept (Recorder.ofArguments arguments)
  | .settings => do
    let settings ← appSettings
    Attempt.ofExcept (Recorder.ofSettings settings.events)
  | .group arguments => do
    let settings ← eventSettings arguments
    Attempt.ofExcept (Recorder.ofSettings settings)

def renew (plan : RecorderPlan) : Attempt Desk Unit := do
  let recorder ← planned plan
  modify fun desk => { desk with own := recorder }

/-- Performs an operation on the recorder at hand. -/
def onOwn {α : Type} (action : Attempt Trail α) : Attempt Desk α :=
  Attempt.within (fun desk => ⟨desk.own, desk.around⟩)
    (fun trail desk => { desk with own := trail.recorder, around := trail.around }) action

def share : Attempt Desk Recorder := do
  match (← get).shared with
  | some recorder => pure recorder
  | none =>
    let recorder ← planned .settings
    modify fun desk => { desk with shared := some recorder }
    pure recorder

def onShared {α : Type} (action : Attempt Trail α) : Attempt Desk α := do
  let recorder ← share
  Attempt.within (fun desk => ⟨desk.shared.getD recorder, desk.around⟩)
    (fun trail desk => { desk with shared := some trail.recorder, around := trail.around })
    action

/-- Performs an operation on the shared recorder or on the one at hand. -/
def on {α : Type} (isShared : Bool) (action : Attempt Trail α) : Attempt Desk α :=
  if isShared then onShared action else onOwn action

def query (isShared : Bool) (arguments : Value) : Attempt Desk (List Value) := do
  let fields ← Attempt.ofExcept (arguments.arguments ["limit", "host", "reason"])
  let given (name : Text) (default : Value) : Value := (fields.get? name).getD default
  on isShared <| Trail.query (given "limit" (.int Trail.defaultLimit))
    (given "host" .null) (given "reason" .null)

end Desk

end HostLifecycle.Audit
