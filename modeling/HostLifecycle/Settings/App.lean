import HostLifecycle.Json.Reader
import HostLifecycle.Settings.Group

/-!
All settings of the library. A group may be given as a whole, by a variable of its
name that holds an object; what that leaves open is read as if the group were
read alone. A file of variables in the working folder stands behind the variables
of the process, setting by setting.
-/

namespace HostLifecycle.Settings

open Storage

structure AppSettings where
  logging : LogSettings
  vault : VaultSettings
  ssh : SshSettings
  events : EventSettings
deriving DecidableEq, Repr

/-- The fields of a group with the names of its settings in their own spelling. -/
def SettingsGroup.respelled {α : Type} (group : SettingsGroup α) (fields : Fields Value) :
    Fields Value :=
  Fields.ofPairs <| fields.map fun (name, value) =>
    match group.settings.find? fun own => own == Text.lower name with
    | some own => (own, value)
    | none => (name, value)

/-- What a source gives for a group: nothing, or a value that is not null. No value is read from
a text in which half of a pair stands alone. -/
def SettingsGroup.givenBy {α : Type} (group : SettingsGroup α) (source : Source)
    (bindings : Fields (Option Text)) : Except Fault (Option Value) :=
  match Environment.lastOf? false bindings group.name with
  | some (some text) =>
    match text.string?.map Json.read with
    | some (.error (.tooDeep container)) => .error (.tooDeep container)
    | none | some (.error _) => .error (.settingsSource .parsingValue group.name source)
    | some (.ok .null) => .ok none
    | some (.ok (.object fields)) => .ok (some (.object (group.respelled fields)))
    | some (.ok value) => .ok (some value)
  | _ => .ok none

structure Whole where
  logging : Option Value
  vault : Option Value
  ssh : Option Value
  events : Option Value

def Whole.ofSource (source : Source) (bindings : Fields (Option Text)) :
    Except Fault Whole := do
  let logging ← SettingsGroup.logging.givenBy source bindings
  let vault ← SettingsGroup.vault.givenBy source bindings
  let ssh ← SettingsGroup.ssh.givenBy source bindings
  let events ← SettingsGroup.events.givenBy source bindings
  pure ⟨logging, vault, ssh, events⟩

/-- One value over another: the fields of two objects are put together. -/
def overlaid (higher lower : Option Value) : Option Value :=
  match higher, lower with
  | some (.object fields), some (.object others) => some (.object (Fields.merge others fields))
  | some value, _ => some value
  | none, lower => lower

def Whole.over (higher lower : Whole) : Whole :=
  ⟨overlaid higher.logging lower.logging, overlaid higher.vault lower.vault,
    overlaid higher.ssh lower.ssh, overlaid higher.events lower.events⟩

def envFile : Path := Path.ofText ".env"

/-- A group that is not given is read alone, and its issues end the reading. -/
def SettingsGroup.alone {α : Type} (group : SettingsGroup α) (sources : Sources)
    (value : Option Value) : Reading (Option α) :=
  match value with
  | some _ => pure none
  | none => do
    let settings ← group.read [] sources
    pure (some settings)

/-- A fault of reading a group as an issue of that group, if it is one. -/
def issuesOf {α : Type} (name : Text) (result : Except Fault (Checked α)) :
    Except Fault (Checked α) :=
  match result with
  | .ok (.error issues) => .ok (.error (issues.map (Issue.under name)))
  | .error (.settingsSource problem field source) =>
    .ok (.error [⟨[name], .raised (Fault.settingsSource problem field source).message⟩])
  | .error (.commandLine problem) => .ok (.error [⟨[name], .raised problem.message⟩])
  | .error .secretsNoFolder => .ok (.error [⟨[name], .raised Fault.secretsNoFolder.message⟩])
  | result => result

/-- A group that is given, with what it leaves open read as if it were alone. -/
def SettingsGroup.within {α : Type} (group : SettingsGroup α) (sources : Sources)
    (known : Option α) (value : Option Value) : Reading (Checked α) :=
  match known, value with
  | some settings, _ => pure (.ok settings)
  | none, some (.object fields) => do
    let result ← (group.check fields sources).settled
    Attempt.ofExcept (issuesOf group.name result)
  | none, _ => pure (.error [⟨[group.name], .notGroup group.shape⟩])

def AppSettings.read (sources : Sources) : Reading AppSettings := do
  let inFile ← fileBindings (.ok .utf8) sources envFile
  let inProcess : Fields (Option Text) := sources.environment.map fun (k, v) => (k, some v)
  let higher ← Attempt.ofExcept (Whole.ofSource .environment inProcess)
  let lower ← Attempt.ofExcept (Whole.ofSource .file inFile)
  let whole := higher.over lower
  let logging ← SettingsGroup.logging.alone sources whole.logging
  let vault ← SettingsGroup.vault.alone sources whole.vault
  let ssh ← SettingsGroup.ssh.alone sources whole.ssh
  let events ← SettingsGroup.events.alone sources whole.events
  let logging ← SettingsGroup.logging.within sources logging whole.logging
  let vault ← SettingsGroup.vault.within sources vault whole.vault
  let ssh ← SettingsGroup.ssh.within sources ssh whole.ssh
  let events ← SettingsGroup.events.within sources events whole.events
  Attempt.ofExcept <| SettingsGroup.settle <|
    Checked.apply (Checked.apply (Checked.apply (Checked.apply (.ok AppSettings.mk)
      logging) vault) ssh) events

def shownSecret (secret : Text) : Text :=
  if secret == "" then "" else "**********"

end HostLifecycle.Settings
