import HostLifecycle.Settings.Given
import HostLifecycle.Settings.Scalar

/-!
The groups of settings. A setting is taken from what is given for its group, else it
has its default. All settings of a group are read before issues are reported, in the
order of the settings.
-/

namespace HostLifecycle.Settings

abbrev Checked (α : Type) := Except (List Issue) α

/-- Applies a checked function to a checked argument and keeps the issues of both. -/
def Checked.apply {α β : Type} (function : Checked (α → β)) (argument : Checked α) :
    Checked β :=
  match function, argument with
  | .ok f, .ok x => .ok (f x)
  | .ok _, .error issues => .error issues
  | .error issues, .ok _ => .error issues
  | .error issues, .error others => .error (issues ++ others)

def Given.read {α : Type} (given : Given) (name : Text)
    (reader : Value → Except IssueCause α) (default : α) : Checked α :=
  match given.value? name with
  | none => .ok default
  | some value =>
    match reader value with
    | .ok x => .ok x
    | .error cause => .error [⟨[name], cause⟩]

inductive LineFormat where
  | json
  | text
deriving DecidableEq, Repr

def LineFormat.name : LineFormat → Text
  | json => "json"
  | text => "text"

def readFormat (value : Value) : Except IssueCause LineFormat := do
  let name := Text.lower (← readText value)
  if name == "json" then pure .json
  else if name == "text" then pure .text
  else throw (.unknownFormat name)

structure LogSettings where
  level : Text
  format : LineFormat
  file : Text
deriving DecidableEq, Repr

structure VaultSettings where
  enabled : Bool
  addr : Text
  token : Text
  roleId : Text
  secretId : Text
  mountPath : Text
  space : Text
deriving DecidableEq, Repr

/-- Where the credentials of a host are stored, and the names of their data keys. -/
structure SshSettings where
  osSecretPath : Text
  rescueSecretPath : Text
  nameKey : Text
  publicKeyKey : Text
  privateKeyKey : Text
deriving DecidableEq, Repr

structure EventSettings where
  logFile : Text
  maxEvents : Int
  redactionEnabled : Bool
deriving DecidableEq, Repr

/-- The data keys that every credential has to carry, in the order name, public
key, private key. -/
def SshSettings.requiredKeys (settings : SshSettings) : List Text :=
  [settings.nameKey, settings.publicKeyKey, settings.privateKeyKey]

/-- A group of settings: its name, the name of its shape, the usual beginning of the
names of its variables, the names of its settings, and how they are read. -/
structure SettingsGroup (α : Type) where
  name : Text
  shape : Text
  start : Text
  settings : List Text
  build : Given → Checked α

def LogSettings.build (given : Given) : Checked LogSettings :=
  Checked.apply (Checked.apply (Checked.apply (.ok LogSettings.mk)
    (given.read "level" readText "INFO"))
    (given.read "format" readFormat .json))
    (given.read "file" readText "")

/-- Whether the settings name a way to authenticate: a token, or a role with its
secret. -/
def VaultSettings.canAuthenticate (settings : VaultSettings) : Bool :=
  settings.token != "" || settings.roleId != "" && settings.secretId != ""

/-- Refuses an enabled server without a way to authenticate. -/
def VaultSettings.check (settings : VaultSettings) : Checked VaultSettings :=
  if settings.enabled && !settings.canAuthenticate then
    .error [⟨[], .missingVaultAuthentication⟩]
  else .ok settings

/-- Reads the connection to the secret server. -/
def VaultSettings.build (given : Given) : Checked VaultSettings :=
  let settings := Checked.apply (Checked.apply (Checked.apply (Checked.apply
    (Checked.apply (Checked.apply (Checked.apply (.ok VaultSettings.mk)
    (given.read "enabled" readBool false))
    (given.read "addr" readText "http://localhost:8200"))
    (given.read "token" readText ""))
    (given.read "role_id" readText ""))
    (given.read "secret_id" readText ""))
    (given.read "mount_path" readText "secret"))
    (given.read "namespace" readText "")
  match settings with
  | .ok settings => settings.check
  | .error issues => .error issues

def SshSettings.build (given : Given) : Checked SshSettings :=
  Checked.apply (Checked.apply (Checked.apply (Checked.apply
    (Checked.apply (.ok SshSettings.mk)
    (given.read "os_secret_path" readText ""))
    (given.read "rescue_secret_path" readText ""))
    (given.read "name_key" readText "name"))
    (given.read "public_key_key" readText "public-key"))
    (given.read "private_key_key" readText "private-key")

/-- Reads where and how the audit trail is kept. -/
def EventSettings.build (given : Given) : Checked EventSettings :=
  Checked.apply (Checked.apply (Checked.apply (.ok EventSettings.mk)
    (given.read "log_file" readText ""))
    (given.read "max_events" readInt 500))
    (given.read "redaction_enabled" readBool true)

namespace SettingsGroup

def logging : SettingsGroup LogSettings where
  name := "logging"
  shape := "LoggingSettings"
  start := "LOG_"
  settings := ["level", "format", "file"]
  build := LogSettings.build

def vault : SettingsGroup VaultSettings where
  name := "vault"
  shape := "VaultSettings"
  start := "VAULT_"
  settings :=
    ["enabled", "addr", "token", "role_id", "secret_id", "mount_path", "namespace"]
  build := VaultSettings.build

def ssh : SettingsGroup SshSettings where
  name := "ssh"
  shape := "SSHSecretSettings"
  start := "SSH_"
  settings :=
    ["os_secret_path", "rescue_secret_path", "name_key", "public_key_key",
     "private_key_key"]
  build := SshSettings.build

def events : SettingsGroup EventSettings where
  name := "events"
  shape := "EventSettings"
  start := "EVENT_"
  settings := ["log_file", "max_events", "redaction_enabled"]
  build := EventSettings.build

/-- Reads a group from arguments and what stands behind them, and keeps its issues. -/
def check {α : Type} (group : SettingsGroup α) (arguments : Fields Value) (sources : Sources) :
    Reading (Checked α) := do
  let given ← Given.gather group.start group.settings arguments sources
  pure (group.build given)

def settle {α : Type} (checked : Checked α) : Except Fault α :=
  match checked with
  | .ok settings => .ok settings
  | .error issues => .error (.settings issues)

def read {α : Type} (group : SettingsGroup α) (arguments : Fields Value) (sources : Sources) :
    Reading α := do
  let checked ← group.check arguments sources
  Attempt.ofExcept (settle checked)

end SettingsGroup

end HostLifecycle.Settings
