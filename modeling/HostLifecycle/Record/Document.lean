import HostLifecycle.Record
import HostLifecycle.Json.Printer
import HostLifecycle.Json.Reader

/-!
The record of a host as a document that can be stored, and back. Writing fails
only where the class of the last error is not one of the known classes; reading
takes an empty value for a missing one wherever that is possible.
-/

namespace HostLifecycle

def InstallImage.toValue (image : InstallImage) : Value :=
  .object [("path", image.path), ("post_install_script", image.postInstallScript)]

/-- The image that a value describes. The script may be left out. -/
def InstallImage.ofValue (value : Value) : Except Fault InstallImage := do
  let fields ← value.arguments ["path", "post_install_script"]
  let path ← Value.required fields "path"
  pure ⟨path, (fields.get? "post_install_script").getD .null⟩

/-- A remembered credential as a value, null if there is none. -/
def SshStatus.entryValue : Option SecretStatus → Value
  | some status => status.toValue
  | none => .null

def SshStatus.toValue (status : SshStatus) : Value :=
  .object [("current_os", entryValue status.os),
    ("current_rescue", entryValue status.rescue)]

/-- The remembered credential that a value describes; an empty value describes
none. -/
def SshStatus.entryOf (value : Option Value) : Except Fault (Option SecretStatus) :=
  match value with
  | none => .ok none
  | some value =>
    if value.isTruthy then (SecretStatus.ofValue value).map some else .ok none

/-- The status of the credentials that a value describes; an empty value describes
that nothing is remembered. -/
def SshStatus.ofValue (value : Value) : Except Fault SshStatus :=
  if value.isTruthy then
    match value with
    | .object fields => do
      let os ← entryOf (Fields.get? fields "current_os")
      let rescue ← entryOf (Fields.get? fields "current_rescue")
      pure ⟨os, rescue⟩
    | _ => .error .noMember
  else .ok empty

def Held.toValue {α : Type} (known : α → Value) : Held α → Value
  | .known content => known content
  | .raw value => value

namespace HostRecord

/-- The class of the last error as a value. A value that counts as something but
is no class has no written form. -/
def errorTypeValue : Held ErrorType → Except Fault Value
  | .known errorType => .ok (.str errorType.text)
  | .raw value => if value.isTruthy then .error .noMember else .ok .null

def toDocument (host : HostRecord) : Except Fault Value := do
  host.offer .toDocument
  let errorType ← errorTypeValue host.errorType
  pure <| .object
    [("name", host.name),
     ("provisioning_state", .str host.state.text),
     ("deletion_requested", .bool host.deletionRequested),
     ("install_image", host.installImage.toValue InstallImage.toValue),
     ("ssh_status", host.sshStatus.toValue SshStatus.toValue),
     ("error_type", errorType),
     ("error_message", host.errorMessage),
     ("error_count", host.errorCount)]

def fieldNames : List Text :=
  ["name", "provisioning_state", "deletion_requested", "install_image",
   "ssh_status", "error_type", "error_message", "error_count"]

/-- The record with the fields of a mapping; what is missing is as in a new record. The
parts that are not plain values are given apart. -/
def ofFields (mapping : Value) (installImage : Held InstallImage)
    (sshStatus : Held SshStatus) (errorType : Held ErrorType) :
    Except Fault HostRecord := do
  let fields ← mapping.arguments fieldNames
  let name ← Value.required fields "name"
  let state ← match fields.get? "provisioning_state" with
    | some value => State.ofValue value
    | none => .ok .none
  pure
    { name := name
      state := state
      deletionRequested := ((fields.get? "deletion_requested").getD .null).isTruthy
      installImage := installImage
      sshStatus := sshStatus
      errorType := errorType
      errorMessage := (fields.get? "error_message").getD (.str "")
      errorCount := (fields.get? "error_count").getD (.int 0)
      hidden := [] }

/-- What a field holds that is read from a value: an empty value stays as it is. -/
def heldOf {α : Type} (read : Value → Except Fault α) (value : Option Value) :
    Except Fault (Held α) :=
  match value with
  | none => .ok (.raw .null)
  | some value =>
    if value.isTruthy then (read value).map .known else .ok (.raw value)

def ofDocument (document : Value) : Except Fault HostRecord := do
  let mapping ← document.toMapping
  let status ← SshStatus.ofValue ((mapping.entry? "ssh_status").getD .null)
  let image ← heldOf InstallImage.ofValue (mapping.entry? "install_image")
  let errorType ← heldOf ErrorType.ofValue (mapping.entry? "error_type")
  ofFields mapping image (.known status) errorType

/-- The record with the given arguments, none of which is looked into. -/
def ofArguments (arguments : Value) : Except Fault HostRecord := do
  let fields ← arguments.arguments fieldNames
  let rawField {α : Type} (name : Text) (missing : Held α) : Held α :=
    match fields.get? name with
    | some value => .raw value
    | none => missing
  ofFields (.object fields) (rawField "install_image" (.raw .null))
    (rawField "ssh_status" (.known .empty)) (rawField "error_type" (.raw .null))

def reloaded (host : HostRecord) : Except Fault HostRecord := do
  let document ← host.toDocument
  match Json.read (Json.write .line document) with
  | .ok document => ofDocument document
  | .error (.tooManyDigits _) => .error (.invalid .unwrittenDigits)
  | .error (.tooDeep container) => .error (.tooDeep container)
  | .error (.defect cause _) => .error (.invalid (.stated cause.message))

def heldEqual {α : Type} (equal : α → α → Bool) : Held α → Held α → Bool
  | .known x, .known y => equal x y
  | .raw v, .raw w => v == w
  | _, _ => false

def statusEqual : Option SecretStatus → Option SecretStatus → Bool
  | some x, some y => x.reference == y.reference && x.dataHash == y.dataHash
  | none, none => true
  | _, _ => false

def equal (a b : HostRecord) : Bool :=
  a.name == b.name && a.state == b.state &&
    a.deletionRequested == b.deletionRequested &&
    heldEqual (fun x y => x.path == y.path &&
      x.postInstallScript == y.postInstallScript) a.installImage b.installImage &&
    heldEqual (fun x y => statusEqual x.os y.os && statusEqual x.rescue y.rescue)
      a.sshStatus b.sshStatus &&
    heldEqual (fun x y => x == y) a.errorType b.errorType &&
    a.errorMessage == b.errorMessage && a.errorCount == b.errorCount

end HostRecord

end HostLifecycle
