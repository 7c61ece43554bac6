import HostLifecycle.Record.Document

/-!
The ways in which a record is read and changed from outside. A write that is
refused leaves the record as it was. The record takes every value as it is: it is the caller who
makes an image of an object before assigning it.
-/

namespace HostLifecycle

inductive RecordStep where
  | assign (field : Text) (value : Value)
  | write (field : Text) (value : Value)
  | requestDeletion
  | setError (errorType message : Value)
  | update (kind : CredentialKind) (credential : Option Credential)
  | compare (kind : CredentialKind) (credential : Option Credential)
  | pending
  | roundTrip
  | describe

namespace HostRecord

/-- The deletion marker after a value is written to it. Once set it stays set. -/
def markerOf (host : HostRecord) (value : Value) : Except Fault Bool :=
  if !value.isTruthy && host.deletionRequested then
    .error (.telling host.name (.invalid (.deletionAlreadyRequested host.name)))
  else .ok value.isTruthy

/-- Writes a value to a field as it is. A name that is no field is accepted and has no effect
unless it hides an operation, but for the two that are derived from other fields and those that
belong to every record. The dictionary of all fields takes an object only; to put another one in
its place goes past the guards of the fields and is left out here. -/
def write (host : HostRecord) (field : Text) (value : Value) :
    Except Fault HostRecord :=
  match field.string? with
  | some "name" => .ok { host with name := value }
  | some "provisioning_state" =>
    (State.ofValue value).map fun state => { host with state := state }
  | some "deletion_requested" =>
    (host.markerOf value).map fun marker => { host with deletionRequested := marker }
  | some "install_image" => .ok { host with installImage := .raw value }
  | some "ssh_status" => .ok { host with sshStatus := .raw value }
  | some "error_type" => .ok { host with errorType := .raw value }
  | some "error_message" => .ok { host with errorMessage := value }
  | some "error_count" => .ok { host with errorCount := value }
  | some "install_image_pending" => .error .noMember
  | some "provisioning_cancelled" => .error .noMember
  | some "__weakref__" => .error .noMember
  | some "__class__" => .error .wrongType
  | some "__dict__" => .error .wrongType
  | _ => .ok (host.hide field)

/-- The comparison of a credential with the one of its kind that was seen last:
null if none was. -/
def compared (host : HostRecord) (kind : CredentialKind)
    (credential : Option Credential) : Except Fault Value := do
  match ← host.remembered kind with
  | none => pure .null
  | some status =>
    match credential with
    | none => .error .noMember
    | some credential => (status.agrees credential).map .bool

private def symbol (choice : Choice) (label text : Text) : Text :=
  "<" ++ choice.name ++ "." ++ label ++ ": '" ++ text ++ "'>"

private def heldText {α : Type} (known : α → Text) : Held α → Text
  | .known content => known content
  | .raw value => value.quoted

private def optionText : Option SecretStatus → Text
  | some status => status.text
  | none => "None"

def imageText (image : InstallImage) : Text :=
  "InstallImage(path=" ++ image.path.quoted ++ ", post_install_script=" ++
    image.postInstallScript.quoted ++ ")"

def statusText (status : SshStatus) : Text :=
  "SSHStatus(current_os=" ++ optionText status.os ++ ", current_rescue=" ++
    optionText status.rescue ++ ")"

def text (host : HostRecord) : Text :=
  "HostRecord(name=" ++ host.name.quoted ++
    ", provisioning_state=" ++ symbol .state host.state.label host.state.text ++
    ", deletion_requested=" ++ (Value.bool host.deletionRequested).quoted ++
    ", install_image=" ++ heldText imageText host.installImage ++
    ", ssh_status=" ++ heldText statusText host.sshStatus ++
    ", error_type=" ++
      heldText (fun e => symbol .errorType e.label e.text) host.errorType ++
    ", error_message=" ++ host.errorMessage.quoted ++
    ", error_count=" ++ host.errorCount.quoted ++ ")"

/-- A record in place of the one at hand, or the fault that keeps it. -/
def replaced (change : HostRecord → Except Fault HostRecord) :
    Attempt HostRecord Value :=
  fun host =>
    match change host with
    | .ok changed => (.ok .null, changed)
    | .error fault => (.error fault, host)

def observed (read : HostRecord → Except Fault Value) : Attempt HostRecord Value :=
  fun host => (read host, host)

def rememberGiven (kind : CredentialKind) (credential : Option Credential)
    (host : HostRecord) : Except Fault HostRecord :=
  match credential with
  | some credential => host.remember kind credential
  | none => do
    host.offer (.remember kind)
    .error .noMember

end HostRecord

namespace RecordStep

/-- What a caller assigns where an image is expected: an image that it makes of the object that
describes one, or the value as it is. -/
def imageGiven : Value → Except Fault (Held InstallImage)
  | .object fields => (InstallImage.ofValue (.object fields)).map .known
  | value => .ok (.raw value)

def assigned (host : HostRecord) (field : Text) (value : Value) : Except Fault HostRecord :=
  if field = "install_image" then
    (imageGiven value).map fun image => { host with installImage := image }
  else host.write field value

theorem assigned_image (host : HostRecord) (value : Value) :
    assigned host "install_image" value =
      (imageGiven value).map fun image => { host with installImage := image } := if_pos rfl

theorem assigned_of_ne (host : HostRecord) {field : Text} (h : field ≠ "install_image")
    (value : Value) : assigned host field value = host.write field value := if_neg h

def perform : RecordStep → Attempt HostRecord Value
  | assign field value => HostRecord.replaced fun host => assigned host field value
  | write field value => HostRecord.replaced fun host => host.write field value
  | requestDeletion => HostRecord.replaced fun host => do
    host.offer .requestDeletion
    pure host.requestDeletion
  | setError errorType message => do
    let errorType ← Attempt.ofExcept (ErrorType.ofValue errorType)
    HostRecord.setError errorType message
    pure .null
  | update kind credential => HostRecord.replaced (HostRecord.rememberGiven kind credential)
  | compare kind credential => HostRecord.observed fun host => host.compared kind credential
  | pending => HostRecord.observed fun host =>
    .ok (.list [.bool !host.isCancelled, .bool host.isCancelled])
  | roundTrip => HostRecord.observed fun host =>
    host.reloaded.map fun other => .bool (other.equal host)
  | describe => HostRecord.observed fun host => .ok (.str host.text)

/-- Performs accesses to a record, up to the first that fails. -/
def performAll : List RecordStep → Attempt HostRecord Unit
  | [] => pure ()
  | step :: rest => do
    let _ ← step.perform
    performAll rest

end RecordStep

end HostLifecycle
