import HostLifecycle.Attempt
import HostLifecycle.Choice
import HostLifecycle.Credential

/-!
The record of a host. Its state is always one of the known states and its deletion
marker is always a truth value; the other fields hold whatever was last written
to them, which is of the expected kind only as long as the writers keep to it. A value
that is written under the name of an operation hides that operation.
-/

namespace HostLifecycle

/-- A field that holds something of the expected kind, or any other value. -/
inductive Held (α : Type) where
  | known (content : α)
  | raw (value : Value)

structure InstallImage where
  path : Value
  postInstallScript : Value

/-- What is remembered of the two credentials of a host. -/
structure SshStatus where
  os : Option SecretStatus
  rescue : Option SecretStatus
deriving Inhabited

namespace SshStatus

def empty : SshStatus := ⟨none, none⟩

def of (kind : CredentialKind) (status : SshStatus) : Option SecretStatus :=
  match kind with
  | .os => status.os
  | .rescue => status.rescue

def remember (kind : CredentialKind) (seen : SecretStatus) (status : SshStatus) :
    SshStatus :=
  match kind with
  | .os => { status with os := some seen }
  | .rescue => { status with rescue := some seen }

end SshStatus

inductive Operation where
  | toDocument
  | requestDeletion
  | setError
  | remember (kind : CredentialKind)
deriving DecidableEq, Repr

namespace Operation

def all : List Operation :=
  [toDocument, requestDeletion, setError, remember .os, remember .rescue]

def name : Operation → Text
  | toDocument => "to_dict"
  | requestDeletion => "request_deletion"
  | setError => "set_error"
  | remember .os => "update_os_ssh_status"
  | remember .rescue => "update_rescue_ssh_status"

end Operation

/-- The record of a host. A withdrawn image is null, and so is the class of the
last terminal error of a host that has had none. -/
structure HostRecord where
  name : Value
  state : State
  deletionRequested : Bool
  installImage : Held InstallImage
  sshStatus : Held SshStatus
  errorType : Held ErrorType
  errorMessage : Value
  errorCount : Value
  hidden : List Operation

namespace HostRecord

def new (name : Value) : HostRecord where
  name := name
  state := .none
  deletionRequested := false
  installImage := .raw .null
  sshStatus := .known .empty
  errorType := .raw .null
  errorMessage := .str ""
  errorCount := .int 0
  hidden := []

/-- Hides the operation of a name, if there is one. -/
def hide (name : Text) (host : HostRecord) : HostRecord :=
  { host with hidden := host.hidden ++ Operation.all.filter fun o => o.name == name }

def offer (operation : Operation) (host : HostRecord) : Except Fault Unit :=
  if host.hidden.contains operation then .error .wrongType else .ok ()

/-- Whether the image was withdrawn, which cancels provisioning. -/
def isCancelled (host : HostRecord) : Bool :=
  match host.installImage with
  | .raw .null => true
  | _ => false

def credentialStatus (host : HostRecord) : Except Fault SshStatus :=
  match host.sshStatus with
  | .known status => .ok status
  | .raw _ => .error .noMember

def remembered (kind : CredentialKind) (host : HostRecord) :
    Except Fault (Option SecretStatus) :=
  host.credentialStatus.map (·.of kind)

def requestDeletion (host : HostRecord) : HostRecord :=
  { host with deletionRequested := true }

/-- Remembers a credential in place of the one of its kind that was seen last. -/
def remember (kind : CredentialKind) (credential : Credential)
    (host : HostRecord) : Except Fault HostRecord := do
  host.offer (.remember kind)
  let seen ← SecretStatus.ofCredential credential
  let status ← host.credentialStatus
  pure { host with sshStatus := .known (status.remember kind seen) }

def increased : Value → Except Fault Value
  | .int n => .ok (.int (n + 1))
  | .bool b => .ok (.int ((if b then 1 else 0) + 1))
  | .float x => .ok (.float (x.add (Number.Binary64.ofRatio false 1 1)))
  | _ => .error .wrongType

/-- Records a terminal error: its class, its message, and one more error. -/
def setError (errorType : ErrorType) (message : Value) : Attempt HostRecord Unit :=
  fun host =>
    let noted := { host with errorType := .known errorType, errorMessage := message }
    match host.offer .setError, increased host.errorCount with
    | .error fault, _ => (.error fault, host)
    | .ok _, .ok count => (.ok (), { noted with errorCount := count })
    | .ok _, .error fault => (.error fault, noted)

end HostRecord

end HostLifecycle
