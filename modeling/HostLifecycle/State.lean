import HostLifecycle.Text.CodePoint

/-!
The provisioning states of a host and the transitions between them. A host moves
forward from preparing to provisioned, one state for every completed action; a
host that is torn down goes through deprovisioning back to none, and a host that
is removed ends in deleting.
-/

namespace HostLifecycle

inductive State where
  | none
  | preparing
  | registering
  | imageInstalling
  | provisioning
  | ensureProvisioned
  | provisioned
  | deprovisioning
  | deleting
deriving DecidableEq, Repr, Inhabited

namespace State

def all : List State :=
  [none, preparing, registering, imageInstalling, provisioning,
   ensureProvisioned, provisioned, deprovisioning, deleting]

def text : State → Text
  | none => "none"
  | preparing => "preparing"
  | registering => "registering"
  | imageInstalling => "image-installing"
  | provisioning => "provisioning"
  | ensureProvisioned => "ensure-provisioned"
  | provisioned => "provisioned"
  | deprovisioning => "deprovisioning"
  | deleting => "deleting"

def label : State → Text
  | none => "NONE"
  | preparing => "PREPARING"
  | registering => "REGISTERING"
  | imageInstalling => "IMAGE_INSTALLING"
  | provisioning => "PROVISIONING"
  | ensureProvisioned => "ENSURE_PROVISIONED"
  | provisioned => "PROVISIONED"
  | deprovisioning => "DEPROVISIONING"
  | deleting => "DELETING"

def ofText? (text : Text) : Option State :=
  all.find? fun state => state.text == text

/-- Whether a deletion request in this state leads to deprovisioning, since
something has been installed or is about to be. Preparing installs nothing. -/
def isActive : State → Bool
  | registering | imageInstalling | provisioning | ensureProvisioned
  | provisioned => true
  | _ => false

/-- Whether a changed OS credential sends this state back to the installation of
the image. -/
def isReinstalled : State → Bool
  | provisioning | ensureProvisioned => true
  | _ => false

/-- Whether a changed rescue credential restarts the lifecycle from this state. -/
def isReset : State → Bool
  | preparing | registering | imageInstalling => true
  | _ => false

/-- Whether the completed action of this state advances the host. -/
def isForward : State → Bool
  | preparing | registering | imageInstalling | provisioning
  | ensureProvisioned => true
  | _ => false

/-- The state that follows once the action of this one completes. -/
def successor? : State → Option State
  | preparing => some registering
  | registering => some imageInstalling
  | imageInstalling => some provisioning
  | provisioning => some ensureProvisioned
  | ensureProvisioned => some provisioned
  | deprovisioning => some none
  | _ => Option.none

def isHandled (state : State) : Bool :=
  state != none

end State

end HostLifecycle
