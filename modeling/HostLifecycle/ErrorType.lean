import HostLifecycle.Text.CodePoint

/-!
The classes of terminal errors that are kept on a host record, one for each part
of the lifecycle.
-/

namespace HostLifecycle

inductive ErrorType where
  | preparation
  | registration
  | provisioning
  | deprovisioning
deriving DecidableEq, Repr, Inhabited

namespace ErrorType

def all : List ErrorType :=
  [preparation, registration, provisioning, deprovisioning]

def text : ErrorType → Text
  | preparation => "preparation error"
  | registration => "registration error"
  | provisioning => "provisioning error"
  | deprovisioning => "deprovisioning error"

def label : ErrorType → Text
  | preparation => "PREPARATION_ERROR"
  | registration => "REGISTRATION_ERROR"
  | provisioning => "PROVISIONING_ERROR"
  | deprovisioning => "DEPROVISIONING_ERROR"

def reason : ErrorType → Text
  | preparation => "PreparationError"
  | registration => "RegistrationError"
  | provisioning => "ProvisioningError"
  | deprovisioning => "DeprovisioningError"

def ofText? (text : Text) : Option ErrorType :=
  all.find? fun errorType => errorType.text == text

end ErrorType

end HostLifecycle
