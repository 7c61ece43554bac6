import HostLifecycle.Credential.PublicKey
import HostLifecycle.Reconciliation.Failure

/-!
Whether a credential can be used to reach a host: every required data key holds
something, and the second one holds a public key. A credential that cannot be used
is a terminal failure, told in the audit trail before the failure itself is.
-/

namespace HostLifecycle.Reconciliation

open Value (joinWith)

inductive CredentialProblem where
  | missing (keys : List Text)
  | publicKey
deriving DecidableEq, Repr

def CredentialProblem.message : CredentialProblem → Text
  | missing keys => "missing data keys " ++ joinWith ", " keys
  | publicKey => "public key is not in OpenSSH format"

/-- The required keys under which nothing is stored. A missing key that is no text cannot be
told. -/
def missingKeys (data : Value) : List Value → Except Fault (List Text)
  | [] => .ok []
  | key :: rest => do
    let others ← missingKeys data rest
    let found ← data.under? key
    if (found.getD .null).isTruthy then pure others
    else
      match key with
      | .str key => pure (key :: others)
      | _ => .error .wrongType

/-- The public key inside the data: what is stored under the second of the required
keys. -/
def publicKeyOf (data : Value) : List Value → Except Fault Text
  | _ :: key :: _ => do
    match ← data.under? key with
    | some (.str text) => .ok text
    | some _ => .error .noMember
    | none => .error .noKey
  | _ => .error .noIndex

/-- Why a credential cannot be used, if it cannot. -/
def credentialProblem (keys : List Value) (credential : Credential) :
    Except Fault (Option CredentialProblem) := do
  match ← missingKeys credential.data keys with
  | [] =>
    let text ← publicKeyOf credential.data keys
    pure (if PublicKey.accepts text then none else some .publicKey)
  | missing => pure (some (.missing missing))

def problemMessage (kind : CredentialKind) (credential : Credential)
    (problem : CredentialProblem) : Text :=
  kind.text ++ " ssh credential " ++ credential.name.quoted ++ " is invalid: " ++
    problem.message

namespace Site

def rejectCredential (message : Text) : Attempt Site Outcome := do
  warn "SSHKeyInvalid" (.str message)
  recordFailure .preparation (.str message)

def inspect (keys : List Value) (kind : CredentialKind) (credential : Credential) :
    Attempt Site Outcome := do
  match ← Attempt.ofExcept (credentialProblem keys credential) with
  | none => pure .complete
  | some problem => rejectCredential (problemMessage kind credential problem)

def validate (service : Service) (kind : CredentialKind)
    (credential : Option Credential) : Attempt Site Outcome :=
  match service.judgement kind, credential with
  | some outcome, _ => Attempt.ofExcept outcome
  | none, some credential => inspect service.requiredKeys kind credential
  | none, none => Attempt.fail .noMember

end Site

end HostLifecycle.Reconciliation
