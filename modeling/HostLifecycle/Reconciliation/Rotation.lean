import HostLifecycle.Reconciliation.Pass
import HostLifecycle.Reconciliation.Validation

/-!
Credentials that were changed from outside. Ahead of the action of a state both
credentials are fetched and compared with what is remembered of them. A changed
credential of the operating system sends a host that is being installed back to the
installation, and is a terminal failure once the host is provisioned; a changed
credential of the rescue system restarts a host whose image is not installed yet. A
credential that is seen for the first time is only remembered. A host that is torn
down needs no credentials.
-/

namespace HostLifecycle.Reconciliation

/-- What a changed credential calls for. -/
inductive Reaction where
  | accept
  | redirect (state : State)
  | refuse
deriving DecidableEq, Repr

def reaction (kind : CredentialKind) (next : State) : Reaction :=
  match kind with
  | .os =>
    if next.isReinstalled then .redirect .imageInstalling
    else if next = .provisioned then .refuse
    else .accept
  | .rescue => if next.isReset then .redirect .none else .accept

def kindLabel : CredentialKind → Text
  | .os => "OS"
  | .rescue => "rescue"

/-- What is told when a changed credential sends the host to another state. -/
def redirectMessage : CredentialKind → Text
  | .os => "OS secret was updated, installing image again"
  | .rescue => "Going back to state none as rescue secret was updated"

def redirectExtras (kind : CredentialKind) (seen : SecretStatus) : Fields Value :=
  match kind with
  | .os => []
  | .rescue => [("current_rescue", seen.reference)]

/-- What is told when the credential of a provisioned host has changed. -/
def refusalMessage : Text :=
  "secret has been modified although a provisioned machine uses it"

namespace Site

def remember (kind : CredentialKind) (credential : Option Credential) :
    Attempt Site Unit := do
  let _ ← onHost (RecordStep.update kind credential).perform
  let name := (credential.map (·.name)).getD .null
  log serviceLogger .debug
    ("Stored " ++ kindLabel kind ++ " credential status for " ++ name.text) []

/-- Tells and records that the credential of a provisioned host has changed. -/
def refuseRotation : Attempt Site Outcome := do
  warn "SSHSecretUnexpectedlyModified" (.str refusalMessage)
  recordFailure .registration (.str refusalMessage)

def renew (service : Service) (kind : CredentialKind) (credential : Credential) :
    Attempt Site Outcome := do
  match ← (remember kind credential).caught with
  | .ok () => validate service kind credential
  | .error e => pure (.failed (.lifecycle e))

end Site

namespace Pass

/-- Sends the host to another state because of a changed credential. -/
def redirect (logger : Text) (kind : CredentialKind) (seen : SecretStatus)
    (state : State) : Attempt Pass Unit := do
  let pass ← get
  log logger .info (redirectMessage kind)
    (pass.hostAt pass.next ++ redirectExtras kind seen)
  moveTo state

def handleRotation (service : Service) (logger : Text) (kind : CredentialKind)
    (seen : SecretStatus) (credential : Credential) : Attempt Pass Outcome := do
  match reaction kind (← get).next with
  | .accept => onSite (Site.renew service kind credential)
  | .redirect state =>
    redirect logger kind seen state
    onSite (Site.renew service kind credential)
  | .refuse => onSite Site.refuseRotation

def checkCredential (service : Service) (logger : Text) (kind : CredentialKind)
    (credential : Credential) : Attempt Pass Outcome := do
  match ← Attempt.ofExcept ((← get).site.host.remembered kind) with
  | none => onSite (Site.renew service kind credential)
  | some seen =>
    if ← Attempt.ofExcept (seen.agrees credential) then
      onSite (Site.validate service kind credential)
    else handleRotation service logger kind seen credential

/-- Compares a credential that was fetched, if there is one. -/
def checkFetched (service : Service) (logger : Text) (kind : CredentialKind)
    (credential : Option Credential) : Attempt Pass Outcome :=
  match credential with
  | some credential => checkCredential service logger kind credential
  | none => pure .complete

/-- Compares both credentials, that of the rescue system only if the other one lets
the pass go on. -/
def checkBoth (service : Service) (logger : Text)
    (fetched : Option Credential × Option Credential) : Attempt Pass Outcome := do
  let outcome ← checkFetched service logger .os fetched.1
  if outcome.isComplete then checkFetched service logger .rescue fetched.2
  else pure outcome

/-- Fetches the credentials and compares them. The pass goes on only if the outcome
is complete. -/
def checkCredentials (service : Service) (logger : Text) :
    Attempt Pass Outcome := do
  if (← get).site.host.state = .deprovisioning then pure .complete
  else
    match ← (onSite Site.fetch).caught with
    | .ok fetched => checkBoth service logger fetched
    | .error e => pure (.failed (.lifecycle e))

end Pass

end HostLifecycle.Reconciliation
