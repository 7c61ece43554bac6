import HostLifecycle.Settings.Group
import HostLifecycle.Value.Member
import HostLifecycle.Vault.Server

/-!
A client of a server of secrets. It authenticates before the first secret is read,
by a token if there is one and else by a role, and is let in for good once that has
succeeded. What the server refuses is an error of the fetch, but that nothing is
stored at a path is none.
-/

namespace HostLifecycle.Vault

open Settings Logging

def loggerName : Text := "config.vault_client"

/-- The result of a call, with what the server refuses taken as the error of a
fetch. -/
def refusedAs {α : Type} (cause : RemoteError → FetchCause) (result : Except Fault α) :
    Except Fault α :=
  match result with
  | .error (.remote e) => .error (.lifecycle (.credentialFetch (cause e)))
  | result => result

namespace Client

/-- Presents the token or the role of the client and asks whether that lets it
in. -/
def present (settings : VaultSettings) : Attempt Session Value := do
  if settings.token == "" then
    Session.ask (.login settings.roleId settings.secretId) Server.login
    Session.ask (.check none) Server.check
  else Session.ask (.check (some settings.token)) Server.check

def authenticate (settings : VaultSettings) : Attempt Session Unit := do
  let space := if settings.space == "" then none else some settings.space
  Session.ask (.connect settings.addr space) fun _ _ => .ok ()
  let answer ← (present settings).settled
  let isIn ← Attempt.ofExcept (refusedAs .authentication answer)
  if isIn.isTruthy then Session.letIn
  else Attempt.fail (.lifecycle (.credentialFetch .unauthenticated))

def connect (settings : VaultSettings) : Attempt Session Unit := do
  if !(← get).isOpen then authenticate settings

/-- The secret inside the response of a server, null if there is none. -/
def secretOf (response : Value) : Except Fault Value := do
  if !response.isTruthy then pure .null
  else if !(← response.mentions "data") then pure .null
  else
    let content ← response.member "data"
    if ← content.mentions "data" then content.member "data" else pure .null

/-- Asks for the secret at a path, null if nothing is stored there. -/
def request (settings : VaultSettings) (path : Value) : Attempt Session Value := do
  match ← (Session.ask (.read path settings.mountPath) fun s n => s.read n path).settled with
  | .ok response => Attempt.ofExcept (secretOf response)
  | .error (.remote e) =>
    if e.isInvalidPath then
      Session.log ⟨loggerName, .debug, "No secret stored at " ++ path.text, []⟩
      pure .null
    else Attempt.fail (.lifecycle (.credentialFetch (.reading path e)))
  | .error fault => Attempt.fail fault

/-- Reads the secret at a path, null if nothing is stored there. -/
def read (settings : VaultSettings) (path : Value) : Attempt Session Value := do
  connect settings
  request settings path

end Client

end HostLifecycle.Vault
