import HostLifecycle.Choice
import HostLifecycle.Credential
import HostLifecycle.Vault.Client

/-!
The store of the credentials of a host. They are read from the server of secrets
if one is enabled, each from its own path, and else from variables of the process.
Nothing is kept between two reads, since a credential that has changed is told from
its older self by reading it again.
-/

namespace HostLifecycle.Vault

open Settings

structure SecretStore where
  vault : VaultSettings
  ssh : SshSettings

namespace SecretStore

/-- The path of a credential on the server, empty if there is none. -/
def path (store : SecretStore) : CredentialKind → Text
  | .os => store.ssh.osSecretPath
  | .rescue => store.ssh.rescueSecretPath

def variableStart : CredentialKind → Text
  | .os => "OS_SSH"
  | .rescue => "RESCUE_SSH"

def readPath (store : SecretStore) (path : Text) :
    Attempt Session (Option Credential) := do
  match ← Client.read store.vault (.str path) with
  | .null => pure none
  | secret =>
    let data ← Attempt.ofExcept secret.toMapping
    pure (some ⟨.str path, data⟩)

/-- The credential in the variables whose names have a beginning. A variable that
is not set counts as empty, and if all are empty there is no credential. -/
def inVariables (store : SecretStore) (environment : Environment) (start : Text) :
    Option Credential :=
  let data : Fields Text := Fields.ofPairs
    [(store.ssh.nameKey, environment.named (start ++ "_NAME")),
     (store.ssh.publicKeyKey, environment.named (start ++ "_PUBLIC_KEY")),
     (store.ssh.privateKeyKey, environment.named (start ++ "_PRIVATE_KEY"))]
  if data.all fun entry => entry.2 == "" then none
  else
    some ⟨.str ("env:" ++ start), .object (data.map fun entry => (entry.1, .str entry.2))⟩

def fetchOne (store : SecretStore) (environment : Environment) (kind : CredentialKind) :
    Attempt Session (Option Credential) :=
  if store.vault.enabled then
    if store.path kind == "" then pure none else store.readPath (store.path kind)
  else pure (store.inVariables environment (variableStart kind))

/-- Fetches the credential of the operating system and that of the rescue system. -/
def fetch (store : SecretStore) (environment : Environment) :
    Attempt Session (Option Credential × Option Credential) := do
  let os ← store.fetchOne environment .os
  let rescue ← store.fetchOne environment .rescue
  pure (os, rescue)

end SecretStore

end HostLifecycle.Vault
