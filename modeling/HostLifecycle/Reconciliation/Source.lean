import HostLifecycle.Vault.SecretStore

/-!
Where a pass over a host gets the credentials from: from a provider that holds them
out, or from the secret store.
-/

namespace HostLifecycle.Reconciliation

open Logging Settings

/-- What a provider holds out: the two credentials, or a fault in their place. -/
structure Offer where
  os : Option Credential
  rescue : Option Credential
  fault : Option Fault

namespace Offer

def empty : Offer := ⟨none, none, none⟩

def taken (offer : Offer) : Except Fault (Option Credential × Option Credential) :=
  match offer.fault with
  | some fault => .error fault
  | none => .ok (offer.os, offer.rescue)

end Offer

inductive Source where
  | provider (offer : Offer)
  | secrets (store : Vault.SecretStore) (session : Vault.Session)

structure Source.Access where
  source : Source
  journal : List LogEntry

def Source.fetch (environment : Environment) :
    Attempt Source.Access (Option Credential × Option Credential) := fun access =>
  match access.source with
  | .provider offer => (offer.taken, access)
  | .secrets store session =>
    let (result, after) :=
      (store.fetch environment).runOn { session with journal := access.journal }
    (result, ⟨.secrets store after, after.journal⟩)

end HostLifecycle.Reconciliation
