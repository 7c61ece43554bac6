import HostLifecycle.Proofs.Reconciliation.Precedence

/-!
Where the result of a pass comes from. A pass makes up results of its own only where it diverts
or cancels a host and where a state has no action. Everything else it is given, by the source of
the credentials, by a comparison, by an update of the record, by a judgement or by an action, and
it hands it on as it is. Only an error of the lifecycle from the source or from an update is put
into an outcome on the way.
-/

namespace HostLifecycle

open Attempt

/-- What becomes of a fault where errors of the lifecycle are caught: such an error is carried by
a failed outcome, and every other fault stays one. -/
def Fault.surfaced : Fault → Except Fault Outcome
  | .lifecycle error => .ok (.failed (.lifecycle error))
  | fault => .error fault

theorem runOn_surfaced {σ α : Type} {action : Attempt σ α}
    {next : Except LifecycleError α → Attempt σ Outcome} {state changed : σ} {fault : Fault}
    (h : action.runOn state = (.error fault, changed))
    (hnext : ∀ error, next (.error error) = pure (.failed (.lifecycle error))) :
    (action.caught >>= next).runOn state = (fault.surfaced, changed) := by
  rw [runOn_bind, runOn_caught, h]
  cases fault with
  | lifecycle error =>
    simp only [hnext, runOn_pure]
    rfl
  | _ => rfl

namespace HostRecord

variable {a b : HostRecord} {kind : CredentialKind}

end HostRecord

namespace Reconciliation

/-- The credential of a kind among those that were fetched. -/
def fetchedOf (kind : CredentialKind) (fetched : Option Credential × Option Credential) :
    Option Credential :=
  match kind with
  | .os => fetched.1
  | .rescue => fetched.2

namespace Site

def Gives (site : Site) (kind : CredentialKind) (credential : Credential) : Prop :=
  ∃ fetched, site.answer = .ok fetched ∧ fetchedOf kind fetched = some credential

theorem runOn_renew_of_fault (service : Service) {kind : CredentialKind} {credential : Credential}
    {site : Site} {fault : Fault} (h : site.host.remember kind credential = .error fault) :
    (renew service kind credential).runOn site = (fault.surfaced, site) := by
  rcases runOn_remember kind credential site with
    ⟨host, hremember, -⟩ | ⟨fault', hremember, hrun⟩
  · cases h.symm.trans hremember
  · obtain rfl := Except.error.inj (h.symm.trans hremember)
    exact runOn_surfaced hrun fun _ => rfl

end Site

namespace Pass

variable {service : Service} {site : Site} {kind : CredentialKind} {credential : Credential}

/-- A source that fails ends the look at the credentials. -/
theorem gate_of_fault (service : Service) (logger : Text) {site : Site} {fault : Fault}
    (hstate : site.host.state ≠ .deprovisioning) (hanswer : site.answer = .error fault) :
    gate service logger site = (fault.surfaced, (Pass.of site).behindFetch) := by
  have hfetch : (onSite Site.fetch).runOn (Pass.of site) =
      (.error fault, (Pass.of site).behindFetch) := by
    rw [runOn_onSite, ← hanswer]
    rfl
  have hkept : (Pass.of site).site.host.state ≠ .deprovisioning := hstate
  rw [gate, checkCredentials, runOn_bind, runOn_get]
  simp only [hkept, if_false]
  exact runOn_surfaced hfetch fun _ => rfl

end Pass

end Reconciliation

end HostLifecycle
