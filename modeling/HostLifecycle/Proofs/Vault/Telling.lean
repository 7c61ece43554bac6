import HostLifecycle.Proofs.Twin
import HostLifecycle.Proofs.Vault.Fetching

/-!
What a fetch tells. A client never reads its journal, so in two sessions that differ only in
what their journals begin with a fetch comes to the same, calls the same, and writes the same
behind both beginnings. Beside its messages it gives nothing.
-/

namespace HostLifecycle.Vault

open Attempt Logging Settings

/-- Two sessions that differ only in what their journals begin with. -/
def Session.Beside (base base' : List LogEntry) (session session' : Session) : Prop :=
  ∃ told, (∀ entry ∈ told, entry.extras = []) ∧ session.journal = base ++ told ∧
    session' = { session with journal := base' ++ told }

variable {base base' : List LogEntry} {α : Type}

namespace Session

theorem beside_of_journals (base base' : List LogEntry) (session : Session) :
    Beside base base' { session with journal := base } { session with journal := base' } :=
  ⟨[], fun _ h => absurd h List.not_mem_nil, (List.append_nil base).symm,
    by rw [List.append_nil]⟩

theorem twin_ask (call : Call) (answer : Server → Nat → Except Fault α) :
    Twin (Beside base base') Eq (ask call answer) (ask call answer) := by
  rintro session _ ⟨told, hextras, hjournal, rfl⟩
  rw [runOn_ask, runOn_ask]
  exact ⟨paired_eq _, told, hextras, hjournal, rfl⟩

theorem twin_letIn : Twin (Beside base base') Eq letIn letIn := by
  rintro session _ ⟨told, hextras, hjournal, rfl⟩
  exact ⟨.ok rfl, told, hextras, hjournal, rfl⟩

theorem twin_log {entry : LogEntry} (hentry : entry.extras = []) :
    Twin (Beside base base') Eq (log entry) (log entry) := by
  rintro session _ ⟨told, hextras, hjournal, rfl⟩
  have hgrown : ∀ other ∈ told ++ [entry], other.extras = [] :=
    List.forall_mem_append.mpr ⟨hextras, List.forall_mem_singleton.mpr hentry⟩
  refine ⟨.ok rfl, told ++ [entry], hgrown, ?_, ?_⟩
  · exact (congrArg (· ++ [entry]) hjournal).trans (List.append_assoc _ _ _)
  · change { session with journal := base' ++ told ++ [entry] } = _
    rw [List.append_assoc]
    rfl

end Session

open Session (Beside)

namespace Client

theorem twin_present (settings : VaultSettings) :
    Twin (Beside base base') Eq (present settings) (present settings) := by
  unfold present
  split
  · exact (Session.twin_ask _ _).then fun _ => Session.twin_ask _ _
  · exact Session.twin_ask _ _

theorem twin_authenticate (settings : VaultSettings) :
    Twin (Beside base base') Eq (authenticate settings) (authenticate settings) := by
  apply (Session.twin_ask _ _).then
  intro _
  apply (twin_present settings).settled.bind
  intro answer answer' hanswer
  rw [hanswer.eq]
  apply (twin_ofExcept (paired_eq _)).then
  intro isIn
  split
  · exact Session.twin_letIn
  · exact twin_fail _

theorem twin_connect (settings : VaultSettings) :
    Twin (Beside base base') Eq (connect settings) (connect settings) := by
  apply twin_get_bind
  rintro session _ ⟨told, -, -, rfl⟩
  split
  · exact twin_authenticate settings
  · exact twin_pure rfl

theorem twin_request (settings : VaultSettings) (path : Value) :
    Twin (Beside base base') Eq (request settings path) (request settings path) := by
  apply (Session.twin_ask _ _).settled.bind
  intro answer answer' hanswer
  obtain rfl := hanswer.eq
  split
  · exact twin_ofExcept (paired_eq _)
  · split
    · exact (Session.twin_log rfl).then fun _ => twin_pure rfl
    · exact twin_fail _
  · exact twin_fail _

end Client

namespace SecretStore

theorem twin_readPath (store : SecretStore) (path : Text) :
    Twin (Beside base base') Eq (store.readPath path) (store.readPath path) := by
  rw [readPath_eq]
  apply (Client.twin_connect store.vault).then
  intro _
  apply (Client.twin_request store.vault (.str path)).then
  exact fun secret => twin_ofExcept (paired_eq _)

theorem twin_fetchOne (store : SecretStore) (environment : Environment) (kind : CredentialKind) :
    Twin (Beside base base') Eq (store.fetchOne environment kind)
      (store.fetchOne environment kind) := by
  unfold fetchOne
  split
  · split
    · exact twin_pure rfl
    · exact twin_readPath store _
  · exact twin_pure rfl

/-- A fetch comes to the same whatever its journal begins with. -/
theorem twin_fetch (store : SecretStore) (environment : Environment) :
    Twin (Beside base base') Eq (store.fetch environment) (store.fetch environment) := by
  apply (twin_fetchOne store environment .os).then
  intro os
  apply (twin_fetchOne store environment .rescue).then
  exact fun rescue => twin_pure rfl

end SecretStore

end HostLifecycle.Vault
