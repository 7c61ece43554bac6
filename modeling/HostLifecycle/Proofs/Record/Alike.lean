import HostLifecycle.Proofs.Credential.Disguise
import HostLifecycle.Proofs.Reconciliation.Standing
import HostLifecycle.Record.Edit

/-!
Records that differ only in the digests they hold. What is written to a field of one of them can
be written to the other one, and remembering a credential in one of them and the credential in
disguise in the other one leaves them alike.
-/

namespace HostLifecycle

open Attempt

variable {disguise : Disguise}

/-- What is remembered of a credential, if anything is, and what is remembered of it in
disguise. -/
inductive SshStatus.EntryAlike (disguise : Disguise) :
    Option SecretStatus → Option SecretStatus → Prop where
  | none : EntryAlike disguise none none
  | some {seen seen' : SecretStatus} (hseen : SecretStatus.Alike disguise seen seen') :
    EntryAlike disguise (some seen) (some seen')

/-- What is remembered of both credentials, and what is remembered of them in disguise. -/
def SshStatus.EntriesAlike (disguise : Disguise) (status status' : SshStatus) : Prop :=
  ∀ kind, EntryAlike disguise (status.of kind) (status'.of kind)

/-- What a record holds for it, which may be any other value, as long as it is the same. -/
inductive SshStatus.Alike (disguise : Disguise) : Held SshStatus → Held SshStatus → Prop where
  | raw (value : Value) : Alike disguise (.raw value) (.raw value)
  | known {status status' : SshStatus}
      (hentries : EntriesAlike disguise status status') :
    Alike disguise (.known status) (.known status')

namespace HostRecord

/-- Two records that differ only in the digests of known values and of those in place of them. -/
def Alike (disguise : Disguise) (host host' : HostRecord) : Prop :=
  ∃ status, SshStatus.Alike disguise host.sshStatus status ∧
    host' = { host with sshStatus := status }

variable {host host' : HostRecord}

theorem Alike.credentialStatus (h : Alike disguise host host') :
    Paired (SshStatus.EntriesAlike disguise) host.credentialStatus host'.credentialStatus := by
  obtain ⟨status, hstatus, rfl⟩ := h
  rw [HostRecord.credentialStatus, HostRecord.credentialStatus]
  generalize host.sshStatus = held at hstatus ⊢
  cases hstatus with
  | raw value => exact .error _
  | known hentries => exact .ok hentries

theorem Alike.remembered (h : Alike disguise host host') (kind : CredentialKind) :
    Paired (SshStatus.EntryAlike disguise) (host.remembered kind) (host'.remembered kind) :=
  h.credentialStatus.map fun _ _ hentries => hentries kind

/-- Both records remember a credential, or neither does. -/
theorem Alike.remember (h : Alike disguise host host') (kind : CredentialKind)
    {credential : Credential} (hcovers : disguise.CoversCredential credential) :
    Paired (Alike disguise) (host.remember kind credential)
      (host'.remember kind (disguise.credential credential)) := by
  have hstatus := h.credentialStatus
  have hoffer : host'.offer (.remember kind) = host.offer (.remember kind) := by
    obtain ⟨status, -, rfl⟩ := h
    rfl
  rw [HostRecord.remember, HostRecord.remember, hoffer]
  apply paired_bind (host.offer (.remember kind))
  intro _
  apply (Disguise.ofCredential_credential hcovers).bind
  intro seen seen' hseen
  apply hstatus.bind
  intro status status' hentries
  refine .ok ⟨.known (status'.remember kind seen'), .known fun other => ?_, ?_⟩
  · cases kind <;> cases other
    · exact .some hseen
    · exact hentries .rescue
    · exact hentries .os
    · exact .some hseen
  · obtain ⟨_, -, rfl⟩ := h
    rfl

theorem Alike.rememberGiven (h : Alike disguise host host') (kind : CredentialKind)
    {found : Option Credential} (hcovers : disguise.CoversFound found) :
    Paired (Alike disguise) (rememberGiven kind found host)
      (rememberGiven kind (found.map disguise.credential) host') := by
  cases found with
  | none =>
    obtain ⟨status, hstatus, rfl⟩ := h
    apply paired_bind (host.offer (.remember kind))
    intro _
    exact .error _
  | some credential => exact h.remember kind (hcovers credential rfl)

/-- A credential that may be missing is compared in disguise as it is compared itself. -/
theorem Alike.compared (h : Alike disguise host host') (kind : CredentialKind)
    {found : Option Credential} (hcovers : disguise.CoversFound found) :
    Paired Eq (host.compared kind found)
      (host'.compared kind (found.map disguise.credential)) := by
  apply (h.remembered kind).bind
  intro seen seen' hseen
  cases hseen with
  | none => exact .ok rfl
  | some hseen =>
    cases found with
    | none => exact .error _
    | some credential =>
      apply (Disguise.agrees_credential (hcovers credential rfl) hseen).map
      intro _ _ hagrees
      rw [hagrees]

theorem Alike.write (h : Alike disguise host host') (field : Text) (value : Value) :
    Paired (Alike disguise) (host.write field value) (host'.write field value) := by
  obtain ⟨status, hstatus, rfl⟩ := h
  unfold HostRecord.write
  split
  case h_2 => exact (paired_eq (State.ofValue value)).map fun _ _ hstate =>
    hstate ▸ ⟨status, hstatus, rfl⟩
  case h_3 => exact (paired_eq (host.markerOf value)).map fun _ _ hmarker =>
    hmarker ▸ ⟨status, hstatus, rfl⟩
  case h_5 => exact .ok ⟨.raw value, .raw value, rfl⟩
  case h_9 | h_10 | h_11 | h_12 | h_13 => exact .error _
  all_goals exact .ok ⟨status, hstatus, rfl⟩

theorem Alike.assigned (h : Alike disguise host host') (field : Text) (value : Value) :
    Paired (Alike disguise) (RecordStep.assigned host field value)
      (RecordStep.assigned host' field value) := by
  by_cases hfield : field = "install_image"
  · obtain ⟨status, hstatus, rfl⟩ := h
    rw [hfield, RecordStep.assigned_image, RecordStep.assigned_image]
    exact (paired_eq (RecordStep.imageGiven value)).map fun _ _ himage =>
      himage ▸ ⟨status, hstatus, rfl⟩
  · rw [RecordStep.assigned_of_ne _ hfield, RecordStep.assigned_of_ne _ hfield]
    exact h.write field value

end HostRecord

end HostLifecycle
