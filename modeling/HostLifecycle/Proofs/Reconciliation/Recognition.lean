import HostLifecycle.Proofs.Credential.Secret
import HostLifecycle.Proofs.Reconciliation.Rotation
import HostLifecycle.Proofs.Reconciliation.Storing
import HostLifecycle.Proofs.Record.Lossless

/-!
Which secrets a host recognizes. What is remembered of a secret tells it from every secret of
another name, and from every one whose keys or values are different, and nothing else is told
apart. A record that remembers the secret compares so, finds rotations so, and still does once it
was put anew from its stored text.
-/

namespace HostLifecycle

open Attempt Json

namespace HostRecord

/-- What a record makes of a credential beside the one of its kind that was seen last: whether it
is the same one, and a rotation if it is not. -/
structure Tells (kind : CredentialKind) (credential : Credential) (same : Bool)
    (host : HostRecord) : Prop where
  compared : host.compared kind (some credential) = .ok (.bool same)
  rotation : host.findsRotated kind (some credential) = !same

variable {host : HostRecord} {kind : CredentialKind} {credential : Credential}
  {seen : SecretStatus} {same : Bool}

theorem tells_of_remembered (hremembered : host.remembered kind = .ok (some seen))
    (hagrees : seen.agrees credential = .ok same) : host.Tells kind credential same where
  compared := by
    simp [HostRecord.compared, hremembered, hagrees, bind, Except.bind, Except.map]
  rotation := by simp [findsRotated, hremembered, hagrees]

/-- Whatever there is to remember of a credential is remembered. -/
theorem Storable.exists_remember (h : host.Storable) (kind : CredentialKind)
    (hseen : SecretStatus.ofCredential credential = .ok seen) :
    ∃ noted, host.remember kind credential = .ok noted ∧
      noted.remembered kind = .ok (some seen) := by
  obtain ⟨status, hstatus, -⟩ := h.wellTyped.sshStatus
  have hremember : host.remember kind credential =
      .ok { host with sshStatus := .known (status.remember kind seen) } := by
    rw [HostRecord.remember, h.offered, hseen, credentialStatus, hstatus]
    rfl
  obtain ⟨other, hother, hremembered⟩ := remembered_of_remember hremember
  rw [hseen] at hother
  cases hother
  exact ⟨_, hremember, hremembered⟩

end HostRecord

namespace Secret

variable {secret other : Secret}

/-- What is remembered of a secret of texts is read back as it was. -/
theorem storable_credential (hname : secret.name.Unsplit) (h : secret.IsWhole) :
    secret.credential.Storable := by
  have hnames : ∀ fields, secret.credential.data = .object fields →
      Fields.names fields = secret.data.names := by
    rintro fields ⟨⟩
    simp [Fields.names, Function.comp_def]
  have htexts : ∀ entries, secret.credential.data ≠ .mapping entries := by
    intro entries hentries
    cases hentries
  refine ⟨⟨⟨secret.name, rfl⟩, ?_, htexts⟩, Value.unsplit_str.mpr hname, ?_⟩
  · intro fields hfields
    rw [hnames fields hfields]
    exact secret.keys_nodup
  · intro fields hfields key hkey
    rw [hnames fields hfields] at hkey
    obtain ⟨entry, hentry, rfl⟩ := List.mem_map.mp hkey
    exact (Text.plain_of_isWhole (h entry hentry).1).unsplit

/-- A secret is told from another one exactly if their names, their keys or the values under these
are different, in whatever order the keys stand, as long as no two of the values have one digest.
It is remembered of every host so, and the host still tells them apart once it was put anew from
its stored text, from which it can be put as long as its count of errors can be read. The name of
the secret has to be read back as it was written, as is every one without halves. -/
theorem recognized_iff (hdata : secret.data ≠ []) (hwhole : secret.IsWhole)
    (hother : other.IsWhole) (hfree : secret.CollisionFree other) :
    ∃ seen same, SecretStatus.ofCredential secret.credential = .ok seen ∧
      seen.agrees other.credential = .ok same ∧
      (same = true ↔ secret.name = other.name ∧ secret.data.Same other.data) ∧
      ∀ (host : HostRecord) kind, host.Storable → secret.name.Unsplit →
        ∃ noted n, host.remember kind secret.credential = .ok noted ∧
          noted.errorCount = .int n ∧ noted.Tells kind other.credential same ∧
          ((∃ after, noted.reloaded = .ok after) ↔
            (Number.decimalDigits n.natAbs).length ≤ maximalDigits) ∧
          ∀ after, noted.reloaded = .ok after →
            after.remembered kind = .ok (some seen) ∧ after.Tells kind other.credential same := by
  have hseen := ofCredential_credential hdata hwhole.hasDigests
  have hagrees : secret.seen.agrees other.credential = .ok (secret.recognizes other) :=
    agrees_credential hother.hasDigests
  refine ⟨_, _, hseen, hagrees, recognizes_iff hwhole.hasDigests hother.hasDigests hfree, ?_⟩
  intro host kind hhost hname
  obtain ⟨noted, hremember, hremembered⟩ := hhost.exists_remember kind hseen
  have hstorable : noted.Storable :=
    hhost.remember (storable_credential hname hwhole) hremember
  obtain ⟨n, hcount⟩ := hstorable.wellTyped.errorCount
  have htells := HostRecord.tells_of_remembered hremembered hagrees
  refine ⟨noted, n, hremember, hcount, htells, hstorable.reloaded_iff hcount, ?_⟩
  intro after hafter
  rw [hstorable.eq_of_reloaded hafter]
  exact ⟨hremembered, htells⟩

/-- Two keys whose values were exchanged are a rotation, also for a host that was restarted. -/
theorem recognized_iff_exchanged :
    let secret : Secret := ⟨"os", [("first", "x"), ("second", "y")], by decide⟩
    let other : Secret := ⟨"os", [("second", "x"), ("first", "y")], by decide⟩
    ∃ noted after, (HostRecord.new (.str "bm-1")).remember .os secret.credential = .ok noted ∧
      noted.reloaded = .ok after ∧ after.findsRotated .os (some other.credential) = true := by
  intro secret other
  have hfree : secret.CollisionFree other := by decide +kernel
  obtain ⟨seen, same, -, -, hsame, hhosts⟩ :=
    @recognized_iff secret other nofun (by decide) (by decide) hfree
  have hdiffer : same = false := by
    rw [Bool.eq_false_iff]
    intro h
    have hfirst := (hsame.mp h).2 "first"
    exact absurd hfirst (by decide)
  have hstorable : (HostRecord.new (.str "bm-1")).Storable :=
    HostRecord.storable_new (Text.unsplit_ofChars _)
  obtain ⟨noted, n, hremember, hcount, -, hread, hafter⟩ :=
    hhosts _ .os hstorable (Text.unsplit_ofChars _)
  have hnone : n = 0 := by
    obtain ⟨status, seen', -, -, rfl⟩ := HostRecord.exists_of_remember hremember
    exact (Value.int.inj hcount).symm
  obtain ⟨after, hreloaded⟩ := hread.mpr (by rw [hnone]; decide)
  have hrotation := (hafter after hreloaded).2.rotation
  rw [hdiffer] at hrotation
  exact ⟨noted, after, hremember, hreloaded, hrotation⟩

end Secret

end HostLifecycle
