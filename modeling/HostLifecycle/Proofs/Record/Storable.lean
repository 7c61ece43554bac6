import HostLifecycle.Proofs.Record.Reload
import HostLifecycle.Record.Edit

/-!
Records that are stored without loss. Their fields hold what they are meant for and their texts
are read back as they were written, so that nothing of such a record is lost on the way through
its stored text.
-/

namespace HostLifecycle

open Attempt Json

structure InstallImage.Storable (image : InstallImage) : Prop where
  wellTyped : image.WellTyped
  path : image.path.Unsplit
  script : image.postInstallScript.Unsplit

/-- An image that is to be installed, or null where it was withdrawn. -/
def Held.IsStorable (held : Held InstallImage) : Prop :=
  held = .raw .null ∨ ∃ image, held = .known image ∧ image.Storable

theorem Held.IsStorable.isImage {held : Held InstallImage} (h : held.IsStorable) :
    held.IsImage := by
  rcases h with hnone | ⟨image, himage, hstored⟩
  · exact Or.inl hnone
  · exact Or.inr ⟨image, himage, hstored.wellTyped⟩

namespace HostRecord

/-- A record whose fields hold what they are meant for, whose texts are read back as they were
written, and that hides none of its operations. -/
structure Storable (host : HostRecord) : Prop where
  wellTyped : host.WellTyped
  name : host.name.Unsplit
  installImage : host.installImage.IsStorable
  errorMessage : host.errorMessage.Unsplit
  hidden : host.hidden = []

theorem storable_new {name : Text} (hname : name.Unsplit) : (new (.str name)).Storable where
  wellTyped := wellTyped_new name
  name := Value.unsplit_str.mpr hname
  installImage := Or.inl rfl
  errorMessage := Value.unsplit_str.mpr (Text.unsplit_ofChars _)
  hidden := rfl

variable {host : HostRecord}

theorem Storable.joined_eq (h : host.Storable) : host.joined = host := by
  obtain ⟨-, hname, himage, hmessage, hhidden⟩ := h
  obtain ⟨name, state, marker, image, status, errorType, message, count, hidden⟩ := host
  have hkept : name.joinedText = name := hname
  have hkept' : message.joinedText = message := hmessage
  cases hhidden
  rcases himage with rfl | ⟨image, rfl, -, hpath, hscript⟩
  · simp [joined, hkept, hkept']
  · have hpath' : image.path.joinedText = image.path := hpath
    have hscript' : image.postInstallScript.joinedText = image.postInstallScript := hscript
    simp [joined, hkept, hkept', InstallImage.joined, hpath', hscript']

/-- Nothing is lost where a record is put anew from its stored text. -/
theorem Storable.reloaded_eq (h : host.Storable) :
    host.reloaded = .ok host ∨ ∃ fault, host.reloaded = .error fault := by
  have hread := HostRecord.reloaded_eq h.wellTyped
  rw [h.joined_eq] at hread
  exact hread

/-- What a record that can be stored is put anew as is that record. -/
theorem Storable.eq_of_reloaded {after : HostRecord} (h : host.Storable)
    (hafter : host.reloaded = .ok after) : after = host := by
  rcases h.reloaded_eq with hread | ⟨fault, hfault⟩
  · exact Except.ok.inj (hafter.symm.trans hread)
  · cases hafter.symm.trans hfault

/-- None of the operations of a record that can be stored is hidden. -/
theorem Storable.offered (h : host.Storable) (operation : Operation) :
    host.offer operation = .ok () := by
  rw [offer, h.hidden]
  rfl

/-- A record that can be stored is put anew, as long as its count of errors can be read. -/
theorem Storable.reloaded_of_count (h : host.Storable) {n : Int} {value : Value}
    (hcount : host.errorCount = .int n) (hdigits : readBackInt n = .ok value) :
    host.reloaded = .ok host := by
  rcases reloaded_by_count h.wellTyped (h.offered .toDocument) hcount with
    ⟨-, hread⟩ | ⟨refusal, fault, hrefused, -⟩
  · rw [h.joined_eq] at hread
    exact hread
  · rw [hdigits] at hrefused
    cases hrefused

theorem Storable.atState (h : host.Storable) (state : State) (marker : Bool) :
    Storable { host with state := state, deletionRequested := marker } :=
  ⟨h.wellTyped.atState state marker, h.name, h.installImage, h.errorMessage, h.hidden⟩

theorem Storable.withImage (h : host.Storable) {held : Held InstallImage}
    (himage : held.IsStorable) : Storable { host with installImage := held } := by
  have hwell : WellTyped { host with installImage := held } :=
    ⟨h.wellTyped.name, himage.isImage, h.wellTyped.sshStatus, h.wellTyped.errorType,
      h.wellTyped.errorMessage, h.wellTyped.errorCount⟩
  exact ⟨hwell, h.name, himage, h.errorMessage, h.hidden⟩

/-- What is remembered of the credentials is read back as it was. -/
theorem Storable.withStatus (h : host.Storable) {held : Held SshStatus}
    (hwell : WellTyped { host with sshStatus := held }) :
    Storable { host with sshStatus := held } :=
  ⟨hwell, h.name, h.installImage, h.errorMessage, h.hidden⟩

/-- A terminal error whose message is read back as it was written. -/
theorem Storable.withError (h : host.Storable) (errorType : ErrorType) {message : Text}
    (hmessage : message.Unsplit) (n : Int) :
    Storable { host with
      errorType := .known errorType, errorMessage := .str message, errorCount := .int n } := by
  have hwell : WellTyped { host with
      errorType := .known errorType, errorMessage := .str message, errorCount := .int n } :=
    ⟨h.wellTyped.name, h.wellTyped.installImage, h.wellTyped.sshStatus,
      Or.inr ⟨errorType, rfl⟩, ⟨message, rfl⟩, ⟨n, rfl⟩⟩
  exact ⟨hwell, h.name, h.installImage, Value.unsplit_str.mpr hmessage, h.hidden⟩

end HostRecord

end HostLifecycle
