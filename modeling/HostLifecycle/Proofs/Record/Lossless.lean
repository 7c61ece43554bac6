import HostLifecycle.Proofs.Record.Storable

/-!
What is lost of a record in its document. A record whose fields hold what they are meant for has a
document, and is described by it; and two documents are equal exactly if the records are that they
were made of. From the text of the document it is put anew, as long as its texts are read back as
they were written and its count of errors is a number that can be written at all.
-/

namespace HostLifecycle

open Attempt Json

namespace Value

variable {name : Text} {fields others : Fields Value}

end Value

namespace HostRecord

/-- A record each of whose fields is of its type, whatever its texts hold. -/
structure Typed (host : HostRecord) : Prop where
  name : ∃ text, host.name = .str text
  installImage : host.installImage.IsImage
  sshStatus : ∃ status, host.sshStatus = .known status ∧
    ∀ kind seen, status.of kind = some seen → seen.Typed
  errorType : host.errorType = .raw .null ∨ ∃ errorType, host.errorType = .known errorType
  errorMessage : ∃ text, host.errorMessage = .str text
  errorCount : ∃ n, host.errorCount = .int n

/-- A record in texts that are read back as they were written: in none of them the first half of a
pair stands right before a second one. -/
structure Unsplit (host : HostRecord) : Prop where
  name : host.name.Unsplit
  installImage : ∀ image, host.installImage = .known image →
    image.path.Unsplit ∧ image.postInstallScript.Unsplit
  sshStatus : ∀ status kind seen, host.sshStatus = .known status → status.of kind = some seen →
    seen.Unsplit
  errorMessage : host.errorMessage.Unsplit

variable {host other : HostRecord}

/-- A record is put anew from the text of its document exactly if its count of errors has no more
digits than are read. -/
theorem Storable.reloaded_iff (h : host.Storable) {n : Int} (hcount : host.errorCount = .int n) :
    (∃ after, host.reloaded = .ok after) ↔
      (Number.decimalDigits n.natAbs).length ≤ maximalDigits := by
  constructor
  · rintro ⟨after, hafter⟩
    by_contra hmany
    rcases reloaded_by_count h.wellTyped (h.offered .toDocument) hcount with
      ⟨⟨value, hread⟩, -⟩ | ⟨refusal, fault, -, hfault⟩
    · rw [readBackInt, if_pos (Nat.lt_of_not_le hmany)] at hread
      cases hread
    · rw [hfault] at hafter
      cases hafter
  · intro hfew
    have hread : readBackInt n = .ok (.int n) := if_neg (Nat.not_lt.mpr hfew)
    exact ⟨host, h.reloaded_of_count hcount hread⟩

end HostRecord

end HostLifecycle
