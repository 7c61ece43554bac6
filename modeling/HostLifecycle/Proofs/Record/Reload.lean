import HostLifecycle.Proofs.Attempt
import HostLifecycle.Proofs.Credential.Fingerprint
import HostLifecycle.Proofs.Json.ReadBack
import HostLifecycle.Proofs.Text.Halves
import HostLifecycle.Proofs.Value.Fields
import HostLifecycle.Record.Document

/-!
What a record is read back as from its stored text. A record whose fields hold what they
are meant for comes back with the halves of its texts put together, and what is remembered
of its credentials comes back as it was. Nothing else of the record changes. And whatever its fields
hold, a record comes back in its state, and with the mark of its deletion.
-/

namespace HostLifecycle

open Attempt Json

def Value.joinedText : Value → Value
  | .str text => .str text.joined
  | value => value

/-- Whether a value is read back as it was written, if it is a text: the first half of a pair
never stands right before a second one in it. -/
def Value.Unsplit (value : Value) : Prop := value.joinedText = value

theorem Value.unsplit_str {text : Text} : Unsplit (.str text) ↔ text.Unsplit := by
  simp [Unsplit, joinedText, Text.Unsplit]

namespace SecretStatus

/-- What is remembered of a credential by its name and the digests of its values. -/
structure Typed (seen : SecretStatus) : Prop where
  reference : ∃ text, seen.reference = .str text
  dataHash : ∃ hashes, seen.dataHash = fingerprintValue hashes ∧ hashes.names.Nodup

/-- What is remembered of a credential in texts that are read back as they were written. -/
structure Unsplit (seen : SecretStatus) : Prop where
  reference : seen.reference.Unsplit
  dataHash : ∀ fields, seen.dataHash = .object fields →
    ∀ field ∈ fields, field.1.Unsplit ∧ field.2.Unsplit

structure Storable (seen : SecretStatus) : Prop where
  typed : seen.Typed
  unsplit : seen.Unsplit

theorem storable_of_prints {name : Text} {prints : Fields Text} (hname : name.Unsplit)
    (hnames : prints.names.Nodup) (hprints : ∀ entry ∈ prints, entry.1.Unsplit ∧ entry.2.Unsplit) :
    Storable ⟨.str name, fingerprintValue prints⟩ where
  typed := ⟨⟨name, rfl⟩, prints, rfl, hnames⟩
  unsplit := by
    refine ⟨Value.unsplit_str.mpr hname, ?_⟩
    rintro fields ⟨⟩ field hfield
    obtain ⟨entry, hentry, rfl⟩ := List.mem_map.mp hfield
    obtain ⟨hkey, hdigest⟩ := hprints entry hentry
    exact ⟨hkey, Value.unsplit_str.mpr hdigest⟩

end SecretStatus

/-- An image by its path and, if there is one, its script. -/
structure InstallImage.WellTyped (image : InstallImage) : Prop where
  path : ∃ text, image.path = .str text
  script : image.postInstallScript = .null ∨ ∃ text, image.postInstallScript = .str text

def InstallImage.joined (image : InstallImage) : InstallImage :=
  ⟨image.path.joinedText, image.postInstallScript.joinedText⟩

/-- An image that is to be installed, or null where it was withdrawn. -/
def Held.IsImage (held : Held InstallImage) : Prop :=
  held = .raw .null ∨ ∃ image, held = .known image ∧ image.WellTyped

namespace HostRecord

/-- A record whose fields hold what they are meant for. What is remembered of its credentials is
read back as it was written. -/
structure WellTyped (host : HostRecord) : Prop where
  name : ∃ text, host.name = .str text
  installImage : host.installImage.IsImage
  sshStatus : ∃ status, host.sshStatus = .known status ∧
    ∀ kind seen, status.of kind = some seen → seen.Storable
  errorType : host.errorType = .raw .null ∨ ∃ errorType, host.errorType = .known errorType
  errorMessage : ∃ text, host.errorMessage = .str text
  errorCount : ∃ n, host.errorCount = .int n

theorem wellTyped_new (name : Text) : (new (.str name)).WellTyped where
  name := ⟨name, rfl⟩
  installImage := Or.inl rfl
  sshStatus := ⟨.empty, rfl, fun kind _ => by cases kind <;> exact nofun⟩
  errorType := Or.inl rfl
  errorMessage := ⟨_, rfl⟩
  errorCount := ⟨0, rfl⟩

/-- Neither the state of a record nor its marker can be anything else than it is meant for. -/
theorem WellTyped.atState {host : HostRecord} (h : host.WellTyped) (state : State)
    (marker : Bool) : WellTyped { host with state := state, deletionRequested := marker } :=
  ⟨h.name, h.installImage, h.sshStatus, h.errorType, h.errorMessage, h.errorCount⟩

/-- What a record is read back as. -/
def joined (host : HostRecord) : HostRecord :=
  { host with
    name := host.name.joinedText
    installImage := match host.installImage with
      | .known image => .known image.joined
      | .raw value => .raw value
    errorMessage := host.errorMessage.joinedText
    hidden := [] }

end HostRecord

def joinedPrints (prints : Fields Text) : Fields Text :=
  Fields.ofPairs (prints.map fun entry => (entry.1.joined, entry.2.joined))

section

variable (levels : Nat)

theorem readBack_str (text : Text) : readBack levels (.str text) = .ok (.str text.joined) := by
  simp only [readBack]

theorem readBack_null : readBack levels .null = .ok .null := by
  simp only [readBack]

theorem readBack_bool (b : Bool) : readBack levels (.bool b) = .ok (.bool b) := by
  simp only [readBack]

theorem readBackFields_texts (prints : Fields Text) :
    readBackFields levels (prints.map fun entry => (entry.1, .str entry.2)) =
      .ok (prints.map fun entry => (entry.1.joined, .str entry.2.joined)) := by
  induction prints with
  | nil => rfl
  | cons entry rest ih =>
    rw [List.map_cons, readBackFields, readBack_str, ih]
    rfl

theorem readBack_prints (prints : Fields Text) :
    readBack (levels + 1) (fingerprintValue prints) =
      .ok (fingerprintValue (joinedPrints prints)) := by
  have hpairs := Fields.ofPairs_map Value.str
    (prints.map fun entry => (entry.1.joined, entry.2.joined))
  rw [List.map_map] at hpairs
  rw [fingerprintValue, readBack, readBackFields_texts, fingerprintValue, joinedPrints, ← hpairs]
  rfl

theorem readBack_object (fields : Fields Value) :
    readBack (levels + 1) (.object fields) = (do
      let pairs ← readBackFields levels fields
      pure (.object (Fields.ofPairs pairs))) := by
  rw [readBack]
  cases readBackFields levels fields <;> rfl

theorem readBack_toValue (seen : SecretStatus) :
    readBack (levels + 1) seen.toValue = (do
      let reference ← readBack levels seen.reference
      let dataHash ← readBack levels seen.dataHash
      pure (SecretStatus.toValue ⟨reference, dataHash⟩)) := by
  rw [SecretStatus.toValue, readBack_object]
  simp only [readBackFields, bind_assoc, pure_bind]
  rfl

theorem readBack_statusValue (status : SshStatus) :
    readBack (levels + 1) status.toValue = (do
      let os ← readBack levels (SshStatus.entryValue status.os)
      let rescue ← readBack levels (SshStatus.entryValue status.rescue)
      pure (.object [("current_os", os), ("current_rescue", rescue)])) := by
  rw [SshStatus.toValue, readBack_object]
  simp only [readBackFields, bind_assoc, pure_bind]
  rfl

theorem readBack_fingerprint {hashes : Fields Text} (hnames : hashes.names.Nodup)
    (h : ∀ entry ∈ hashes, entry.1.Unsplit ∧ entry.2.Unsplit) :
    readBack (levels + 1) (fingerprintValue hashes) = .ok (fingerprintValue hashes) := by
  have hkept : ∀ entry ∈ hashes, (entry.1.joined, entry.2.joined) = entry := by
    intro entry hentry
    obtain ⟨hname, hhash⟩ := h entry hentry
    rw [show entry.1.joined = entry.1 from hname, show entry.2.joined = entry.2 from hhash]
  rw [readBack_prints, joinedPrints, List.map_congr_left hkept, List.map_id',
    Fields.ofPairs_of_nodup hnames]

/-- What is remembered of a credential comes back as it was. -/
theorem readBack_seen {seen : SecretStatus} (h : seen.Storable) :
    readBack (levels + 2) seen.toValue = .ok seen.toValue := by
  obtain ⟨text, hreference⟩ := h.typed.reference
  obtain ⟨hashes, hhash, hnames⟩ := h.typed.dataHash
  have htext := h.unsplit.reference
  rw [hreference, Value.unsplit_str] at htext
  have hentries : ∀ entry ∈ hashes, entry.1.Unsplit ∧ entry.2.Unsplit := by
    intro entry hentry
    obtain ⟨hname, hdigest⟩ := h.unsplit.dataHash _ hhash _ (List.mem_map_of_mem hentry)
    exact ⟨hname, Value.unsplit_str.mp hdigest⟩
  rw [readBack_toValue, hreference, hhash, readBack_str,
    readBack_fingerprint levels hnames hentries, show text.joined = text from htext]
  simp only [bind, Except.bind, SecretStatus.toValue, hreference, hhash]
  rfl

theorem readBack_entry {entry : Option SecretStatus}
    (h : ∀ seen, entry = some seen → seen.Storable) :
    readBack (levels + 2) (SshStatus.entryValue entry) = .ok (SshStatus.entryValue entry) := by
  cases entry with
  | none => exact readBack_null _
  | some seen => exact readBack_seen levels (h seen rfl)

theorem readBack_status {status : SshStatus}
    (h : ∀ kind seen, status.of kind = some seen → seen.Storable) :
    readBack (levels + 3) status.toValue = .ok status.toValue := by
  have hos : readBack (levels + 2) (SshStatus.entryValue status.os) =
      .ok (SshStatus.entryValue status.os) := readBack_entry levels (h .os)
  have hrescue : readBack (levels + 2) (SshStatus.entryValue status.rescue) =
      .ok (SshStatus.entryValue status.rescue) := readBack_entry levels (h .rescue)
  rw [readBack_statusValue, hos, hrescue]
  rfl

theorem readBack_image {image : InstallImage} (h : image.WellTyped) :
    readBack (levels + 1) image.toValue = .ok image.joined.toValue := by
  obtain ⟨⟨path, hpath⟩, hscript⟩ := h
  rw [InstallImage.toValue, InstallImage.joined, hpath]
  rcases hscript with hscript | ⟨script, hscript⟩
  · rw [hscript, readBack_object]
    simp only [readBackFields, readBack_str, readBack_null]
    rfl
  · rw [hscript, readBack_object]
    simp only [readBackFields, readBack_str]
    rfl

end

theorem SecretStatus.ofValue_toValue (seen : SecretStatus) : ofValue seen.toValue = .ok seen :=
  rfl

theorem SshStatus.entryOf_entryValue (entry : Option SecretStatus) :
    entryOf (some (entryValue entry)) = .ok entry := by
  cases entry <;> rfl

theorem SshStatus.ofValue_toValue (status : SshStatus) : ofValue status.toValue = .ok status := by
  change (do
    let os ← entryOf (some (entryValue status.os))
    let rescue ← entryOf (some (entryValue status.rescue))
    pure ⟨os, rescue⟩) = Except.ok status
  rw [entryOf_entryValue, entryOf_entryValue]
  rfl

theorem InstallImage.ofValue_toValue (image : InstallImage) :
    ofValue image.toValue = .ok image := rfl

theorem ErrorType.ofValue_text (errorType : ErrorType) :
    ofValue (.str errorType.text) = .ok errorType := by
  cases errorType <;> rfl

theorem State.unsplit_text (state : State) : state.text.Unsplit := by
  cases state <;> exact Text.unsplit_ofChars _

theorem State.ofValue_text (state : State) : ofValue (.str state.text) = .ok state := by
  cases state <;> rfl

namespace HostRecord

/-- The fields of the document of a record. -/
def documentFields (errorType : Value) (host : HostRecord) : Fields Value :=
  [("name", host.name),
   ("provisioning_state", .str host.state.text),
   ("deletion_requested", .bool host.deletionRequested),
   ("install_image", host.installImage.toValue InstallImage.toValue),
   ("ssh_status", host.sshStatus.toValue SshStatus.toValue),
   ("error_type", errorType),
   ("error_message", host.errorMessage),
   ("error_count", host.errorCount)]

theorem toDocument_eq (host : HostRecord) : host.toDocument = (do
    host.offer .toDocument
    let errorType ← errorTypeValue host.errorType
    pure (.object (host.documentFields errorType))) := rfl

theorem readBack_documentFields (levels : Nat) (errorType : Value) (host : HostRecord) :
    readBack (levels + 1) (.object (host.documentFields errorType)) = (do
      let name ← readBack levels host.name
      let state ← readBack levels (.str host.state.text)
      let marker ← readBack levels (.bool host.deletionRequested)
      let image ← readBack levels (host.installImage.toValue InstallImage.toValue)
      let status ← readBack levels (host.sshStatus.toValue SshStatus.toValue)
      let errorType ← readBack levels errorType
      let message ← readBack levels host.errorMessage
      let count ← readBack levels host.errorCount
      pure (.object
        [("name", name), ("provisioning_state", state), ("deletion_requested", marker),
         ("install_image", image), ("ssh_status", status), ("error_type", errorType),
         ("error_message", message), ("error_count", count)])) := by
  rw [readBack_object, documentFields]
  simp only [readBackFields, bind_assoc, pure_bind]
  rfl

theorem ofDocument_fields (name state marker image status errorType message count : Value) :
    ofDocument (.object
      [("name", name), ("provisioning_state", state), ("deletion_requested", marker),
       ("install_image", image), ("ssh_status", status), ("error_type", errorType),
       ("error_message", message), ("error_count", count)]) = (do
      let status ← SshStatus.ofValue status
      let image ← heldOf InstallImage.ofValue (some image)
      let errorType ← heldOf ErrorType.ofValue (some errorType)
      let state ← State.ofValue state
      pure ⟨name, state, marker.isTruthy, image, .known status, errorType, message, count, []⟩) :=
  rfl

variable {host : HostRecord}

theorem readBack_held_image {held : Held InstallImage} (h : held.IsImage) (levels : Nat) :
    readBack (levels + 1) (held.toValue InstallImage.toValue) =
      .ok ((match held with
        | .known image => Held.known image.joined
        | .raw value => .raw value).toValue InstallImage.toValue) := by
  rcases h with rfl | ⟨image, rfl, himage⟩
  · exact readBack_null _
  · exact readBack_image levels himage

/-- The document of a record is read back as the document of the record that it is read
back as, if its count of errors is read back. -/
theorem readBack_document (h : host.WellTyped) {n : Int} (hcount : host.errorCount = .int n)
    {errorType : Value} (levels : Nat) (herror : readBack (levels + 3) errorType = .ok errorType) :
    readBack (levels + 4) (.object (host.documentFields errorType)) =
      (readBackInt n).map fun _ => .object (host.joined.documentFields errorType) := by
  obtain ⟨name, hname⟩ := h.name
  obtain ⟨status, hstatus, hseen⟩ := h.sshStatus
  obtain ⟨message, hmessage⟩ := h.errorMessage
  have himage := readBack_held_image h.installImage (levels + 2)
  have hssh : readBack (levels + 3) (host.sshStatus.toValue SshStatus.toValue) =
      .ok (host.sshStatus.toValue SshStatus.toValue) := by
    rw [hstatus]
    exact readBack_status levels hseen
  have hstate : host.state.text.joined = host.state.text := host.state.unsplit_text
  have hlast : readBack (levels + 3) (.int n) = (readBackInt n).map fun _ => Value.int n := by
    rw [readBack, readBackInt]
    split <;> rfl
  rw [readBack_documentFields, himage, hssh, herror, hname, hmessage, hcount, hlast]
  simp only [readBack_str, readBack_bool, hstate, documentFields, joined, hname, hmessage, hcount]
  cases readBackInt n <;> rfl

theorem heldOf_image {held : Held InstallImage}
    (h : held = .raw .null ∨ ∃ image, held = .known image) :
    heldOf InstallImage.ofValue (some (held.toValue InstallImage.toValue)) = .ok held := by
  rcases h with rfl | ⟨image, rfl⟩ <;> rfl

theorem heldOf_errorType {held : Held ErrorType}
    (h : held = .raw .null ∨ ∃ errorType, held = .known errorType) :
    ∃ value, errorTypeValue held = .ok value ∧ (∀ levels, readBack levels value = .ok value) ∧
      heldOf ErrorType.ofValue (some value) = .ok held := by
  rcases h with rfl | ⟨errorType, rfl⟩
  · exact ⟨.null, rfl, readBack_null, rfl⟩
  · have hjoined : errorType.text.joined = errorType.text := by
      cases errorType <;> exact Text.unsplit_ofChars _
    refine ⟨.str errorType.text, rfl, fun levels => ?_, ?_⟩
    · rw [readBack_str, hjoined]
    · cases errorType <;> rfl

/-- A document describes the record that it was made of. -/
theorem ofDocument_documentFields
    (himage : host.installImage = .raw .null ∨ ∃ image, host.installImage = .known image)
    (hstatus : ∃ status, host.sshStatus = .known status) (hhidden : host.hidden = [])
    {errorType : Value} (herror : heldOf ErrorType.ofValue (some errorType) = .ok host.errorType) :
    ofDocument (.object (host.documentFields errorType)) = .ok host := by
  obtain ⟨status, hstatus⟩ := hstatus
  obtain ⟨name, state, deletionRequested, installImage, sshStatus, heldError, message, count,
    hidden⟩ := host
  cases hhidden
  cases hstatus
  rw [documentFields, ofDocument_fields, heldOf_image himage, herror, State.ofValue_text]
  change (do
    let status ← SshStatus.ofValue status.toValue
    _) = _
  rw [SshStatus.ofValue_toValue]
  rfl

/-- A record whose fields hold what they are meant for is read back with its texts put
together, unless its count of errors is not read back. -/
theorem reloaded_by_count (h : host.WellTyped) (hoffer : host.offer .toDocument = .ok ())
    {n : Int} (hcount : host.errorCount = .int n) :
    (∃ value, readBackInt n = .ok value) ∧ host.reloaded = .ok host.joined ∨
      ∃ refusal fault, readBackInt n = .error refusal ∧ host.reloaded = .error fault := by
  have hclass : host.errorType = .raw .null ∨ ∃ errorType, host.errorType = .known errorType :=
    h.errorType
  obtain ⟨errorType, hvalue, hread, hheld⟩ := heldOf_errorType hclass
  have hstored : read (write .line (.object (host.documentFields errorType))) =
      (readBackInt n).map fun _ => .object (host.joined.documentFields errorType) := by
    rw [read_write, maximalLevels]
    exact readBack_document h hcount 983 (hread 986)
  have hdocument : host.toDocument = .ok (.object (host.documentFields errorType)) := by
    rw [toDocument_eq, hoffer, hvalue]
    rfl
  rw [reloaded, hdocument]
  simp only [bind, Except.bind, hstored]
  cases hdigits : readBackInt n with
  | error refusal => cases refusal <;> exact Or.inr ⟨_, _, rfl, rfl⟩
  | ok _ =>
    have himage : host.joined.installImage = .raw .null ∨
        ∃ image, host.joined.installImage = .known image := by
      rcases h.installImage with himage | ⟨image, himage, -⟩
      · exact Or.inl (by rw [joined, himage])
      · exact Or.inr ⟨image.joined, by rw [joined, himage]⟩
    obtain ⟨status, hstatus, -⟩ := h.sshStatus
    exact Or.inl ⟨⟨_, rfl⟩, ofDocument_documentFields himage ⟨status, hstatus⟩ rfl hheld⟩

/-- A well-typed record is read back with its texts put together, unless it cannot be stored at
all. -/
theorem reloaded_eq (h : host.WellTyped) :
    host.reloaded = .ok host.joined ∨ ∃ fault, host.reloaded = .error fault := by
  obtain ⟨n, hcount⟩ := h.errorCount
  cases hoffer : host.offer .toDocument with
  | error fault =>
    right
    refine ⟨fault, ?_⟩
    rw [reloaded, toDocument_eq, hoffer]
    rfl
  | ok _ =>
    rcases reloaded_by_count h hoffer hcount with ⟨-, hread⟩ | ⟨refusal, fault, -, hfault⟩
    · exact Or.inl hread
    · exact Or.inr ⟨fault, hfault⟩

theorem WellTyped.joined (h : host.WellTyped) : host.joined.WellTyped := by
  refine ⟨?_, ?_, h.sshStatus, h.errorType, ?_, h.errorCount⟩
  · obtain ⟨name, hname⟩ := h.name
    exact ⟨name.joined, by rw [HostRecord.joined, hname]; rfl⟩
  · rcases h.installImage with himage | ⟨image, himage, ⟨path, hpath⟩, hscript⟩
    · exact Or.inl (by rw [HostRecord.joined, himage])
    · refine Or.inr ⟨image.joined, by rw [HostRecord.joined, himage], ⟨path.joined, ?_⟩, ?_⟩
      · rw [InstallImage.joined, hpath]
        rfl
      · rcases hscript with hscript | ⟨script, hscript⟩
        · exact Or.inl (by rw [InstallImage.joined, hscript]; rfl)
        · exact Or.inr ⟨script.joined, by rw [InstallImage.joined, hscript]; rfl⟩
  · obtain ⟨message, hmessage⟩ := h.errorMessage
    exact ⟨message.joined, by rw [HostRecord.joined, hmessage]; rfl⟩

theorem exists_of_toDocument {document : Value} (h : host.toDocument = .ok document) :
    ∃ errorType, document = .object (host.documentFields errorType) := by
  rw [toDocument_eq] at h
  obtain ⟨_, -, herror⟩ := exists_of_bind_ok h
  obtain ⟨errorType, -, hobject⟩ := exists_of_bind_ok herror
  cases hobject
  exact ⟨errorType, rfl⟩

/-- Whatever the fields of a record hold, it is read back in the state in which it was stored,
and with its mark. -/
theorem state_of_reloaded {after : HostRecord} (h : host.reloaded = .ok after) :
    after.state = host.state ∧ after.deletionRequested = host.deletionRequested := by
  obtain ⟨document, hdocument, hread⟩ := exists_of_bind_ok h
  obtain ⟨errorType, rfl⟩ := exists_of_toDocument hdocument
  rw [read_write, maximalLevels] at hread
  rcases hfound : readBack 987 (.object (host.documentFields errorType)) with refusal | found
  · rw [hfound] at hread
    cases refusal <;> cases hread
  · rw [hfound] at hread
    have hparts := (readBack_documentFields 986 errorType host).symm.trans hfound
    obtain ⟨name, -, hparts⟩ := exists_of_bind_ok hparts
    obtain ⟨state, hstate, hparts⟩ := exists_of_bind_ok hparts
    obtain ⟨marker, hmarker, hparts⟩ := exists_of_bind_ok hparts
    obtain ⟨image, -, hparts⟩ := exists_of_bind_ok hparts
    obtain ⟨status, -, hparts⟩ := exists_of_bind_ok hparts
    obtain ⟨errorType', -, hparts⟩ := exists_of_bind_ok hparts
    obtain ⟨message, -, hparts⟩ := exists_of_bind_ok hparts
    obtain ⟨count, -, hparts⟩ := exists_of_bind_ok hparts
    have hjoined : host.state.text.joined = host.state.text := host.state.unsplit_text
    rw [readBack_str, hjoined] at hstate
    rw [readBack_bool] at hmarker
    cases hstate
    cases hmarker
    cases hparts
    simp only [ofDocument_fields] at hread
    obtain ⟨status', -, hread⟩ := exists_of_bind_ok hread
    obtain ⟨image', -, hread⟩ := exists_of_bind_ok hread
    obtain ⟨errorType'', -, hread⟩ := exists_of_bind_ok hread
    rw [State.ofValue_text] at hread
    cases hread
    exact ⟨rfl, rfl⟩

end HostRecord

end HostLifecycle
