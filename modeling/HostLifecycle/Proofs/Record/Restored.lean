import HostLifecycle.Proofs.Record.Alike
import HostLifecycle.Proofs.Record.Reload

/-!
Records that are alike and read back. Of two fingerprints each is read back as a fingerprint,
with the same names in both, so that what is read back of two records that are alike is alike
again. In everything else both documents are the same.
-/

namespace HostLifecycle

open Attempt Json

def Written {α : Type} (related : α → α → Prop) (write : α → Value) (found found' : Value) :
    Prop :=
  ∃ x y, related x y ∧ found = write x ∧ found' = write y

variable {disguise : Disguise}

theorem unsplit_digestOf (text : Text) : (digestOf text).Unsplit :=
  Text.unsplit_ofChars _

theorem Disguise.PrintsAlike.joined {prints prints' : Fields Text}
    (h : disguise.PrintsAlike prints prints') :
    disguise.PrintsAlike (joinedPrints prints) (joinedPrints prints') := by
  obtain ⟨entries, hentries, rfl, rfl⟩ := h
  have hjoined : ∀ f : Text → Text, (∀ text, (f text).Unsplit) →
      joinedPrints (entries.map fun entry => (entry.1, f entry.2)) =
        (Fields.ofPairs (entries.map fun entry => (entry.1.joined, entry.2))).map
          fun entry => (entry.1, f entry.2) := by
    intro f hf
    have hkept : ∀ text, (f text).joined = f text := hf
    rw [joinedPrints, ← Fields.ofPairs_map f, List.map_map, List.map_map]
    simp only [Function.comp_def, hkept]
  refine ⟨_, ?_, hjoined _ fun _ => unsplit_digestOf _, hjoined _ fun _ => unsplit_digestOf _⟩
  apply Fields.forall_ofPairs
  intro pair hpair
  obtain ⟨entry, hentry, rfl⟩ := List.mem_map.mp hpair
  exact hentries entry hentry

section

variable (levels : Nat)

/-- What is remembered of a credential is read back in disguise as it is read back itself. -/
theorem alike_readBack_seen {seen seen' : SecretStatus}
    (h : SecretStatus.Alike disguise seen seen') :
    Paired (Written (SecretStatus.Alike disguise) SecretStatus.toValue)
      (readBack (levels + 2) seen.toValue) (readBack (levels + 2) seen'.toValue) := by
  obtain ⟨prints, prints', hprints, hplain, hmasked⟩ := h.dataHash
  rw [readBack_toValue, readBack_toValue, h.reference, hplain, hmasked, readBack_prints,
    readBack_prints]
  apply paired_bind (readBack (levels + 1) seen.reference)
  intro reference
  have halike : SecretStatus.Alike disguise ⟨reference, fingerprintValue (joinedPrints prints)⟩
      ⟨reference, fingerprintValue (joinedPrints prints')⟩ :=
    ⟨rfl, _, _, hprints.joined, rfl, rfl⟩
  exact .ok ⟨_, _, halike, rfl, rfl⟩

theorem alike_readBack_entry {entry entry' : Option SecretStatus}
    (h : SshStatus.EntryAlike disguise entry entry') :
    Paired (Written (SshStatus.EntryAlike disguise) SshStatus.entryValue)
      (readBack (levels + 2) (SshStatus.entryValue entry))
      (readBack (levels + 2) (SshStatus.entryValue entry')) := by
  cases h with
  | none =>
    rw [SshStatus.entryValue, readBack_null]
    exact .ok ⟨none, none, .none, rfl, rfl⟩
  | @some seen seen' hseen =>
    have hread := alike_readBack_seen levels hseen
    rw [SshStatus.entryValue, SshStatus.entryValue]
    generalize readBack (levels + 2) seen.toValue = found at hread ⊢
    generalize readBack (levels + 2) seen'.toValue = found' at hread ⊢
    cases hread with
    | error refusal => exact .error refusal
    | ok hwritten =>
      obtain ⟨after, after', halike, rfl, rfl⟩ := hwritten
      exact .ok ⟨some after, some after', .some halike, rfl, rfl⟩

theorem alike_readBack_status {status status' : SshStatus}
    (h : SshStatus.EntriesAlike disguise status status') :
    Paired (Written (SshStatus.EntriesAlike disguise) SshStatus.toValue)
      (readBack (levels + 3) status.toValue) (readBack (levels + 3) status'.toValue) := by
  rw [readBack_statusValue, readBack_statusValue]
  apply (alike_readBack_entry levels (h .os)).bind
  rintro _ _ ⟨os, os', hos, rfl, rfl⟩
  apply (alike_readBack_entry levels (h .rescue)).bind
  rintro _ _ ⟨rescue, rescue', hrescue, rfl, rfl⟩
  refine .ok ⟨⟨os, rescue⟩, ⟨os', rescue'⟩, ?_, rfl, rfl⟩
  intro kind
  cases kind with
  | os => exact hos
  | rescue => exact hrescue

end

namespace HostRecord

variable {host host' : HostRecord}

/-- Two documents are read back as documents of records that are alike. -/
theorem Alike.readBack_document (h : Alike disguise host host') {status : SshStatus}
    (hknown : host.sshStatus = .known status) (errorType : Value) (levels : Nat) :
    Paired (fun found found' => Paired (Alike disguise) (ofDocument found) (ofDocument found'))
      (readBack (levels + 4) (.object (host.documentFields errorType)))
      (readBack (levels + 4) (.object (host'.documentFields errorType))) := by
  obtain ⟨held, hstatus, rfl⟩ := h
  rw [hknown] at hstatus
  cases hstatus with
  | known hentries =>
    rw [readBack_documentFields, readBack_documentFields, hknown]
    apply paired_bind
    intro name
    apply paired_bind
    intro state
    apply paired_bind
    intro marker
    apply paired_bind
    intro image
    apply (alike_readBack_status levels hentries).bind
    rintro _ _ ⟨after, after', hafter, rfl, rfl⟩
    apply paired_bind
    intro errorType
    apply paired_bind
    intro message
    apply paired_bind
    intro count
    refine .ok ?_
    rw [ofDocument_fields, ofDocument_fields, SshStatus.ofValue_toValue,
      SshStatus.ofValue_toValue]
    apply (Paired.ok hafter).bind
    intro found found' hfound
    apply paired_bind
    intro image
    apply paired_bind
    intro errorType
    apply paired_bind
    intro state
    exact .ok ⟨.known found', .known hfound, rfl⟩

/-- Records that are alike are the same, unless they hold the digests of two credentials. -/
theorem Alike.known_or_eq (h : Alike disguise host host') :
    (∃ status, host.sshStatus = .known status) ∨ host' = host := by
  obtain ⟨held, hstatus, rfl⟩ := h
  cases hheld : host.sshStatus with
  | known status => exact Or.inl ⟨status, rfl⟩
  | raw value =>
    rw [hheld] at hstatus
    cases hstatus
    rw [← hheld]
    exact Or.inr rfl

/-- Two records that are alike are read back alike, or neither of them is. -/
theorem Alike.reloaded (h : Alike disguise host host') {status : SshStatus}
    (hknown : host.sshStatus = .known status) :
    Paired (Alike disguise) host.reloaded host'.reloaded := by
  have hdocuments : Paired (fun document document' => ∃ errorType,
      document = .object (host.documentFields errorType) ∧
      document' = .object (host'.documentFields errorType))
      host.toDocument host'.toDocument := by
    obtain ⟨held, -, rfl⟩ := h
    rw [toDocument_eq, toDocument_eq]
    apply paired_bind (host.offer .toDocument)
    intro _
    apply paired_bind (errorTypeValue host.errorType)
    intro errorType
    exact .ok ⟨errorType, rfl, rfl⟩
  apply hdocuments.bind
  rintro _ _ ⟨errorType, rfl, rfl⟩
  have hread := h.readBack_document hknown errorType 983
  rw [read_write, read_write, maximalLevels]
  generalize readBack (983 + 4) (.object (host.documentFields errorType)) = found at hread ⊢
  generalize readBack (983 + 4) (.object (host'.documentFields errorType)) = found' at hread ⊢
  cases hread with
  | error refusal => cases refusal <;> exact .error _
  | ok hfound => exact hfound

theorem statusEqual_alike {entry entry' other other' : Option SecretStatus}
    (h : SshStatus.EntryAlike disguise entry entry')
    (hother : SshStatus.EntryAlike disguise other other') :
    statusEqual entry' other' = statusEqual entry other := by
  cases h with
  | none => cases hother <;> rfl
  | some hseen =>
    cases hother with
    | none => rfl
    | some hcompared =>
      obtain ⟨prints, prints', hprints, hplain, hmasked⟩ := hseen.dataHash
      obtain ⟨others, others', hothers, hplain', hmasked'⟩ := hcompared.dataHash
      rw [statusEqual, statusEqual, hseen.reference, hcompared.reference, hplain, hplain',
        hmasked, hmasked', Disguise.equal_prints hprints hothers]

/-- Two records are equal exactly if those that are like them are. -/
theorem Alike.equal {other other' : HostRecord} (h : Alike disguise host host')
    (hother : Alike disguise other other') : host'.equal other' = host.equal other := by
  obtain ⟨status, hstatus, rfl⟩ := h
  obtain ⟨status', hstatus', rfl⟩ := hother
  simp only [HostRecord.equal]
  generalize host.sshStatus = held at hstatus ⊢
  generalize other.sshStatus = held' at hstatus' ⊢
  cases hstatus with
  | raw value => cases hstatus' <;> rfl
  | known hentries =>
    cases hstatus' with
    | raw value => rfl
    | known hentries' =>
      have hos := statusEqual_alike (hentries .os) (hentries' .os)
      have hrescue := statusEqual_alike (hentries .rescue) (hentries' .rescue)
      simp only [SshStatus.of] at hos hrescue
      simp only [heldEqual, hos, hrescue]

end HostRecord

end HostLifecycle
