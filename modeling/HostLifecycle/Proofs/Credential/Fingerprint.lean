import HostLifecycle.Credential
import HostLifecycle.Proofs.Attempt
import HostLifecycle.Proofs.Value.Fields
import Mathlib.Data.List.Nodup

/-!
What is remembered of a credential recognizes that credential again. The comparison is
one of values, in which a number that is none differs from itself, and one of entries by
their keys, so the name of the credential has to equal itself and every key of its data
has to be one with itself only. Both hold of every credential whose name is a text and whose
data is a mapping from texts.
-/

namespace HostLifecycle

namespace Fields

variable {α : Type}

theorem insertSorted_perm (entry : Text × α) (fields : Fields α) :
    (insertSorted entry fields).Perm (entry :: fields) := by
  induction fields with
  | nil => exact .refl _
  | cons first rest ih =>
    unfold insertSorted
    split
    · exact .refl _
    · exact (ih.cons first).trans (.swap entry first rest)

/-- Sorting moves entries and neither adds nor drops one. -/
theorem sorted_perm (fields : Fields α) : (sorted fields).Perm fields := by
  induction fields with
  | nil => exact .refl _
  | cons entry rest ih => exact (insertSorted_perm entry (sorted rest)).trans (ih.cons entry)

theorem nodup_names_sorted {fields : Fields α} (h : fields.names.Nodup) :
    (sorted fields).names.Nodup :=
  ((sorted_perm fields).map Prod.fst).nodup_iff.mpr h

variable {β : Type}

theorem sorted_map (f : α → β) (fields : Fields α) :
    sorted (fields.map fun field => (field.1, f field.2)) =
      (sorted fields).map fun field => (field.1, f field.2) := by
  have hinsert : ∀ (entry : Text × α) (rest : Fields α),
      insertSorted (entry.1, f entry.2) (rest.map fun field => (field.1, f field.2)) =
        (insertSorted entry rest).map fun field => (field.1, f field.2) := by
    intro entry rest
    induction rest with
    | nil => rfl
    | cons first rest ih =>
      rw [List.map_cons, insertSorted, insertSorted]
      split
      · rfl
      · rw [ih, List.map_cons]
  induction fields with
  | nil => rfl
  | cons entry rest ih =>
    rw [List.map_cons, sorted, ih, hinsert, sorted]

end Fields

/-- Keys that are told apart: none stands twice, and each is one with itself only. -/
structure Key.Apart (keys : List Key) : Prop where
  nodup : keys.Nodup
  same_iff : ∀ key ∈ keys, ∀ other ∈ keys, key.same other = true ↔ key = other

theorem Key.Apart.perm {keys others : List Key} (h : Key.Apart keys) (hperm : others.Perm keys) :
    Key.Apart others where
  nodup := hperm.nodup_iff.mpr h.nodup
  same_iff key hkey other hother :=
    h.same_iff key (hperm.mem_iff.mp hkey) other (hperm.mem_iff.mp hother)

namespace Entries

variable {α : Type} {entries : Entries α}

theorem get?_of_mem (h : Key.Apart (entries.map (·.1))) {key : Key} {content : α}
    (hmember : (key, content) ∈ entries) : entries.get? key = some content := by
  have hkey : key ∈ entries.map (·.1) := List.mem_map_of_mem hmember
  have hfound : (entries.find? fun entry => key.same entry.1).isSome = true :=
    List.find?_isSome.mpr ⟨_, hmember, (h.same_iff key hkey key hkey).mpr rfl⟩
  obtain ⟨entry, hentry⟩ := Option.isSome_iff_exists.mp hfound
  have hin : entry ∈ entries := List.mem_of_find?_eq_some hentry
  have hfits : key.same entry.1 = true := by
    simpa using List.find?_some hentry
  have hsame : key = entry.1 :=
    (h.same_iff key hkey entry.1 (List.mem_map_of_mem hin)).mp hfits
  have hentry_eq : entry = (key, content) :=
    List.inj_on_of_nodup_map h.nodup hin hmember hsame.symm
  rw [get?, hentry, hentry_eq]
  rfl

theorem insertSorted_perm {entry : Key × α} {sorted : Entries α}
    (h : insertSorted entry entries = some sorted) : sorted.Perm (entry :: entries) := by
  induction entries generalizing sorted with
  | nil =>
    cases h
    exact .refl _
  | cons first rest ih =>
    obtain ⟨precedes, -, hplaced⟩ := Option.bind_eq_some_iff.mp h
    cases precedes with
    | true =>
      cases hplaced
      exact .refl _
    | false =>
      obtain ⟨others, hothers, hcons⟩ := Option.bind_eq_some_iff.mp hplaced
      cases hcons
      exact ((ih hothers).cons first).trans (.swap entry first rest)

/-- Keys that have an order are sorted without adding or dropping an entry. -/
theorem sorted?_perm {sorted : Entries α} (h : entries.sorted? = some sorted) :
    sorted.Perm entries := by
  induction entries generalizing sorted with
  | nil =>
    cases h
    exact .refl _
  | cons entry rest ih =>
    obtain ⟨others, hothers, hinserted⟩ := Option.bind_eq_some_iff.mp h
    exact (insertSorted_perm hinserted).trans ((ih hothers).cons entry)

end Entries

/-- The digest of a text, as it stands in a fingerprint. -/
def digestOf (text : Text) : Text := ((Digest.ofText? text).getD "" : String)

/-- Digests stand under the keys of the values that they were taken of. -/
theorem keys_digests {κ : Type} {entries : List (κ × Value)} {digested : List (κ × Text)}
    (h : digests entries = .ok digested) : digested.map (·.1) = entries.map (·.1) := by
  induction entries generalizing digested with
  | nil =>
    cases h
    rfl
  | cons entry rest ih =>
    obtain ⟨key, value⟩ := entry
    cases value with
    | str text =>
      simp only [digests] at h
      cases htext : Digest.ofText? text with
      | none => simp [htext] at h
      | some digest =>
        cases hrest : digests rest with
        | error fault => simp [htext, hrest, Except.map] at h
        | ok others =>
          simp only [htext, hrest, Except.map, Except.ok.injEq] at h
          rw [← h]
          exact congrArg (key :: ·) (ih hrest)
    | _ => simp [digests] at h

namespace Value

theorem equal_str (text : Text) : equal (str text) (str text) = true := by
  simp [equal]

theorem equalEntries_of_mem {entries others : Entries Value}
    (hkeys : Key.Apart (others.map (·.1)))
    (hsub : ∀ entry ∈ entries, entry ∈ others ∧ equal entry.2 entry.2 = true) :
    equalEntries entries others = true := by
  induction entries with
  | nil => simp [equalEntries]
  | cons entry rest ih =>
    obtain ⟨key, value⟩ := entry
    have hentry := hsub (key, value) List.mem_cons_self
    have hrest := ih fun other hmember => hsub other (List.mem_cons_of_mem _ hmember)
    simp [equalEntries, Entries.get?_of_mem hkeys hentry.1, hentry.2, hrest]

theorem equalFields_of_mem {fields others : Fields Value} (hnames : others.names.Nodup)
    (hsub : ∀ field ∈ fields, field ∈ others ∧ equal field.2 field.2 = true) :
    equalFields fields others = true := by
  induction fields with
  | nil => simp [equalFields]
  | cons field rest ih =>
    obtain ⟨name, value⟩ := field
    have hfield := hsub (name, value) List.mem_cons_self
    have hrest := ih fun other hmember => hsub other (List.mem_cons_of_mem _ hmember)
    simp [equalFields, Fields.get?_of_mem hnames hfield.1, hfield.2, hrest]

end Value

/-- A fingerprint equals itself if every key stands once. -/
theorem fingerprintValue_beq_self {fingerprint : Fields Text}
    (hnames : fingerprint.names.Nodup) :
    (fingerprintValue fingerprint == fingerprintValue fingerprint) = true := by
  let entries : Fields Value := fingerprint.map fun entry => (entry.1, .str entry.2)
  have hsame : entries.names = fingerprint.names := by
    simp [entries, Fields.names, Function.comp_def]
  have hfields : Value.equalFields entries entries = true := by
    refine Value.equalFields_of_mem (hsame ▸ hnames) ?_
    intro field hmember
    obtain ⟨entry, -, rfl⟩ := List.mem_map.mp hmember
    exact ⟨hmember, Value.equal_str entry.2⟩
  change Value.equal (fingerprintValue fingerprint) (fingerprintValue fingerprint) = true
  simp only [fingerprintValue, Value.equal, beq_self_eq_true, Bool.true_and]
  exact hfields

/-- Digests under keys that are told apart equal themselves. -/
theorem mapping_beq_self {prints : Entries Text} (hkeys : Key.Apart (prints.map (·.1))) :
    (Value.mapping (prints.map fun entry => (entry.1, .str entry.2)) ==
      Value.mapping (prints.map fun entry => (entry.1, .str entry.2))) = true := by
  let entries : Entries Value := prints.map fun entry => (entry.1, .str entry.2)
  have hsame : entries.map (·.1) = prints.map (·.1) := by
    simp [entries, Function.comp_def]
  have hentries : Value.equalEntries entries entries = true := by
    refine Value.equalEntries_of_mem (hsame ▸ hkeys) ?_
    intro entry hmember
    obtain ⟨print, -, rfl⟩ := List.mem_map.mp hmember
    exact ⟨hmember, Value.equal_str print.2⟩
  change Value.equal (.mapping entries) (.mapping entries) = true
  simp only [Value.equal, beq_self_eq_true, Bool.true_and]
  exact hentries

namespace Credential

variable {credential : Credential}

/-- A credential that a later comparison can recognize: its name equals itself, which
only a number that is none does not, and every key of its data is one with itself only. -/
structure Recognizable (credential : Credential) : Prop where
  name_self : (credential.name == credential.name) = true
  keys_nodup : ∀ fields, credential.data = .object fields → (Fields.names fields).Nodup
  keys_apart : ∀ entries, credential.data = .mapping entries → Key.Apart (entries.map (·.1))

/-- The fingerprint of data under names is remembered as it is. -/
theorem mark_of_object {fields : Fields Value} (hdata : credential.data = .object fields) :
    credential.mark = (digests (Fields.sorted fields)).map fingerprintValue := by
  rw [mark, fingerprint, hdata]

/-- What is remembered of a recognizable credential equals itself. -/
theorem Recognizable.mark_self (h : credential.Recognizable) {found : Value}
    (hmark : credential.mark = .ok found) : (found == found) = true := by
  cases hdata : credential.data with
  | object fields =>
    rw [mark_of_object hdata] at hmark
    obtain ⟨prints, hprints, rfl⟩ := Attempt.exists_of_map_ok hmark
    refine fingerprintValue_beq_self ?_
    rw [Fields.names, keys_digests hprints]
    exact Fields.nodup_names_sorted (h.keys_nodup fields hdata)
  | mapping entries =>
    rw [mark, hdata] at hmark
    obtain ⟨prints, hprints, rfl⟩ := Attempt.exists_of_map_ok hmark
    rw [keyedFingerprint] at hprints
    split at hprints
    next sorted hsorted =>
      refine mapping_beq_self ?_
      rw [keys_digests hprints]
      exact (h.keys_apart entries hdata).perm ((Entries.sorted?_perm hsorted).map _)
    next => cases hprints
  | _ =>
    rw [mark, fingerprint, hdata] at hmark
    cases hmark

end Credential

/-- The status of a credential recognizes the credential. -/
theorem SecretStatus.agrees_of_ofCredential {credential : Credential} {seen : SecretStatus}
    (h : credential.Recognizable) (hseen : ofCredential credential = .ok seen) :
    seen.agrees credential = .ok true := by
  unfold ofCredential at hseen
  split at hseen
  next htruthy =>
    obtain ⟨found, hmark, hstatus⟩ := Attempt.exists_of_bind_ok hseen
    cases hstatus
    rw [agrees, if_pos h.name_self, hmark]
    exact congrArg Except.ok (h.mark_self hmark)
  next => cases hseen

end HostLifecycle
