import HostLifecycle.Proofs.Credential.Fingerprint
import Mathlib.Data.List.Nodup
import Mathlib.Data.List.Perm.Subperm

/-!
Secrets and what tells them apart. A secret is a name and a mapping from keys to texts. What is
remembered of it recognizes exactly the secrets of the same name and the same mapping, in
whatever order their keys stand, as long as no two of the values have one digest.
-/

namespace HostLifecycle

namespace Fields

variable {α : Type} {fields others : Fields α}

/-- The same entries under the same names, in whatever order. -/
def Same (fields others : Fields α) : Prop :=
  ∀ name, fields.get? name = others.get? name

/-- Two mappings are the same exactly if one of them is the other one rearranged. -/
theorem same_iff_perm (hnames : fields.names.Nodup) (hothers : others.names.Nodup) :
    fields.Same others ↔ fields.Perm others := by
  rw [List.perm_ext_iff_of_nodup (List.Nodup.of_map _ hnames) (List.Nodup.of_map _ hothers)]
  constructor
  · rintro h ⟨name, entry⟩
    rw [← get?_eq_some_iff hnames, ← get?_eq_some_iff hothers, h name]
  · intro h name
    ext entry
    rw [get?_eq_some_iff hnames, get?_eq_some_iff hothers, h]

theorem get?_sorted (hnames : fields.names.Nodup) : (sorted fields).Same fields :=
  (same_iff_perm (nodup_names_sorted hnames) hnames).mpr (sorted_perm fields)

end Fields

/-- Whether the texts of a mapping stand in another one under the same keys. -/
theorem Value.equalFields_texts {fields others : Fields Text} :
    equalFields (fields.map fun entry => (entry.1, .str entry.2))
        (others.map fun entry => (entry.1, .str entry.2)) = true ↔
      ∀ entry ∈ fields, others.get? entry.1 = some entry.2 := by
  induction fields with
  | nil => simp [equalFields]
  | cons entry rest ih =>
    rw [List.map_cons, equalFields, Bool.and_eq_true, ih, List.forall_mem_cons,
      Fields.get?_map Value.str]
    cases others.get? entry.1 with
    | none => simp
    | some other =>
      simp only [Option.map_some, Value.equal, beq_iff_eq, Option.some.injEq]
      rw [eq_comm]

/-- Two fingerprints are equal exactly if they are the same mapping. -/
theorem fingerprintValue_beq_iff {prints others : Fields Text} (hnames : prints.names.Nodup)
    (hothers : others.names.Nodup) :
    (fingerprintValue prints == fingerprintValue others) = true ↔ prints.Same others := by
  have hequal : (fingerprintValue prints == fingerprintValue others) = true ↔
      prints.length = others.length ∧ ∀ entry ∈ prints, others.get? entry.1 = some entry.2 := by
    rw [← Value.equalFields_texts]
    change Value.equal (fingerprintValue prints) (fingerprintValue others) = true ↔ _
    simp only [fingerprintValue, Value.equal, List.length_map, Bool.and_eq_true, beq_iff_eq]
  rw [hequal, Fields.same_iff_perm hnames hothers]
  constructor
  · rintro ⟨hlength, hfound⟩
    have hsubset : prints ⊆ others := fun entry hentry =>
      (Fields.get?_eq_some_iff hothers).mp (hfound entry hentry)
    have hsubperm := List.subperm_of_subset (List.Nodup.of_map _ hnames) hsubset
    exact hsubperm.perm_of_length_le (Nat.le_of_eq hlength.symm)
  · intro hperm
    refine ⟨hperm.length_eq, fun entry hentry => ?_⟩
    exact (Fields.get?_eq_some_iff hothers).mpr (hperm.mem_iff.mp hentry)

/-- Only a text in which half of a pair stands alone has no digest. -/
theorem ofText?_of_isWhole {text : Text} (h : text.isWhole = true) :
    Digest.ofText? text = some ((Digest.ofText? text).getD "") := by
  simp only [Text.isWhole, Option.isSome_iff_exists] at h
  obtain ⟨chars, hchars⟩ := h
  simp [Digest.ofText?, Text.string?, hchars]

theorem ofText?_eq_of_digestOf {v w : Text} (hv : v.isWhole = true) (hw : w.isWhole = true)
    (h : digestOf v = digestOf w) : Digest.ofText? v = Digest.ofText? w := by
  rw [digestOf, digestOf, Text.ofString_inj] at h
  rw [ofText?_of_isWhole hv, ofText?_of_isWhole hw, h]

theorem digests_texts {fields : Fields Text} (h : ∀ entry ∈ fields, entry.2.isWhole = true) :
    digests (fields.map fun entry => (entry.1, .str entry.2)) =
      .ok (fields.map fun entry => (entry.1, digestOf entry.2)) := by
  induction fields with
  | nil => rfl
  | cons entry rest ih =>
    obtain ⟨hentry, hrest⟩ := List.forall_mem_cons.mp h
    rw [List.map_cons, digests, ofText?_of_isWhole hentry, ih hrest]
    simp [Except.map, digestOf]

/-- Texts of which one has no digest have none together. -/
theorem digests_texts_of_halved {fields : Fields Text}
    (h : ¬ ∀ entry ∈ fields, entry.2.isWhole = true) :
    digests (fields.map fun entry => (entry.1, .str entry.2)) = .error .unencodable := by
  induction fields with
  | nil => exact absurd (List.forall_mem_nil _) h
  | cons entry rest ih =>
    rw [List.map_cons, digests]
    cases hentry : entry.2.isWhole with
    | false =>
      have hnone : Digest.ofText? entry.2 = none := by
        rw [Text.isWhole, Option.isSome_eq_false_iff, Option.isNone_iff_eq_none] at hentry
        rw [Digest.ofText?, Text.string?, hentry]
        rfl
      rw [hnone]
    | true =>
      rw [ofText?_of_isWhole hentry]
      simp only
      rw [ih fun hrest => h (List.forall_mem_cons.mpr ⟨hentry, hrest⟩)]
      rfl

/-- A secret: its name, and texts under keys that are all different. -/
structure Secret where
  name : Text
  data : Fields Text
  keys_nodup : data.names.Nodup

namespace Secret

def credential (secret : Secret) : Credential :=
  ⟨.str secret.name, .object (secret.data.map fun entry => (entry.1, .str entry.2))⟩

/-- What a secret holds under a key. A key that it lacks counts as one under which it holds
nothing. -/
def value (secret : Secret) (key : Text) : Text := (secret.data.get? key).getD ""

def missing (keys : List Text) (secret : Secret) : List Text :=
  keys.filter fun key => secret.value key == ""

/-- Whether every key and every value of a secret can be stored: no half of a pair stands alone
in it. -/
def IsWhole (secret : Secret) : Prop :=
  ∀ entry ∈ secret.data, entry.1.isWhole = true ∧ entry.2.isWhole = true

def HasDigests (secret : Secret) : Prop := ∀ entry ∈ secret.data, entry.2.isWhole = true

/-- Whether the values of two secrets that have one digest are equal. -/
def CollisionFree (secret other : Secret) : Prop :=
  ∀ entry ∈ secret.data, ∀ entry' ∈ other.data,
    Digest.ofText? entry.2 = Digest.ofText? entry'.2 → entry.2 = entry'.2

instance instDecidableIsWhole (secret : Secret) : Decidable secret.IsWhole :=
  inferInstanceAs (Decidable (∀ entry ∈ secret.data, _ ∧ _))

instance instDecidableCollisionFree (secret other : Secret) :
    Decidable (secret.CollisionFree other) :=
  inferInstanceAs (Decidable (∀ entry ∈ secret.data, ∀ entry' ∈ other.data, _ → _))

/-- The digests of the values of a secret under their keys. -/
def prints (secret : Secret) : Fields Text :=
  (Fields.sorted secret.data).map fun entry => (entry.1, digestOf entry.2)

def seen (secret : Secret) : SecretStatus :=
  ⟨.str secret.name, fingerprintValue secret.prints⟩

def recognizes (secret other : Secret) : Bool :=
  secret.name == other.name && fingerprintValue secret.prints == fingerprintValue other.prints

variable {secret other : Secret}

/-- The keys under which a secret holds nothing are those of its empty values. -/
theorem missing_names (secret : Secret) :
    secret.missing secret.data.names =
      (secret.data.filter fun entry => entry.2 == ("" : Text)).map Prod.fst := by
  rw [missing, Fields.names, List.filter_map]
  congr 1
  apply List.filter_congr
  intro entry hentry
  have hvalue : secret.value entry.1 = entry.2 := by
    rw [value, Fields.get?_of_mem secret.keys_nodup hentry]
    rfl
  simp only [Function.comp_apply, hvalue]

theorem nodup_names_prints (secret : Secret) : secret.prints.names.Nodup := by
  have hsame : secret.prints.names = (Fields.sorted secret.data).names := by
    simp [prints, Fields.names, Function.comp_def]
  rw [hsame]
  exact Fields.nodup_names_sorted secret.keys_nodup

theorem get?_prints (secret : Secret) (key : Text) :
    secret.prints.get? key = (secret.data.get? key).map digestOf := by
  rw [prints, Fields.get?_map, Fields.get?_sorted secret.keys_nodup]

theorem IsWhole.hasDigests (h : secret.IsWhole) : secret.HasDigests :=
  fun entry hentry => (h entry hentry).2

theorem fingerprint_credential (h : secret.HasDigests) :
    secret.credential.fingerprint = .ok secret.prints := by
  have hsorted : ∀ entry ∈ Fields.sorted secret.data, entry.2.isWhole = true :=
    fun entry hentry => h entry ((Fields.sorted_perm secret.data).mem_iff.mp hentry)
  simp only [Credential.fingerprint, credential, Fields.sorted_map Value.str]
  exact digests_texts hsorted

theorem mark_credential (h : secret.HasDigests) :
    secret.credential.mark = .ok (fingerprintValue secret.prints) := by
  have hmark : secret.credential.mark = secret.credential.fingerprint.map fingerprintValue := rfl
  rw [hmark, fingerprint_credential h]
  rfl

/-- A secret is remembered if it is not empty and its values have digests. -/
theorem ofCredential_credential (hdata : secret.data ≠ []) (h : secret.HasDigests) :
    SecretStatus.ofCredential secret.credential = .ok secret.seen := by
  have htruthy : secret.credential.data.isTruthy = true := by
    simpa [credential, Value.isTruthy] using hdata
  rw [SecretStatus.ofCredential, if_pos htruthy, mark_credential h]
  rfl

/-- A secret with a value that has no digest is not remembered. -/
theorem ofCredential_of_halved (h : ¬ secret.HasDigests) :
    SecretStatus.ofCredential secret.credential = .error .unencodable := by
  have hsome : secret.data ≠ [] := by
    intro hnone
    rw [HasDigests, hnone] at h
    exact h (List.forall_mem_nil _)
  have htruthy : secret.credential.data.isTruthy = true := by
    simpa [credential, Value.isTruthy] using hsome
  have hsorted : ¬ ∀ entry ∈ Fields.sorted secret.data, entry.2.isWhole = true :=
    fun hwhole => h fun entry hentry =>
      hwhole entry ((Fields.sorted_perm secret.data).mem_iff.mpr hentry)
  have hmark : secret.credential.mark = .error .unencodable := by
    rw [Credential.mark_of_object rfl, Fields.sorted_map Value.str,
      digests_texts_of_halved hsorted]
    rfl
  rw [SecretStatus.ofCredential, if_pos htruthy, hmark]
  rfl

theorem agrees_credential (h : other.HasDigests) :
    secret.seen.agrees other.credential = .ok (secret.recognizes other) := by
  have hname : (secret.seen.reference == other.credential.name) = (secret.name == other.name) :=
    rfl
  rw [SecretStatus.agrees, hname, mark_credential h, recognizes]
  cases secret.name == other.name <;> rfl

/-- The digests of two secrets are the same exactly if their values are. -/
theorem prints_same_iff (h : secret.HasDigests) (hother : other.HasDigests)
    (hfree : secret.CollisionFree other) :
    secret.prints.Same other.prints ↔ secret.data.Same other.data := by
  simp only [Fields.Same, get?_prints]
  constructor
  · intro hprints key
    have hprint := hprints key
    cases hfound : secret.data.get? key with
    | none =>
      rw [hfound, Option.map_none, eq_comm, Option.map_eq_none_iff] at hprint
      rw [hprint]
    | some value =>
      rw [hfound, Option.map_some, eq_comm, Option.map_eq_some_iff] at hprint
      obtain ⟨value', hfound', hdigest⟩ := hprint
      have hentry := (Fields.get?_eq_some_iff secret.keys_nodup).mp hfound
      have hentry' := (Fields.get?_eq_some_iff other.keys_nodup).mp hfound'
      have hsame := ofText?_eq_of_digestOf (h _ hentry) (hother _ hentry') hdigest.symm
      have hvalue : value = value' := hfree _ hentry _ hentry' hsame
      rw [hfound', hvalue]
  · intro hdata key
    rw [hdata key]

/-- What is remembered of a secret recognizes exactly the secrets of the same name and the same
mapping. -/
theorem recognizes_iff (h : secret.HasDigests) (hother : other.HasDigests)
    (hfree : secret.CollisionFree other) :
    secret.recognizes other = true ↔ secret.name = other.name ∧ secret.data.Same other.data := by
  rw [recognizes, Bool.and_eq_true, beq_iff_eq,
    fingerprintValue_beq_iff secret.nodup_names_prints other.nodup_names_prints,
    prints_same_iff h hother hfree]

end Secret

end HostLifecycle
