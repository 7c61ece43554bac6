import HostLifecycle.Credential.PublicKey
import HostLifecycle.Proofs.Credential.Fingerprint
import HostLifecycle.Proofs.Twin

/-!
Secrets in disguise. A disguise puts other texts in place of the values of credentials, and
keeps of them only what may be told: which of them are equal, which are empty and which are
public keys. Fingerprints of disguised credentials are told apart exactly as those of the
credentials themselves, as long as no two of the values have one digest.
-/

namespace HostLifecycle

open Attempt

/-- A change of the values of credentials. The values that are known, and those in their place,
have digests, and none of them has the digest of another one. -/
structure Disguise where
  Known : Text → Prop
  map : Text → Text
  injective : ∀ {v w}, Known v → Known w → map v = map w → v = w
  map_eq_empty_iff : ∀ {v}, Known v → (map v = "" ↔ v = "")
  accepts_map : ∀ {v}, Known v → PublicKey.accepts (map v) = PublicKey.accepts v
  whole : ∀ {v}, Known v → ∃ digest, Digest.ofText? v = some digest
  whole_map : ∀ {v}, Known v → ∃ digest, Digest.ofText? (map v) = some digest
  collisionFree : ∀ {v w}, Known v → Known w → Digest.ofText? v = Digest.ofText? w → v = w
  collisionFree_map : ∀ {v w}, Known v → Known w →
    Digest.ofText? (map v) = Digest.ofText? (map w) → map v = map w

namespace Disguise

variable (disguise : Disguise)

def value : Value → Value
  | .str text => .str (disguise.map text)
  | value => value

/-- The data in place of the data of a credential. -/
def fields (fields : Fields Value) : Fields Value :=
  fields.map fun field => (field.1, disguise.value field.2)

/-- The credential in place of a credential. Its name and the keys of its data stay. -/
def credential (credential : Credential) : Credential :=
  match credential.data with
  | .object fields => ⟨credential.name, .object (disguise.fields fields)⟩
  | data => ⟨credential.name, data⟩

def Covers (fields : Fields Value) : Prop :=
  ∀ field ∈ fields, ∀ text, field.2 = .str text → disguise.Known text

/-- Every text among the values of a credential is known, and its keys are texts. -/
structure CoversCredential (credential : Credential) : Prop where
  fields : ∀ fields, credential.data = .object fields → disguise.Covers fields
  keys : ∀ entries, credential.data ≠ .mapping entries

def CoversFound (found : Option Credential) : Prop :=
  ∀ credential, found = some credential → disguise.CoversCredential credential

/-- Two fingerprints of which one has the digests of known values, and the other one those of the
values in place of them. -/
def PrintsAlike (prints prints' : Fields Text) : Prop :=
  ∃ entries : Fields Text, (∀ entry ∈ entries, disguise.Known entry.2) ∧
    prints = entries.map (fun entry => (entry.1, digestOf entry.2)) ∧
    prints' = entries.map fun entry => (entry.1, digestOf (disguise.map entry.2))

variable {disguise}

theorem digestOf_eq_iff {v w : Text} (hv : disguise.Known v) (hw : disguise.Known w) :
    digestOf v = digestOf w ↔ v = w := by
  obtain ⟨digest, hdigest⟩ := disguise.whole hv
  obtain ⟨digest', hdigest'⟩ := disguise.whole hw
  constructor
  · intro h
    rw [digestOf, digestOf, hdigest, hdigest', Option.getD_some, Option.getD_some,
      Text.ofString_inj] at h
    apply disguise.collisionFree hv hw
    rw [hdigest, hdigest', h]
  · rintro rfl
    rfl

theorem digestOf_map_eq_iff {v w : Text} (hv : disguise.Known v) (hw : disguise.Known w) :
    digestOf (disguise.map v) = digestOf (disguise.map w) ↔ v = w := by
  obtain ⟨digest, hdigest⟩ := disguise.whole_map hv
  obtain ⟨digest', hdigest'⟩ := disguise.whole_map hw
  constructor
  · intro h
    rw [digestOf, digestOf, hdigest, hdigest', Option.getD_some, Option.getD_some,
      Text.ofString_inj] at h
    apply disguise.injective hv hw
    apply disguise.collisionFree_map hv hw
    rw [hdigest, hdigest', h]
  · rintro rfl
    rfl

theorem isTruthy_value {value : Value} (h : ∀ text, value = .str text → disguise.Known text) :
    (disguise.value value).isTruthy = value.isTruthy := by
  cases value with
  | str text =>
    have hempty := disguise.map_eq_empty_iff (h text rfl)
    change (disguise.map text != "") = (text != "")
    rw [Bool.eq_iff_iff, bne_iff_ne, bne_iff_ne, ne_eq, ne_eq, hempty]
  | _ => rfl

theorem PrintsAlike.cons {prints prints' : Fields Text} (h : disguise.PrintsAlike prints prints')
    (key : Text) {text : Text} (hknown : disguise.Known text) :
    disguise.PrintsAlike ((key, digestOf text) :: prints)
      ((key, digestOf (disguise.map text)) :: prints') := by
  obtain ⟨entries, hentries, rfl, rfl⟩ := h
  refine ⟨(key, text) :: entries, ?_, rfl, rfl⟩
  intro entry hentry
  rcases List.mem_cons.mp hentry with rfl | hother
  · exact hknown
  · exact hentries entry hother

/-- The digests of a mapping that is covered, and those of the mapping in disguise. -/
theorem digests_fields {fields : Fields Value} (h : disguise.Covers fields) :
    Paired disguise.PrintsAlike (digests fields) (digests (disguise.fields fields)) := by
  induction fields with
  | nil => exact .ok ⟨[], nofun, rfl, rfl⟩
  | cons field rest ih =>
    obtain ⟨key, content⟩ := field
    have hrest := ih fun other hother => h other (List.mem_cons_of_mem _ hother)
    cases content with
    | str text =>
      have hknown := h (key, .str text) List.mem_cons_self text rfl
      obtain ⟨digest, hdigest⟩ := disguise.whole hknown
      obtain ⟨digest', hdigest'⟩ := disguise.whole_map hknown
      have hplain : digests ((key, .str text) :: rest) =
          (digests rest).map fun prints => (key, digestOf text) :: prints := by
        rw [digests, hdigest, digestOf, hdigest]
        rfl
      have hmasked : digests (disguise.fields ((key, .str text) :: rest)) =
          (digests (disguise.fields rest)).map fun prints =>
            (key, digestOf (disguise.map text)) :: prints := by
        change digests ((key, .str (disguise.map text)) :: disguise.fields rest) = _
        rw [digests, hdigest', digestOf, hdigest']
        rfl
      rw [hplain, hmasked]
      exact hrest.map fun _ _ hprints => hprints.cons key hknown
    | _ => exact .error _

/-- A comparison of digests finds the same whichever way the digests are taken, as long as both
ways keep the known values apart. -/
theorem equalFields_digests {entries others : Fields Text}
    (hentries : ∀ entry ∈ entries, disguise.Known entry.2)
    (hothers : ∀ entry ∈ others, disguise.Known entry.2) {f g : Text → Text}
    (hsame : ∀ v w, disguise.Known v → disguise.Known w → (f v = f w ↔ g v = g w)) :
    Value.equalFields (entries.map fun entry => (entry.1, .str (f entry.2)))
        (others.map fun entry => (entry.1, .str (f entry.2))) =
      Value.equalFields (entries.map fun entry => (entry.1, .str (g entry.2)))
        (others.map fun entry => (entry.1, .str (g entry.2))) := by
  induction entries with
  | nil => simp only [List.map_nil, Value.equalFields]
  | cons entry rest ih =>
    have hrest := ih fun other hother => hentries other (List.mem_cons_of_mem _ hother)
    rw [List.map_cons, List.map_cons, Value.equalFields, Value.equalFields, hrest,
      Fields.get?_map (fun text => Value.str (f text)),
      Fields.get?_map (fun text => Value.str (g text))]
    congr 1
    cases hfound : Fields.get? others entry.1 with
    | none => rfl
    | some found =>
      obtain ⟨other, hother, rfl⟩ := Fields.exists_of_get? hfound
      have hiff := hsame _ _ (hentries entry List.mem_cons_self) (hothers other hother)
      simp only [Option.map_some, Value.equal]
      rw [Bool.eq_iff_iff, beq_iff_eq, beq_iff_eq]
      exact hiff

/-- Two fingerprints are equal exactly if those in disguise are. -/
theorem equal_prints {prints prints' others others' : Fields Text}
    (hprints : disguise.PrintsAlike prints prints')
    (hothers : disguise.PrintsAlike others others') :
    (fingerprintValue prints' == fingerprintValue others') =
      (fingerprintValue prints == fingerprintValue others) := by
  obtain ⟨entries, hentries, rfl, rfl⟩ := hprints
  obtain ⟨entries', hentries', rfl, rfl⟩ := hothers
  have hequal := equalFields_digests hentries hentries'
    fun v w hv hw => (digestOf_map_eq_iff hv hw).trans (digestOf_eq_iff hv hw).symm
  change Value.equal (fingerprintValue _) (fingerprintValue _) =
    Value.equal (fingerprintValue _) (fingerprintValue _)
  simp only [fingerprintValue, List.map_map, Function.comp_def, Value.equal, List.length_map]
  rw [hequal]

end Disguise

/-- The disguise that puts each of two values in the place of the other one. -/
def Disguise.swap (v w : Text) (hempty : v = "" ↔ w = "")
    (haccepts : PublicKey.accepts v = PublicKey.accepts w) (hv : (Digest.ofText? v).isSome)
    (hw : (Digest.ofText? w).isSome) (hdigests : Digest.ofText? v ≠ Digest.ofText? w) :
    Disguise where
  Known text := text = v ∨ text = w
  map text := if text = v then w else v
  injective := by
    rintro x y (hx | hx) (hy | hy) <;> grind
  map_eq_empty_iff := by
    rintro x (hx | hx) <;> grind
  accepts_map := by
    rintro x (hx | hx) <;> grind
  whole := by
    rintro x (rfl | rfl)
    · exact Option.isSome_iff_exists.mp hv
    · exact Option.isSome_iff_exists.mp hw
  whole_map := by
    intro x _
    split
    · exact Option.isSome_iff_exists.mp hw
    · exact Option.isSome_iff_exists.mp hv
  collisionFree := by
    rintro x y (hx | hx) (hy | hy) <;> grind
  collisionFree_map := by
    rintro x y (hx | hx) (hy | hy) <;> grind

/-- What is remembered of a credential, and what is remembered of it in disguise. -/
structure SecretStatus.Alike (disguise : Disguise) (seen seen' : SecretStatus) : Prop where
  reference : seen'.reference = seen.reference
  dataHash : ∃ prints prints', disguise.PrintsAlike prints prints' ∧
    seen.dataHash = fingerprintValue prints ∧ seen'.dataHash = fingerprintValue prints'

/-- The digests of known values, and those of the values in place of them. -/
theorem SecretStatus.alike_digests {disguise : Disguise} (reference : Value)
    {entries : Fields Text} (hentries : ∀ entry ∈ entries, disguise.Known entry.2) :
    SecretStatus.Alike disguise
      ⟨reference, fingerprintValue (entries.map fun entry => (entry.1, digestOf entry.2))⟩
      ⟨reference, fingerprintValue
        (entries.map fun entry => (entry.1, digestOf (disguise.map entry.2)))⟩ :=
  ⟨rfl, _, _, ⟨entries, hentries, rfl, rfl⟩, rfl, rfl⟩

namespace Disguise

variable {disguise : Disguise} {credential : Credential}

theorem credential_name : (disguise.credential credential).name = credential.name := by
  unfold Disguise.credential
  split <;> rfl

/-- The fingerprint of a credential that is covered, and the one in disguise. -/
theorem fingerprint_credential (h : disguise.CoversCredential credential) :
    Paired disguise.PrintsAlike credential.fingerprint
      (disguise.credential credential).fingerprint := by
  obtain ⟨name, data⟩ := credential
  cases data with
  | object fields =>
    have hcovers : disguise.Covers (Fields.sorted fields) := by
      intro field hfield
      exact h.fields fields rfl field ((Fields.sorted_perm fields).mem_iff.mp hfield)
    have hmasked : (disguise.credential ⟨name, .object fields⟩).fingerprint =
        digests (disguise.fields (Fields.sorted fields)) := by
      change digests (Fields.sorted (disguise.fields fields)) = _
      rw [Disguise.fields, Fields.sorted_map]
      rfl
    rw [hmasked]
    exact digests_fields hcovers
  | mapping entries => exact absurd rfl (h.keys entries)
  | _ => exact .error _

/-- What is remembered of a credential that is covered, and of the one in disguise. -/
theorem mark_credential (h : disguise.CoversCredential credential) :
    Paired (fun found found' => ∃ prints prints', disguise.PrintsAlike prints prints' ∧
        found = fingerprintValue prints ∧ found' = fingerprintValue prints')
      credential.mark (disguise.credential credential).mark := by
  have hprints := fingerprint_credential h
  obtain ⟨name, data⟩ := credential
  cases data with
  | mapping entries => exact absurd rfl (h.keys entries)
  | _ => exact hprints.map fun prints prints' halike => ⟨prints, prints', halike, rfl, rfl⟩

/-- A credential is recognized exactly if it is recognized in disguise. -/
theorem agrees_credential (h : disguise.CoversCredential credential) {seen seen' : SecretStatus}
    (halike : SecretStatus.Alike disguise seen seen') :
    Paired Eq (seen.agrees credential) (seen'.agrees (disguise.credential credential)) := by
  obtain ⟨stored, stored', hstored, hplain, hmasked⟩ := halike.dataHash
  rw [SecretStatus.agrees, SecretStatus.agrees, halike.reference, credential_name, hplain, hmasked]
  split
  · apply (mark_credential h).bind
    rintro _ _ ⟨prints, prints', hprints, rfl, rfl⟩
    exact .ok (equal_prints hstored hprints).symm
  · exact .ok rfl

/-- What is remembered of a credential, and of the credential in disguise. -/
theorem ofCredential_credential (h : disguise.CoversCredential credential) :
    Paired (SecretStatus.Alike disguise) (SecretStatus.ofCredential credential)
      (SecretStatus.ofCredential (disguise.credential credential)) := by
  have htruthy : (disguise.credential credential).data.isTruthy = credential.data.isTruthy := by
    obtain ⟨name, data⟩ := credential
    cases data with
    | object fields => cases fields <;> rfl
    | _ => rfl
  rw [SecretStatus.ofCredential, SecretStatus.ofCredential, htruthy, credential_name]
  split
  · apply (mark_credential h).bind
    rintro _ _ ⟨prints, prints', hprints, rfl, rfl⟩
    exact .ok ⟨rfl, prints, prints', hprints, rfl, rfl⟩
  · exact .error _

end Disguise

end HostLifecycle
