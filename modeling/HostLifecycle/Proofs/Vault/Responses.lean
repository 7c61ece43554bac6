import HostLifecycle.Proofs.Credential.Disguise
import HostLifecycle.Proofs.Vault.Fetching

/-!
Responses of the server of secrets. A response may be any value. It holds nothing, or a mapping
that is a credential, or it has a shape that no credential is told from; then reading it fails
with a fault of shape, which is no error of the lifecycle. A fetch ends with what the responses
hold, or with the error of the fetch that a refusal is.
-/

namespace HostLifecycle

open Attempt

/-- A fault of a value that has another shape than the one that is asked for. -/
def Fault.IsOfShape (fault : Fault) : Prop :=
  fault = .wrongType ∨ ∃ index length, fault = .invalid (.wrongPairLength index length)

def Value.HasDigest (value : Value) : Prop :=
  ∃ text digest, value = .str text ∧ Digest.ofText? text = some digest

inductive Value.IsMapping : Value → Prop where
  | object (fields : Fields Value) : IsMapping (.object fields)
  | mapping (entries : Entries Value) : IsMapping (.mapping entries)

/-- A mapping from keys that have an order to texts that have a digest. -/
inductive Value.IsTextual : Value → Prop where
  | object {fields : Fields Value} (htexts : ∀ entry ∈ fields, entry.2.HasDigest) :
    IsTextual (.object fields)
  | mapping {entries sorted : Entries Value} (hsorted : entries.sorted? = some sorted)
    (htexts : ∀ entry ∈ entries, entry.2.HasDigest) : IsTextual (.mapping entries)

def Credential.IsTextual (credential : Credential) : Prop := credential.data.IsTextual

/-- A credential as it is stored: under a text, and with a mapping for its data. -/
structure Credential.IsStored (credential : Credential) : Prop where
  name : ∃ text, credential.name = .str text
  data : credential.data.IsMapping

theorem Entries.exists_of_get? {α : Type} {entries : Entries α} {key : Key} {content : α}
    (h : entries.get? key = some content) : ∃ entry ∈ entries, entry.2 = content := by
  obtain ⟨entry, hentry, hcontent⟩ := Option.map_eq_some_iff.mp h
  exact ⟨entry, List.mem_of_find?_eq_some hentry, hcontent⟩

namespace Value

theorem isOfShape_mentions {name : Text} {value : Value} {fault : Fault}
    (h : value.mentions name = .error fault) : fault.IsOfShape := by
  cases value <;> cases h <;> exact Or.inl rfl

/-- Only a mapping can be asked for what it mentions. -/
theorem isOfShape_member {name : Text} {value : Value} {fault : Fault}
    (hmentions : value.mentions name = .ok true) (h : value.member name = .error fault) :
    fault.IsOfShape := by
  cases value with
  | object fields =>
    rw [member] at h
    cases hfound : Fields.get? fields name with
    | some entry => simp [hfound] at h
    | none =>
      have hhas : Fields.has fields name = true := Except.ok.inj hmentions
      rw [Fields.get?, Option.map_eq_none_iff, List.find?_eq_none] at hfound
      obtain ⟨field, hmember, hname⟩ := List.any_eq_true.mp hhas
      exact absurd hname (hfound field hmember)
  | mapping entries =>
    have hhas : (Entries.get? entries (.str name)).isSome = true := Except.ok.inj hmentions
    obtain ⟨entry, hentry⟩ := Option.isSome_iff_exists.mp hhas
    simp [member, hentry] at h
  | _ =>
    cases h
    exact Or.inl rfl

theorem isOfShape_pairOf {index : Nat} {item : Value} {fault : Fault}
    (h : pairOf index item = .error fault) : fault.IsOfShape := by
  unfold pairOf at h
  split at h
  · cases h
    exact Or.inl rfl
  · split at h
    · cases h
    · cases h
      exact Or.inl rfl
  · cases h
    exact Or.inr ⟨_, _, rfl⟩

theorem isOfShape_pairsOf {items : List Value} {index : Nat} {fault : Fault}
    (h : pairsOf index items = .error fault) : fault.IsOfShape := by
  induction items generalizing index with
  | nil => cases h
  | cons item rest ih =>
    rcases error_of_bind h with hpair | ⟨pair, -, hpairs⟩
    · exact isOfShape_pairOf hpair
    · rcases error_of_bind hpairs with hrest | ⟨pairs, -, hnone⟩
      · exact ih hrest
      · cases hnone

theorem isOfShape_toMapping {value : Value} {fault : Fault} (h : value.toMapping = .error fault) :
    fault.IsOfShape := by
  unfold toMapping at h
  split at h
  · cases h
  · cases h
  · split at h
    · exact isOfShape_pairsOf (error_of_map h)
    · cases h
      exact Or.inl rfl

theorem isMapping_ofEntries (entries : Entries Value) : (ofEntries entries).IsMapping := by
  unfold ofEntries
  split
  · exact .object _
  · exact .mapping _

theorem isMapping_of_toMapping {value data : Value} (h : value.toMapping = .ok data) :
    data.IsMapping := by
  unfold toMapping at h
  split at h
  · cases h
    exact .object _
  · cases h
    exact .mapping _
  · split at h
    · obtain ⟨pairs, -, rfl⟩ := exists_of_map_ok h
      exact isMapping_ofEntries _
    · cases h

theorem IsTextual.isMapping {data : Value} (h : data.IsTextual) : data.IsMapping := by
  cases h with
  | object => exact .object _
  | mapping => exact .mapping _

/-- What a mapping holds under a text. -/
theorem IsMapping.under?_str {data : Value} (h : data.IsMapping) (name : Text) :
    data.under? (.str name) = .ok (data.entry? name) := by
  cases h <;> rfl

theorem IsTextual.hasDigest_of_entry? {data found : Value} {name : Text} (h : data.IsTextual)
    (hfound : data.entry? name = some found) : found.HasDigest := by
  cases h with
  | object htexts =>
    obtain ⟨field, hfield, rfl⟩ := Fields.exists_of_get? hfound
    exact htexts field hfield
  | mapping _ htexts =>
    obtain ⟨entry, hentry, rfl⟩ := Entries.exists_of_get? hfound
    exact htexts entry hentry

end Value

section

variable {κ : Type} {entries : List (κ × Value)}

/-- Texts that each have a digest have one together. -/
theorem exists_digests (h : ∀ entry ∈ entries, entry.2.HasDigest) :
    ∃ prints, digests entries = .ok prints := by
  induction entries with
  | nil => exact ⟨[], rfl⟩
  | cons entry rest ih =>
    obtain ⟨key, value⟩ := entry
    obtain ⟨text, digest, rfl, hdigest⟩ := h (key, value) List.mem_cons_self
    obtain ⟨prints, hrest⟩ := ih fun other hother => h other (List.mem_cons_of_mem _ hother)
    refine ⟨(key, digest) :: prints, ?_⟩
    simp only [digests, hdigest, hrest, Except.map]

theorem hasDigest_of_digests {prints : List (κ × Text)} (h : digests entries = .ok prints) :
    ∀ entry ∈ entries, entry.2.HasDigest := by
  induction entries generalizing prints with
  | nil => exact fun _ => nofun
  | cons entry rest ih =>
    obtain ⟨key, value⟩ := entry
    cases value with
    | str text =>
      rw [digests] at h
      split at h
      · cases h
      next digest hdigest =>
        obtain ⟨others, hothers, -⟩ := exists_of_map_ok h
        exact List.forall_mem_cons.mpr ⟨⟨text, digest, rfl, hdigest⟩, ih hothers⟩
    | _ => cases h

theorem fault_of_digests {fault : Fault} (h : digests entries = .error fault) :
    fault = .noMember ∨ fault = .unencodable := by
  induction entries with
  | nil => cases h
  | cons entry rest ih =>
    obtain ⟨key, value⟩ := entry
    cases value with
    | str text =>
      rw [digests] at h
      split at h
      · cases h
        exact Or.inr rfl
      · exact ih (error_of_map h)
    | _ =>
      cases h
      exact Or.inl rfl

end

namespace Credential

variable {credential : Credential} {fault : Fault}

/-- A credential is one of texts exactly if it has a fingerprint. -/
theorem isTextual_iff_fingerprint :
    credential.IsTextual ↔ ∃ prints, credential.fingerprint = .ok prints := by
  obtain ⟨name, data⟩ := credential
  constructor
  · intro htexts
    cases htexts with
    | object htexts =>
      exact exists_digests fun entry hentry =>
        htexts entry ((Fields.sorted_perm _).mem_iff.mp hentry)
    | mapping hsorted htexts =>
      obtain ⟨prints, hprints⟩ := exists_digests fun entry hentry =>
        htexts entry ((Entries.sorted?_perm hsorted).mem_iff.mp hentry)
      refine ⟨prints.map fun entry => (Json.nameOf entry.1, entry.2), ?_⟩
      simp only [fingerprint, keyedFingerprint, hsorted, hprints, Except.map]
  · rintro ⟨prints, hprints⟩
    cases data with
    | object fields =>
      exact .object fun entry hentry =>
        hasDigest_of_digests hprints entry ((Fields.sorted_perm fields).mem_iff.mpr hentry)
    | mapping entries =>
      obtain ⟨keyed, hkeyed, -⟩ := exists_of_map_ok hprints
      rw [keyedFingerprint] at hkeyed
      split at hkeyed
      next sorted hsorted =>
        exact .mapping hsorted fun entry hentry =>
          hasDigest_of_digests hkeyed entry ((Entries.sorted?_perm hsorted).mem_iff.mpr hentry)
      next => cases hkeyed
    | _ => cases hprints

/-- What keeps a credential from having a fingerprint: its keys have no order, its data is no
mapping, a value is no text, or half of a pair stands alone in one. -/
theorem fault_of_fingerprint (h : credential.fingerprint = .error fault) :
    fault = .wrongType ∨ fault = .noMember ∨ fault = .unencodable := by
  unfold fingerprint at h
  split at h
  · exact Or.inr (fault_of_digests h)
  · have hkeyed := error_of_map h
    rw [keyedFingerprint] at hkeyed
    split at hkeyed
    · exact Or.inr (fault_of_digests hkeyed)
    · cases hkeyed
      exact Or.inl rfl
  · cases h
    exact Or.inr (Or.inl rfl)

/-- What is remembered of a credential is missing exactly where the fingerprint is. -/
theorem mark_eq_error_iff :
    credential.mark = .error fault ↔ credential.fingerprint = .error fault := by
  have hmap : ∀ {α β : Type} (result : Except Fault α) (f : α → β),
      result.map f = .error fault ↔ result = .error fault := by
    intro α β result f
    cases result <;> simp [Except.map]
  rw [mark]
  split
  next entries hdata => rw [fingerprint, hdata, hmap, hmap]
  next => exact hmap _ _

/-- A credential of texts can be remembered. -/
theorem IsTextual.exists_mark (h : credential.IsTextual) :
    ∃ found, credential.mark = .ok found := by
  obtain ⟨prints, hprints⟩ := isTextual_iff_fingerprint.mp h
  cases hmark : credential.mark with
  | ok found => exact ⟨found, rfl⟩
  | error fault => cases hprints.symm.trans (mark_eq_error_iff.mp hmark)

/-- A mapping without a fingerprint holds something. -/
theorem isTruthy_of_fault (hdata : credential.data.IsMapping)
    (h : credential.fingerprint = .error fault) : credential.data.isTruthy = true := by
  obtain ⟨name, data⟩ := credential
  cases hdata with
  | object fields =>
    cases fields with
    | nil => cases h
    | cons => rfl
  | mapping entries =>
    cases entries with
    | nil => cases h
    | cons => rfl

end Credential

namespace Vault

open Settings

/-- The credential that a response to a read at a path holds, if it holds one. -/
def held (path response : Value) : Except Fault (Option Credential) :=
  Client.secretOf response >>= stored path

/-- A response that holds nothing, or what makes a mapping from keys that have an order to texts
that have a digest. -/
def IsReadable (response : Value) : Prop :=
  Client.secretOf response = .ok .null ∨
  ∃ secret data, Client.secretOf response = .ok secret ∧ secret.toMapping = .ok data ∧
    data.IsTextual

theorem isOfShape_secretOf {response : Value} {fault : Fault}
    (h : Client.secretOf response = .error fault) : fault.IsOfShape := by
  unfold Client.secretOf at h
  split at h
  · cases h
  rcases error_of_bind h with houter | ⟨isThere, houter, h⟩
  · exact Value.isOfShape_mentions houter
  cases isThere with
  | false => cases h
  | true =>
    rcases error_of_bind h with hcontent | ⟨content, -, h⟩
    · exact Value.isOfShape_member houter hcontent
    rcases error_of_bind h with hinner | ⟨isInside, hinner, h⟩
    · exact Value.isOfShape_mentions hinner
    cases isInside with
    | false => cases h
    | true => exact Value.isOfShape_member hinner h

/-- Whatever keeps a credential from being told from a response is a matter of its shape. -/
theorem isOfShape_held {path response : Value} {fault : Fault}
    (h : held path response = .error fault) : fault.IsOfShape := by
  rcases error_of_bind h with hsecret | ⟨secret, -, hstored⟩
  · exact isOfShape_secretOf hsecret
  · unfold stored at hstored
    split at hstored
    · cases hstored
    · exact Value.isOfShape_toMapping (error_of_map hstored)

theorem isStored_of_held {path : Text} {response : Value} {credential : Credential}
    (h : held (.str path) response = .ok (some credential)) : credential.IsStored := by
  obtain ⟨secret, -, hstored⟩ := exists_of_bind_ok h
  unfold stored at hstored
  split at hstored
  · cases hstored
  · obtain ⟨data, hdata, hcredential⟩ := exists_of_map_ok hstored
    cases hcredential
    exact ⟨⟨path, rfl⟩, Value.isMapping_of_toMapping hdata⟩

/-- A response that cannot be used, since no credential is told from it, or one that has no
fingerprint. -/
def Spoils (path response : Value) (fault : Fault) : Prop :=
  held path response = .error fault ∨
  ∃ credential, held path response = .ok (some credential) ∧ credential.fingerprint = .error fault

theorem IsReadable.not_spoils {path response : Value} {fault : Fault} (h : IsReadable response) :
    ¬ Spoils path response fault := by
  rcases h with hnull | ⟨secret, data, hsecret, hdata, htexts⟩
  · have hheld : held path response = .ok none := by
      rw [held, hnull]
      rfl
    rintro (hfault | ⟨credential, hfound, -⟩)
    · cases hheld.symm.trans hfault
    · cases hheld.symm.trans hfound
  · have hheld : held path response = .ok (some ⟨path, data⟩) := by
      have hstored : stored path secret = secret.toMapping.map fun data => some ⟨path, data⟩ := by
        cases secret <;> first | rfl | cases hdata
      rw [held, hsecret]
      exact hstored.trans (by rw [hdata]; rfl)
    rintro (hfault | ⟨credential, hfound, hprints⟩)
    · cases hheld.symm.trans hfault
    · cases hheld.symm.trans hfound
      have htextual : Credential.IsTextual ⟨path, data⟩ := htexts
      obtain ⟨prints, hok⟩ := Credential.isTextual_iff_fingerprint.mp htextual
      cases hok.symm.trans hprints

namespace SecretStore

variable {store : SecretStore} {server : Server} {session : Session} {fault : Fault}

/-- A read ends without a credential, with an error of the fetch, or with what the response
holds. -/
theorem credentialAt_cases (hremote : server.IsRemote) (store : SecretStore)
    (kind : CredentialKind) (earlier : Nat) :
    store.credentialAt server kind earlier = .ok none ∨
    (∃ cause, store.credentialAt server kind earlier = .error (fetchFault cause)) ∨
    ∃ response, server.read earlier (.str (store.path kind)) = .ok response ∧
      store.credentialAt server kind earlier = held (.str (store.path kind)) response := by
  unfold credentialAt
  split
  · exact Or.inl rfl
  · cases hread : server.read earlier (.str (store.path kind)) with
    | ok response => exact Or.inr (Or.inr ⟨response, rfl, rfl⟩)
    | error fault =>
      obtain ⟨error, rfl⟩ := hremote.read hread
      cases hinvalid : error.isInvalidPath with
      | true =>
        left
        simp only [secretIn, hinvalid]
        rfl
      | false =>
        right
        left
        simp only [secretIn, hinvalid]
        exact ⟨_, rfl⟩

/-- A response of the server to the read of a credential of a kind. -/
def Responds (store : SecretStore) (server : Server) (kind : CredentialKind) (response : Value) :
    Prop :=
  ∃ earlier, server.read earlier (.str (store.path kind)) = .ok response

variable (hcheck : store.vault.check = .ok store.vault) (henabled : store.vault.enabled = true)
  (hremote : session.server.IsRemote)
include hcheck henabled hremote

theorem fetch_cases (environment : Environment) :
    ((store.fetch environment).runOn session).1 = .ok (none, none) ∨
    (∃ cause, ((store.fetch environment).runOn session).1 = .error (fetchFault cause)) ∨
    ∃ earlier calls, store.Told session.server earlier calls
      ((store.fetch environment).runOn session).1 := by
  obtain ⟨calls, result, isOpen, journal, hfetched, hrun⟩ :=
    fetched_fetch hcheck henabled hremote environment
  rw [hrun]
  generalize session.isOpen = wasOpen at hfetched
  cases hfetched with
  | idle => exact Or.inl rfl
  | turnedAway => exact Or.inr (Or.inl ⟨_, rfl⟩)
  | letIn _ _ htold => exact Or.inr (Or.inr ⟨_, _, htold⟩)
  | reading htold => exact Or.inr (Or.inr ⟨_, _, htold⟩)

/-- A fetch that fails met a refusal, or a response of another shape. -/
theorem fault_of_fetch {environment : Environment}
    (h : ((store.fetch environment).runOn session).1 = .error fault) :
    (∃ cause, fault = fetchFault cause) ∨
    ∃ kind response, store.Responds session.server kind response ∧
      held (.str (store.path kind)) response = .error fault := by
  have hread : ∀ kind earlier, store.credentialAt session.server kind earlier = .error fault →
      (∃ cause, fault = fetchFault cause) ∨
      ∃ kind response, store.Responds session.server kind response ∧
        held (.str (store.path kind)) response = .error fault := by
    intro kind earlier hfault
    rcases credentialAt_cases hremote store kind earlier with
      hnone | ⟨cause, hrefused⟩ | ⟨response, hresponse, hheld⟩
    · cases hnone.symm.trans hfault
    · exact Or.inl ⟨cause, Except.error.inj (hfault.symm.trans hrefused)⟩
    · exact Or.inr ⟨kind, response, ⟨earlier, hresponse⟩, hheld.symm.trans hfault⟩
  rcases fetch_cases hcheck henabled hremote environment with
    hnone | ⟨cause, hrefused⟩ | ⟨earlier, calls, htold⟩
  · cases hnone.symm.trans h
  · exact Or.inl ⟨cause, Except.error.inj (h.symm.trans hrefused)⟩
  · rw [h] at htold
    generalize hresult : Except.error fault = result at htold
    cases htold with
    | halted hos =>
      cases hresult
      exact hread .os earlier hos
    | both hos => exact hread .rescue _ (error_of_map hresult.symm)

/-- A credential that a fetch gives out is held by a response. -/
theorem response_of_fetch {environment : Environment} {os rescue : Option Credential}
    (h : ((store.fetch environment).runOn session).1 = .ok (os, rescue)) :
    (∀ credential, os = some credential → ∃ response,
      store.Responds session.server .os response ∧
      held (.str (store.path .os)) response = .ok (some credential)) ∧
    ∀ credential, rescue = some credential → ∃ response,
      store.Responds session.server .rescue response ∧
      held (.str (store.path .rescue)) response = .ok (some credential) := by
  have hread : ∀ kind earlier credential,
      store.credentialAt session.server kind earlier = .ok (some credential) →
      ∃ response, store.Responds session.server kind response ∧
        held (.str (store.path kind)) response = .ok (some credential) := by
    intro kind earlier credential hfound
    rcases credentialAt_cases hremote store kind earlier with
      hnone | ⟨cause, hrefused⟩ | ⟨response, hresponse, hheld⟩
    · cases hnone.symm.trans hfound
    · cases hrefused.symm.trans hfound
    · exact ⟨response, ⟨earlier, hresponse⟩, hheld.symm.trans hfound⟩
  rcases fetch_cases hcheck henabled hremote environment with
    hnone | ⟨cause, hrefused⟩ | ⟨earlier, calls, htold⟩
  · cases hnone.symm.trans h
    exact ⟨nofun, nofun⟩
  · cases hrefused.symm.trans h
  · rw [h] at htold
    generalize hresult : Except.ok (os, rescue) = result at htold
    cases htold with
    | halted => cases hresult
    | both hos =>
      obtain ⟨found, hrescue, hpair⟩ := exists_of_map_ok hresult.symm
      cases hpair
      refine ⟨?_, ?_⟩
      · rintro credential rfl
        exact hread .os _ credential hos
      · rintro credential rfl
        exact hread .rescue _ credential hrescue

end SecretStore

end Vault

end HostLifecycle
