import HostLifecycle.Proofs.Reconciliation.Exits
import HostLifecycle.Proofs.Reconciliation.Failing
import HostLifecycle.Proofs.Reconciliation.Soundness
import HostLifecycle.Proofs.Vault.Responses

/-!
What the look at the credentials makes of the responses of a server of secrets. Where each of them
can be read the look ends with an outcome, and a refusal of the server is the error that a failed
outcome carries. A response of another shape ends the look in a fault instead, and so does a
secret whose values are no texts.
-/

namespace HostLifecycle.Reconciliation

open Attempt Audit Vault

/-- A provider that judges credentials in the usual way, by keys that are texts, the second of
which leads to the public key. -/
structure Service.IsUsual (service : Service) : Prop where
  judgement : ∀ kind, service.judgement kind = none
  keys : ∃ name publicKey rest, service.requiredKeys = .str name :: .str publicKey :: rest ∧
    ∀ key ∈ rest, ∃ text, key = .str text

/-- A host at which nothing but a credential can keep the look from an outcome: what is remembered
can be read, the errors are counted by a number, no operation is hidden, and events are kept in
memory only. -/
structure Site.Firm (site : Site) : Prop where
  sshStatus : ∃ status, site.host.sshStatus = .known status
  errorCount : ∃ count, site.host.errorCount = .int count
  hidden : site.host.hidden = []
  inMemory : site.trail.recorder.logFile = none

def Ends (run : Except Fault Outcome × Site) : Prop :=
  (∃ outcome, run.1 = .ok outcome) ∧ run.2.Firm

variable {service : Service} {kind : CredentialKind} {credential : Credential}

theorem missingKeys_ok {data : Value} (hdata : data.IsMapping) {keys : List Value}
    (h : ∀ key ∈ keys, ∃ text, key = .str text) :
    ∃ missing, missingKeys data keys = .ok missing := by
  induction keys with
  | nil => exact ⟨[], rfl⟩
  | cons key rest ih =>
    obtain ⟨text, rfl⟩ := h key List.mem_cons_self
    obtain ⟨missing, hmissing⟩ := ih fun other hother => h other (List.mem_cons_of_mem _ hother)
    rw [missingKeys, hmissing, hdata.under?_str]
    simp only [bind, Except.bind]
    split <;> exact ⟨_, rfl⟩

/-- Where no key is missing, something is stored under each of them. -/
theorem isTruthy_of_missingKeys {data : Value} (hdata : data.IsMapping) {keys : List Value}
    {key : Text} (h : missingKeys data keys = .ok []) (hkey : .str key ∈ keys) :
    ((data.entry? key).getD .null).isTruthy = true := by
  induction keys with
  | nil => cases hkey
  | cons first rest ih =>
    obtain ⟨others, hothers, hlooked⟩ := exists_of_bind_ok h
    obtain ⟨found, hfound, hmissing⟩ := exists_of_bind_ok hlooked
    split at hmissing
    next htruthy =>
      cases hmissing
      rcases List.mem_cons.mp hkey with rfl | hrest
      · cases (hdata.under?_str key).symm.trans hfound
        exact htruthy
      · exact ih hothers hrest
    next => split at hmissing <;> cases hmissing

/-- The usual judgement of a credential of texts comes to an end. -/
theorem Service.IsUsual.exists_problem (h : service.IsUsual) (htexts : credential.IsTextual) :
    ∃ problem, credentialProblem service.requiredKeys credential = .ok problem := by
  obtain ⟨name, publicKey, rest, hkeys, hrest⟩ := h.keys
  have hdata : credential.data.IsMapping := Value.IsTextual.isMapping htexts
  have htextual : ∀ key ∈ service.requiredKeys, ∃ text, key = .str text := by
    rw [hkeys]
    exact List.forall_mem_cons.mpr
      ⟨⟨name, rfl⟩, List.forall_mem_cons.mpr ⟨⟨publicKey, rfl⟩, hrest⟩⟩
  obtain ⟨missing, hmissing⟩ := missingKeys_ok hdata htextual
  rw [hkeys] at hmissing ⊢
  rw [credentialProblem, hmissing]
  cases missing with
  | cons first others => exact ⟨_, rfl⟩
  | nil =>
    -- the key is read only where none is missing, so a text is stored under it
    have hmember : Value.str publicKey ∈ Value.str name :: .str publicKey :: rest :=
      List.mem_cons_of_mem _ List.mem_cons_self
    have hstored := isTruthy_of_missingKeys hdata hmissing hmember
    cases hfound : credential.data.entry? publicKey with
    | none =>
      rw [hfound] at hstored
      cases hstored
    | some value =>
      obtain ⟨text, -, rfl, -⟩ := Value.IsTextual.hasDigest_of_entry? htexts hfound
      have hkey : publicKeyOf credential.data (.str name :: .str publicKey :: rest) =
          .ok text := by
        rw [publicKeyOf, hdata.under?_str, hfound]
        rfl
      simp only [bind, Except.bind, hkey]
      exact ⟨_, rfl⟩

namespace Site

variable {site : Site}

/-- A failure that is entered is carried by an outcome. -/
theorem Firm.ends_enter (h : site.Firm) (failure : Failure) :
    Ends ((enter failure).runOn site) := by
  have htells : site.TellsFailures :=
    ⟨h.errorCount, by rw [h.hidden]; rfl, Trail.takesEvents_of_none h.inMemory⟩
  obtain ⟨trail, count, -, hrun, hfile⟩ := htells.runOn_enter failure
  rw [hrun]
  exact ⟨⟨failure.outcome, rfl⟩, h.sshStatus, ⟨_, rfl⟩, h.hidden, hfile.trans h.inMemory⟩

theorem Firm.ends_validate (h : site.Firm) (hservice : service.IsUsual)
    (htexts : credential.IsTextual) (kind : CredentialKind) :
    Ends ((validate service kind (some credential)).runOn site) := by
  obtain ⟨problem, hproblem⟩ := hservice.exists_problem htexts
  have hvalidate : validate service kind (some credential) =
      inspect service.requiredKeys kind credential := by
    simp only [validate, hservice.judgement kind]
  rw [hvalidate, inspect, runOn_bind, runOn_ofExcept, hproblem]
  cases problem with
  | none => exact ⟨⟨.complete, rfl⟩, h⟩
  | some problem => exact h.ends_enter (.invalid kind credential problem)

/-- Only that it has no data keeps a credential of texts from being remembered. -/
theorem Firm.fault_of_remember (h : site.Firm) (hstored : credential.IsStored)
    (htexts : credential.IsTextual) {fault : Fault}
    (hremember : site.host.remember kind credential = .error fault) :
    ∃ error, fault = .lifecycle error := by
  obtain ⟨status, hstatus⟩ := h.sshStatus
  obtain ⟨found, hmark⟩ := htexts.exists_mark
  rcases error_of_bind hremember with hoffer | ⟨_, -, hremember⟩
  · rw [HostRecord.offer, h.hidden] at hoffer
    cases hoffer
  rcases error_of_bind hremember with hseen | ⟨seen, -, hremember⟩
  · rw [SecretStatus.ofCredential, hmark] at hseen
    split at hseen
    · cases hseen
    · obtain ⟨text, hname⟩ := hstored.name
      rw [Fault.telling_of_told (by rw [hname]; rfl)] at hseen
      cases hseen
      exact ⟨_, rfl⟩
  rcases error_of_bind hremember with hread | ⟨_, -, hremember⟩
  · rw [HostRecord.credentialStatus, hstatus] at hread
    cases hread
  · cases hremember

theorem Firm.ends_renew (h : site.Firm) (hservice : service.IsUsual)
    (hstored : credential.IsStored) (htexts : credential.IsTextual) (kind : CredentialKind) :
    Ends ((renew service kind credential).runOn site) := by
  rcases runOn_renew service kind credential site with
    ⟨host, hremember, journal, hrun⟩ | ⟨_, hfails, -, -⟩
  · obtain ⟨status, seen, -, -, rfl⟩ := HostRecord.exists_of_remember hremember
    have hfirm : Firm (withJournal journal { site with host := { site.host with
        sshStatus := .known (status.remember kind seen) } }) :=
      ⟨⟨_, rfl⟩, h.errorCount, h.hidden, h.inMemory⟩
    rw [hrun]
    exact hfirm.ends_validate hservice htexts kind
  · cases hremember : site.host.remember kind credential with
    | ok after => exact absurd hremember (hfails after)
    | error fault =>
      obtain ⟨error, rfl⟩ := h.fault_of_remember hstored htexts hremember
      rw [runOn_renew_of_fault service hremember]
      exact ⟨⟨.failed (.lifecycle error), rfl⟩, h⟩

end Site

namespace Pass

variable {pass : Pass} {run : Except Fault Outcome × Pass}

theorem remembered_of_known {host : HostRecord} {status : SshStatus}
    (h : host.sshStatus = .known status) (kind : CredentialKind) :
    host.remembered kind = .ok (status.of kind) := by
  rw [HostRecord.remembered, HostRecord.credentialStatus, h]
  rfl

/-- The comparison of a credential of texts ends with an outcome. -/
theorem Compared.ends (h : Compared service kind credential pass run) (hfirm : pass.site.Firm)
    (hservice : service.IsUsual) (hstored : credential.IsStored) (htexts : credential.IsTextual) :
    Ends (run.1, run.2.site) := by
  obtain ⟨status, hstatus⟩ := hfirm.sshStatus
  obtain ⟨found, hmark⟩ := htexts.exists_mark
  cases h with
  | unreadable fault hremembered => cases (remembered_of_known hstatus kind).symm.trans hremembered
  | incomparable seen fault _ hagrees =>
    rw [SecretStatus.agrees, hmark] at hagrees
    split at hagrees <;> cases hagrees
  | unseen | accepted => exact hfirm.ends_renew hservice hstored htexts kind
  | redirected seen state journal =>
    have hredirected : (pass.site.withJournal journal).Firm :=
      ⟨hfirm.sshStatus, hfirm.errorCount, hfirm.hidden, hfirm.inMemory⟩
    exact hredirected.ends_renew hservice hstored htexts kind
  | same => exact hfirm.ends_validate hservice htexts kind
  | refused => exact hfirm.ends_enter .rotation

/-- A credential without a fingerprint cannot be remembered, and the fault of the fingerprint is
the one that keeps it. -/
theorem remember_of_fault {host : HostRecord} {fault : Fault}
    (hhidden : host.hidden = []) (hdata : credential.data.IsMapping)
    (hprints : credential.fingerprint = .error fault) :
    host.remember kind credential = .error fault := by
  have hseen : SecretStatus.ofCredential credential = .error fault := by
    rw [SecretStatus.ofCredential, if_pos (Credential.isTruthy_of_fault hdata hprints),
      Credential.mark_eq_error_iff.mpr hprints]
    rfl
  rw [HostRecord.remember, HostRecord.offer, hhidden, hseen]
  rfl

/-- The comparison of a credential without a fingerprint ends in the fault of the fingerprint,
unless the credential is refused by its name. -/
theorem Compared.raises_or_refused {remembered : Option SecretStatus} {fault : Fault}
    (h : Compared service kind credential pass run)
    (hread : pass.site.host.remembered kind = .ok remembered) (hhidden : pass.site.host.hidden = [])
    (hdata : credential.data.IsMapping) (hprints : credential.fingerprint = .error fault) :
    run.1 = .error fault ∨ (reaction kind pass.next = .refuse ∧
      (∃ seen, pass.site.host.remembered kind = .ok (some seen) ∧
        (seen.reference == credential.name) = false) ∧
      run = (onSite Site.refuseRotation).runOn pass) := by
  have hsurfaced : fault.surfaced = .error fault := by
    rcases Credential.fault_of_fingerprint hprints with rfl | rfl | rfl <;> rfl
  have hmark := Credential.mark_eq_error_iff.mpr hprints
  have hrenew : ∀ found : Site, found.host = pass.site.host →
      ((Site.renew service kind credential).runOn found).1 = .error fault := by
    intro found hfound
    rw [← hfound] at hhidden
    rw [Site.runOn_renew_of_fault service (remember_of_fault hhidden hdata hprints)]
    exact hsurfaced
  cases h with
  | unreadable _ hremembered => cases hread.symm.trans hremembered
  | incomparable seen _ _ hagrees =>
    rw [SecretStatus.agrees, hmark] at hagrees
    split at hagrees <;> cases hagrees
    exact Or.inl rfl
  | unseen | accepted => exact Or.inl (hrenew pass.site rfl)
  | redirected _ _ journal => exact Or.inl (hrenew (pass.site.withJournal journal) rfl)
  | same seen _ hagrees =>
    rw [SecretStatus.agrees, hmark] at hagrees
    split at hagrees <;> cases hagrees
  | refused seen hremembered hagrees hreaction =>
    cases hname : seen.reference == credential.name with
    | false => exact Or.inr ⟨hreaction, ⟨seen, hremembered, hname⟩, rfl⟩
    | true =>
      rw [SecretStatus.agrees, if_pos hname, hmark] at hagrees
      cases hagrees

/-- What a look at fetched credentials ends with, which each have a mapping for their data: an
outcome, or the fault of a fingerprint. -/
def EndsOrRaises (fetched : CredentialKind → Option Credential)
    (run : Except Fault Outcome × Pass) : Prop :=
  Ends (run.1, run.2.site) ∨
  ∃ kind credential fault, fetched kind = some credential ∧
    credential.fingerprint = .error fault ∧ run.1 = .error fault

theorem endsOrRaises_checkFetched (logger : Text) (hfirm : pass.site.Firm)
    (hservice : service.IsUsual) (fetched : CredentialKind → Option Credential)
    (hstored : ∀ kind credential, fetched kind = some credential → credential.IsStored)
    (kind : CredentialKind) :
    EndsOrRaises fetched ((checkFetched service logger kind (fetched kind)).runOn pass) := by
  cases hfetched : fetched kind with
  | none => exact Or.inl ⟨⟨.complete, rfl⟩, hfirm⟩
  | some credential =>
    have hcompared : Compared service kind credential pass
        ((checkFetched service logger kind (some credential)).runOn pass) :=
      compared_checkCredential service logger kind credential pass
    cases hprints : credential.fingerprint with
    | ok prints =>
      have htexts : credential.IsTextual :=
        Credential.isTextual_iff_fingerprint.mpr ⟨prints, hprints⟩
      exact Or.inl (hcompared.ends hfirm hservice (hstored kind credential hfetched) htexts)
    | error fault =>
      obtain ⟨status, hstatus⟩ := hfirm.sshStatus
      have hdata := (hstored kind credential hfetched).data
      rcases hcompared.raises_or_refused (remembered_of_known hstatus kind) hfirm.hidden hdata
        hprints with hraises | ⟨-, -, hrefused⟩
      · exact Or.inr ⟨kind, credential, fault, hfetched, hprints, hraises⟩
      · left
        rw [hrefused]
        exact hfirm.ends_enter .rotation

theorem endsOrRaises_checkBoth (logger : Text) (hfirm : pass.site.Firm)
    (hservice : service.IsUsual) {fetched : Option Credential × Option Credential}
    (hstored : ∀ kind credential, fetchedOf kind fetched = some credential →
      credential.IsStored) :
    EndsOrRaises (fetchedOf · fetched) ((checkBoth service logger fetched).runOn pass) := by
  have hos : EndsOrRaises (fetchedOf · fetched) (behindOs service logger fetched pass) :=
    endsOrRaises_checkFetched logger hfirm hservice (fetchedOf · fetched) hstored .os
  rw [runOn_checkBoth]
  split
  next hcompletes =>
    -- the second look starts at the firm host that the first one left
    rcases hos with hends | ⟨_, _, fault, -, -, hraises⟩
    · exact endsOrRaises_checkFetched logger hends.2 hservice (fetchedOf · fetched) hstored .rescue
    · rw [hraises] at hcompletes
      cases hcompletes
  next => exact hos

end Pass

/-- A source that reads from a server answers what the fetch ends with. -/
theorem Site.answer_of_secrets {site : Site} {store : SecretStore} {session : Session}
    (hsource : site.source = .secrets store session) :
    site.answer = ((store.fetch site.environment).runOn
      { session with journal := site.journal }).1 := by
  obtain ⟨host, trail, source, environment, actions, calls, fetches⟩ := site
  cases hsource
  rfl

namespace Pass

section

variable {service : Service} {site : Site} {store : SecretStore} {session : Session}
  (logger : Text) (hsource : site.source = .secrets store session)
  (hcheck : store.vault.check = .ok store.vault) (henabled : store.vault.enabled = true)
  (hremote : session.server.IsRemote)
include hsource hcheck henabled hremote

/-- A fetch that fails is a failed outcome where the server refused, and a fault where a response
has another shape. The record is left as it was. -/
theorem gate_of_failed_fetch (service : Service) (hstate : site.host.state ≠ .deprovisioning)
    {fault : Fault} (hanswer : site.answer = .error fault) :
    (gate service logger site).2.site.host = site.host ∧
    ((∃ cause, fault = .lifecycle (.credentialFetch cause) ∧
        (gate service logger site).1 = .ok (.failed fault)) ∨
      ((∃ kind response, store.Responds session.server kind response ∧
          held (.str (store.path kind)) response = .error fault ∧ fault.IsOfShape) ∧
        (gate service logger site).1 = .error fault)) := by
  have hfetch := (Site.answer_of_secrets hsource).symm.trans hanswer
  have hopened : (Session.server { session with journal := site.journal }).IsRemote := hremote
  rw [gate_of_fault service logger hstate hanswer]
  refine ⟨rfl, ?_⟩
  rcases SecretStore.fault_of_fetch hcheck henabled hopened hfetch with
    ⟨cause, rfl⟩ | ⟨kind, response, hresponse, hheld⟩
  · exact Or.inl ⟨cause, rfl, rfl⟩
  · have hshape := isOfShape_held hheld
    refine Or.inr ⟨⟨kind, response, hresponse, hheld, hshape⟩, ?_⟩
    rcases hshape with rfl | ⟨_, _, rfl⟩ <;> rfl

/-- A credential that is given out is held by a response to a read of its kind. -/
theorem response_of_gives {kind : CredentialKind} {credential : Credential}
    (h : site.Gives kind credential) : ∃ response, store.Responds session.server kind response ∧
      held (.str (store.path kind)) response = .ok (some credential) := by
  obtain ⟨⟨os, rescue⟩, hanswer, hgiven⟩ := h
  have hfetch := (Site.answer_of_secrets hsource).symm.trans hanswer
  have hopened : (Session.server { session with journal := site.journal }).IsRemote := hremote
  obtain ⟨hos, hrescue⟩ := SecretStore.response_of_fetch hcheck henabled hopened hfetch
  cases kind with
  | os => exact hos credential hgiven
  | rescue => exact hrescue credential hgiven

/-- The look at a firm host ends with an outcome, or with the fault that a response spoils it
with. -/
theorem ends_or_spoiled_gate (hfirm : site.Firm) (hservice : service.IsUsual)
    (hstate : site.host.state ≠ .deprovisioning) :
    (∃ outcome, (gate service logger site).1 = .ok outcome) ∨
    ∃ kind response fault, store.Responds session.server kind response ∧
      Spoils (.str (store.path kind)) response fault ∧
      (gate service logger site).1 = .error fault := by
  cases hanswer : site.answer with
  | error fault =>
    obtain ⟨-, hrun⟩ := gate_of_failed_fetch logger hsource hcheck henabled hremote service hstate
      hanswer
    rcases hrun with ⟨_, -, hfailed⟩ | ⟨⟨kind, response, hresponse, hheld, -⟩, hraises⟩
    · exact Or.inl ⟨_, hfailed⟩
    · exact Or.inr ⟨kind, response, fault, hresponse, Or.inl hheld, hraises⟩
  | ok fetched =>
    have hresponse := @response_of_gives site store session hsource hcheck henabled hremote
    have hstored : ∀ kind credential, fetchedOf kind fetched = some credential →
        credential.IsStored := by
      intro kind credential hgiven
      obtain ⟨response, -, hheld⟩ := hresponse ⟨fetched, hanswer, hgiven⟩
      exact isStored_of_held hheld
    have hfetched : (Pass.of site).behindFetch.site.Firm :=
      ⟨hfirm.sshStatus, hfirm.errorCount, hfirm.hidden, hfirm.inMemory⟩
    rw [gate, runOn_checkCredentials_of_answer service logger (Pass.of site) hstate hanswer]
    rcases endsOrRaises_checkBoth logger hfetched hservice hstored with
      hends | ⟨kind, credential, fault, hgiven, hprints, hraises⟩
    · exact Or.inl hends.1
    · obtain ⟨response, hresponds, hheld⟩ := hresponse ⟨fetched, hanswer, hgiven⟩
      exact Or.inr ⟨kind, response, fault, hresponds, Or.inr ⟨credential, hheld, hprints⟩, hraises⟩

end

/-- The look at a host comes to a credential of a kind: to that of the rescue system only once the
look at the other one completes. -/
def Reaches (service : Service) (logger : Text) (site : Site)
    (fetched : Option Credential × Option Credential) : CredentialKind → Prop
  | .os => True
  | .rescue => completes (behindOs service logger fetched (Pass.of site).behindFetch).1 = true

/-- A credential without a fingerprint raises what keeps it from having one, unless it is refused
by its name. -/
theorem gate_raises {service : Service} {logger : Text} {site : Site} {status : SshStatus}
    {fetched : Option Credential × Option Credential} {kind : CredentialKind}
    {credential : Credential} {fault : Fault}
    (hstate : site.host.state ≠ .deprovisioning) (hstatus : site.host.sshStatus = .known status)
    (hhidden : site.host.hidden = []) (hanswer : site.answer = .ok fetched)
    (hreaches : Reaches service logger site fetched kind)
    (hgiven : fetchedOf kind fetched = some credential) (hdata : credential.data.IsMapping)
    (hprints : credential.fingerprint = .error fault)
    (hnamed : reaction kind site.host.state = .refuse → ∀ seen,
      status.of kind = some seen → (seen.reference == credential.name) = true) :
    (gate service logger site).1 = .error fault := by
  have hread := remembered_of_known hstatus
  rw [gate, runOn_checkCredentials_of_answer service logger (Pass.of site) hstate hanswer,
    runOn_checkBoth]
  cases kind with
  | os =>
    have hfirst : fetched.1 = some credential := hgiven
    have hraises : (behindOs service logger fetched (Pass.of site).behindFetch).1 =
        .error fault := by
      have hcompared := compared_checkCredential service logger .os credential
        (Pass.of site).behindFetch
      rw [behindOs, hfirst]
      rcases hcompared.raises_or_refused (hread .os) hhidden hdata hprints with
        hraises | ⟨hrefuse, ⟨seen, hseen, hother⟩, -⟩
      · exact hraises
      · have hsame := hnamed hrefuse seen (Except.ok.inj ((hread .os).symm.trans hseen))
        cases hsame.symm.trans hother
    rw [hraises]
    exact hraises
  | rescue =>
    have hsecond : fetched.2 = some credential := hgiven
    have hos := looked_checkFetched service logger .os fetched.1 (Pass.of site).behindFetch
    have hkept : (behindOs service logger fetched (Pass.of site).behindFetch).2.site.host.remembered
        .rescue = .ok (status.of .rescue) :=
      (hos.remembered_other .rescue (by decide)).trans (hread .rescue)
    have hoffered : (behindOs service logger fetched (Pass.of site).behindFetch).2.site.host.hidden
        = [] := (congrArg Setting.hidden hos.setting_eq).trans hhidden
    have hcompared := compared_checkCredential service logger .rescue credential
      (behindOs service logger fetched (Pass.of site).behindFetch).2
    have hcompletes : completes (behindOs service logger fetched (Pass.of site).behindFetch).1 =
        true := hreaches
    rw [if_pos hcompletes, hsecond]
    rcases hcompared.raises_or_refused hkept hoffered hdata hprints with hraises | ⟨hrefuse, -, -⟩
    · exact hraises
    · -- a changed credential of the rescue system is never refused
      rw [reaction] at hrefuse
      split at hrefuse <;> cases hrefuse

/-- What the look at a host that is not torn down makes of the responses of a server. A fetch that
fails is a failed outcome where the server refused, and a fault where a response has another shape.
A credential without a fingerprint is a fault as well, unless it is refused by its name. Nothing
else keeps the look from an outcome. -/
structure OfResponses (service : Service) (logger : Text) (store : SecretStore) (server : Server)
    (site : Site) : Prop where
  unfetched : ∀ fault, site.answer = .error fault →
    (gate service logger site).2.site.host = site.host ∧
    ((∃ cause, fault = .lifecycle (.credentialFetch cause) ∧
        (gate service logger site).1 = .ok (.failed fault)) ∨
      ((∃ kind response, store.Responds server kind response ∧
          held (.str (store.path kind)) response = .error fault ∧ fault.IsOfShape) ∧
        (gate service logger site).1 = .error fault))
  unprinted : ∀ fetched kind credential fault, site.answer = .ok fetched →
    fetchedOf kind fetched = some credential → Reaches service logger site fetched kind →
    credential.fingerprint = .error fault →
    (reaction kind site.host.state = .refuse → ∀ seen,
      site.host.remembered kind = .ok (some seen) → (seen.reference == credential.name) = true) →
    (gate service logger site).1 = .error fault
  raised : service.IsUsual → site.trail.recorder.logFile = none → ∀ fault,
    (gate service logger site).1 = .error fault →
    ∃ kind response, store.Responds server kind response ∧
      Spoils (.str (store.path kind)) response fault
  readable : service.IsUsual → site.trail.recorder.logFile = none →
    (∀ kind response, store.Responds server kind response → IsReadable response) →
    ∃ outcome, (gate service logger site).1 = .ok outcome

/-- The look at a host whose credentials are read from a server goes by the responses, unless the
host is torn down. -/
theorem gate_of_responses {service : Service} {logger : Text} {site : Site} {store : SecretStore}
    {session : Session} (hsource : site.source = .secrets store session)
    (hcheck : store.vault.check = .ok store.vault) (henabled : store.vault.enabled = true)
    (hremote : session.server.IsRemote) (hrecord : site.host.WellTyped)
    (hhidden : site.host.hidden = []) :
    (site.host.state = .deprovisioning → (gate service logger site).1 = .ok .complete) ∧
    (site.host.state ≠ .deprovisioning →
      OfResponses service logger store session.server site) := by
  obtain ⟨status, hstatus, -⟩ := hrecord.sshStatus
  constructor
  · intro hstate
    rw [gate, runOn_checkCredentials_of_deprovisioning service logger (Pass.of site) hstate]
  intro hstate
  have hgate : service.IsUsual → site.trail.recorder.logFile = none →
      (∃ outcome, (gate service logger site).1 = .ok outcome) ∨
      ∃ kind response fault, store.Responds session.server kind response ∧
        Spoils (.str (store.path kind)) response fault ∧
        (gate service logger site).1 = .error fault := fun hservice hinMemory =>
    ends_or_spoiled_gate logger hsource hcheck henabled hremote
      ⟨⟨status, hstatus⟩, hrecord.errorCount, hhidden, hinMemory⟩ hservice hstate
  refine ⟨fun fault hanswer => ?_, ?_, ?_, ?_⟩
  · exact gate_of_failed_fetch logger hsource hcheck henabled hremote service hstate hanswer
  · intro fetched kind credential fault hanswer hgiven hreaches hprints hnamed
    obtain ⟨_, -, hheld⟩ := response_of_gives hsource hcheck henabled hremote
      ⟨fetched, hanswer, hgiven⟩
    refine gate_raises hstate hstatus hhidden hanswer hreaches hgiven (isStored_of_held hheld).data
      hprints ?_
    intro hrefuse seen hseen
    exact hnamed hrefuse seen (by rw [remembered_of_known hstatus, hseen])
  · intro hservice hinMemory fault hraises
    rcases hgate hservice hinMemory with
      ⟨outcome, hends⟩ | ⟨kind, response, fault', hresponds, hspoils, hfault⟩
    · cases hraises.symm.trans hends
    · obtain rfl := Except.error.inj (hraises.symm.trans hfault)
      exact ⟨kind, response, hresponds, hspoils⟩
  · intro hservice hinMemory hreadable
    rcases hgate hservice hinMemory with hends | ⟨kind, response, _, hresponds, hspoils, -⟩
    · exact hends
    · exact absurd hspoils (hreadable kind response hresponds).not_spoils

/-- A server whose responses have a data entry that is null. -/
def emptied : Server := { Server.empty with read := fun _ _ => .ok (.object [("data", .null)]) }

/-- A new host whose credentials are read from such a server. -/
def emptiedSite : Site :=
  { (Machine.fresh (HostRecord.new (.str "host"))).site with
    source := .secrets (SecretStore.ofToken "token" "os") (Session.start emptied) }

def usual : Service := ⟨[.str "name", .str "public-key", .str "private-key"], fun _ => none⟩

theorem gate_of_responses_emptied :
    (gate usual "host" emptiedSite).1 = .error .wrongType ∧
    ∃ kind response, (SecretStore.ofToken "token" "os").Responds emptied kind response ∧
      Spoils (.str ((SecretStore.ofToken "token" "os").path kind)) response .wrongType := by
  have hremote : (Session.start emptied).server.IsRemote := by
    constructor <;> intros <;> contradiction
  have husual : usual.IsUsual := by
    refine ⟨fun _ => rfl, ⟨"name", "public-key", [.str "private-key"], rfl, ?_⟩⟩
    intro key hkey
    exact ⟨"private-key", List.mem_singleton.mp hkey⟩
  have hrecord : emptiedSite.host.WellTyped := HostRecord.wellTyped_new "host"
  have hanswer : emptiedSite.answer = .error .wrongType := rfl
  obtain ⟨-, hlooked⟩ := @gate_of_responses usual "host" emptiedSite _ _ rfl rfl rfl hremote
    hrecord rfl
  have hfaced := hlooked (by decide)
  have hraises : (gate usual "host" emptiedSite).1 = .error .wrongType := by
    obtain ⟨-, ⟨_, hcause, -⟩ | ⟨-, hraises⟩⟩ := hfaced.unfetched .wrongType hanswer
    · cases hcause
    · exact hraises
  exact ⟨hraises, hfaced.raised husual rfl .wrongType hraises⟩

end Pass

end HostLifecycle.Reconciliation
