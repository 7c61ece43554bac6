import HostLifecycle.Proofs.Audit.Recording
import HostLifecycle.Proofs.Reconciliation.Course
import HostLifecycle.Proofs.Vault.Telling

/-!
Passes over two hosts that differ only in their audit trails. A pass asks its trail nothing: it
only writes messages to the journal and records events. So from trails that are related in a way
which outlives both, the passes come to the same and leave related trails. Of the name of the
host something is known until the action is called, which may change it; behind the action
nothing is recorded any more.
-/

namespace HostLifecycle

open Attempt Audit Logging

/-- Whether an entry tells of a change of the state. Only such an entry names an old state beside
its message. -/
def Logging.LogEntry.tellsChange (entry : LogEntry) : Bool :=
  entry.extras.any fun field => field.1 == "old_state"

/-- A relation between audit trails that outlives what a pass writes to both of them: entries of
the journal that are allowed, among them all that tell of no change, and events about hosts whose
names are known. -/
structure Audit.Carried (trails : Trail → Trail → Prop) (allowed : LogEntry → Prop)
    (known : Value → Prop) : Prop where
  ordinary : ∀ {entry : LogEntry}, entry.tellsChange = false → allowed entry
  told : ∀ {trail trail' : Trail} {entries : List LogEntry}, trails trail trail' →
    (∀ entry ∈ entries, allowed entry) →
      trails (trail.withJournal (trail.around.journal ++ entries))
        (trail'.withJournal (trail'.around.journal ++ entries))
  recorded : ∀ {name : Value} (reason : Text) (message : Value), known name →
    Twin trails (fun _ _ => True)
      (Trail.record name (.str reason) message (.str Trail.warningClass))
      (Trail.record name (.str reason) message (.str Trail.warningClass))

namespace HostRecord

def Named (known : Value → Prop) (host : HostRecord) : Prop := known host.name

variable {known : Value → Prop}

theorem preserves_setError_named (errorType : ErrorType) (message : Value) :
    Preserves (Named known) (setError errorType message) := by
  have hname : Keeps (·.name) (setError errorType message) :=
    keeps_setError (fun _ _ _ _ => rfl) errorType message
  exact hname.preserves fun _ _ hkept h => (congrArg known hkept).mpr h

theorem preserves_update_named (kind : CredentialKind) (credential : Option Credential) :
    Preserves (Named known) (RecordStep.update kind credential).perform := by
  intro host h
  rw [RecordStep.perform, runOn_replaced]
  cases hchange : rememberGiven kind credential host with
  | error fault => exact h
  | ok after =>
    cases credential with
    | none =>
      obtain ⟨_, -, hfault⟩ := exists_of_bind_ok hchange
      cases hfault
    | some credential =>
      obtain ⟨status, seen, -, -, rfl⟩ := exists_of_remember hchange
      exact h

end HostRecord

namespace Reconciliation

/-- A source without the journal that it wrote last, which the next fetch replaces. -/
def Source.unwritten : Source → Source
  | .provider offer => .provider offer
  | .secrets store session => .secrets store { session with journal := [] }

/-- A fetch comes to the same in both of two sources that differ at most in their journals, and
tells the same behind whatever was told before. -/
theorem Source.fetch_beside (environment : Settings.Environment) {source source' : Source}
    (h : source'.unwritten = source.unwritten) (base base' : List LogEntry) :
    ∃ told, (∀ entry ∈ told, entry.extras = []) ∧
      ((fetch environment).runOn ⟨source', base'⟩).1 =
        ((fetch environment).runOn ⟨source, base⟩).1 ∧
      ((fetch environment).runOn ⟨source', base'⟩).2.source.unwritten =
        ((fetch environment).runOn ⟨source, base⟩).2.source.unwritten ∧
      ((fetch environment).runOn ⟨source, base⟩).2.journal = base ++ told ∧
      ((fetch environment).runOn ⟨source', base'⟩).2.journal = base' ++ told := by
  cases source with
  | provider offer =>
    cases source' with
    | secrets => cases h
    | provider offer' =>
      cases h
      refine ⟨[], fun _ h => absurd h List.not_mem_nil, rfl, rfl, ?_, ?_⟩ <;>
        rw [List.append_nil] <;> rfl
  | secrets store session =>
    cases source' with
    | provider => cases h
    | secrets store' session' =>
      obtain ⟨rfl, hsession⟩ := Source.secrets.inj h
      -- both journals are replaced ahead of the fetch, so the sessions agree in all the rest
      have hrest : { session' with journal := base' } = { session with journal := base' } :=
        congrArg (fun found : Vault.Session => { found with journal := base' }) hsession
      have hrun : ∀ (found : Vault.Session) journal,
          (fetch environment).runOn ⟨.secrets store' found, journal⟩ =
            (((store'.fetch environment).runOn { found with journal := journal }).1,
              ⟨.secrets store'
                ((store'.fetch environment).runOn { found with journal := journal }).2,
                ((store'.fetch environment).runOn { found with journal := journal }).2.journal⟩) :=
        fun _ _ => rfl
      obtain ⟨hresult, told, hextras, hjournal, hbehind⟩ :=
        Vault.SecretStore.twin_fetch store' environment _ _
          (Vault.Session.beside_of_journals base base' session)
      rw [hrun, hrun, hrest, hbehind, ← hresult.eq]
      exact ⟨told, hextras, rfl, rfl, hjournal, rfl⟩

namespace Site

/-- Two hosts that differ in nothing but their trails, which are related, and in the journals of
their sources. Of their name something is known. -/
def Abreast (trails : Trail → Trail → Prop) (known : Value → Prop) (site site' : Site) : Prop :=
  site.host.Named known ∧ ∃ trail source, trails site.trail trail ∧
    source.unwritten = site.source.unwritten ∧
    site' = { site with trail := trail, source := source }

variable {trails : Trail → Trail → Prop} {known : Value → Prop} {allowed : LogEntry → Prop}
  {α : Type}

theorem Abreast.unnamed {site site' : Site} (h : Abreast trails known site site') :
    Abreast trails (fun _ => True) site site' :=
  ⟨trivial, h.2⟩

theorem Abreast.host_eq {site site' : Site} (h : Abreast trails known site site') :
    site'.host = site.host := by
  obtain ⟨-, trail, source, -, -, rfl⟩ := h
  rfl

/-- What is done to the record is done to both. -/
theorem abreast_onHost (action : Attempt HostRecord α)
    (haction : Preserves (HostRecord.Named known) action) :
    Twin (Abreast trails known) Eq (onHost action) (onHost action) := by
  rintro site _ ⟨hknown, trail, source, htrail, hsource, rfl⟩
  exact ⟨paired_eq _, haction site.host hknown, trail, source, htrail, hsource, rfl⟩

theorem abreast_onTrail {results : α → α → Prop} {action : Attempt Trail α}
    (haction : Twin trails results action action) :
    Twin (Abreast trails known) results (onTrail action) (onTrail action) := by
  rintro site _ ⟨hknown, trail, source, htrail, hsource, rfl⟩
  obtain ⟨hresult, hbehind⟩ := haction _ _ htrail
  exact ⟨hresult, hknown, _, source, hbehind, hsource, rfl⟩

section

variable (hcarried : Carried trails allowed known)
include hcarried

theorem abreast_log_of_allowed {named : Value → Prop} {logger : Text} {severity : Severity}
    {extras : Fields Value} (message : Text)
    (hallowed : ∀ message, allowed ⟨logger, severity, message, extras⟩) :
    Twin (Abreast trails named) Eq (log logger severity message extras)
      (log logger severity message extras) := by
  apply twin_get_bind
  rintro site _ ⟨-, trail, source, -, -, rfl⟩
  apply abreast_onTrail
  intro trail trail' htrail
  refine ⟨.ok rfl, hcarried.told htrail ?_⟩
  intro entry hentry
  rw [List.mem_singleton.mp hentry]
  exact hallowed _

/-- A message that tells of no change. -/
theorem abreast_log (logger : Text) (severity : Severity) (message : Text) {extras : Fields Value}
    (hextras : ∀ message, (LogEntry.mk logger severity message extras).tellsChange = false) :
    Twin (Abreast trails known) Eq (log logger severity message extras)
      (log logger severity message extras) :=
  abreast_log_of_allowed hcarried message fun message => hcarried.ordinary (hextras message)

theorem abreast_warn (reason : Text) (message : Value) :
    Twin (Abreast trails known) Eq (warn reason message) (warn reason message) := by
  apply twin_get_bind
  rintro site _ ⟨hknown, trail, source, -, -, rfl⟩
  exact (abreast_onTrail (hcarried.recorded reason message hknown)).bind fun _ _ _ => twin_pure rfl

theorem abreast_recordFailure (errorType : ErrorType) (message : Value) :
    Twin (Abreast trails known) Eq (recordFailure errorType message)
      (recordFailure errorType message) := by
  apply (abreast_onHost _ (HostRecord.preserves_setError_named errorType message)).then
  intro _
  apply (abreast_warn hcarried errorType.reason message).then
  intro _
  apply twin_get_bind
  rintro site _ ⟨-, trail, source, -, -, rfl⟩
  exact (abreast_log hcarried _ _ _ fun _ => rfl).then fun _ => twin_pure rfl

theorem abreast_refuseRotation :
    Twin (Abreast trails known) Eq refuseRotation refuseRotation :=
  (abreast_warn hcarried _ _).then fun _ => abreast_recordFailure hcarried _ _

theorem abreast_validate (service : Service) (kind : CredentialKind)
    (credential : Option Credential) :
    Twin (Abreast trails known) Eq (validate service kind credential)
      (validate service kind credential) := by
  unfold validate
  split
  · exact twin_ofExcept (paired_eq _)
  · apply (twin_ofExcept (paired_eq _)).then
    intro problem
    cases problem with
    | none => exact twin_pure rfl
    | some problem =>
      exact (abreast_warn hcarried _ _).then fun _ => abreast_recordFailure hcarried _ _
  · exact twin_fail _

theorem abreast_remember (kind : CredentialKind) (credential : Option Credential) :
    Twin (Abreast trails known) Eq (remember kind credential) (remember kind credential) :=
  (abreast_onHost _ (HostRecord.preserves_update_named kind credential)).then fun _ =>
    abreast_log hcarried _ _ _ fun _ => rfl

theorem abreast_renew (service : Service) (kind : CredentialKind) (credential : Credential) :
    Twin (Abreast trails known) Eq (renew service kind credential)
      (renew service kind credential) := by
  apply (abreast_remember hcarried kind (some credential)).caught.bind
  intro result result' hresult
  obtain rfl := hresult.eq
  split
  · exact abreast_validate hcarried service kind (some credential)
  · exact twin_pure rfl

/-- A fetch comes to the same in both, and tells the same. -/
theorem abreast_fetch : Twin (Abreast trails known) Eq fetch fetch := by
  rintro site _ ⟨hknown, trail, source, htrail, hsource, rfl⟩
  obtain ⟨told, hextras, hresult, hbehind, hjournal, hjournal'⟩ :=
    Source.fetch_beside site.environment hsource site.journal trail.around.journal
  have htold : ∀ entry ∈ told, allowed entry := fun entry hentry =>
    hcarried.ordinary (by rw [LogEntry.tellsChange, hextras entry hentry]; rfl)
  have hcarry := hcarried.told htrail htold
  have hrun : ∀ found : Site, fetch.runOn found =
      (((Source.fetch found.environment).runOn found.access).1,
        takeBack ((Source.fetch found.environment).runOn found.access).2
          { found with fetches := found.fetches + 1 }) := fun _ => rfl
  rw [hrun, hrun]
  refine ⟨?_, hknown, _, _, ?_, hbehind, rfl⟩
  · change Paired Eq ((Source.fetch site.environment).runOn ⟨site.source, site.journal⟩).1
      ((Source.fetch site.environment).runOn ⟨source, trail.around.journal⟩).1
    rw [hresult]
    exact paired_eq _
  · change trails (site.trail.withJournal
        ((Source.fetch site.environment).runOn ⟨site.source, site.journal⟩).2.journal)
      (trail.withJournal
        ((Source.fetch site.environment).runOn ⟨source, trail.around.journal⟩).2.journal)
    rw [hjournal, hjournal']
    exact hcarry

end

/-- An action comes to the same in both. It may rename the host. -/
theorem abreast_act (state : State) {site site' : Site} (h : Abreast trails known site site') :
    Matched (Abreast trails fun _ => True) Eq ((act state).runOn site)
      ((act state).runOn site') := by
  obtain ⟨-, trail, source, htrail, hsource, rfl⟩ := h
  rw [runOn_act, runOn_act]
  exact ⟨paired_eq _, trivial, trail, source, htrail, hsource, rfl⟩

end Site

namespace Pass

/-- Two passes over hosts that are abreast, in which the same was decided. -/
def Abreast (trails : Trail → Trail → Prop) (known : Value → Prop) (pass pass' : Pass) : Prop :=
  ∃ site, Site.Abreast trails known pass.site site ∧ pass' = { pass with site := site }

variable {trails : Trail → Trail → Prop} {known : Value → Prop} {allowed : LogEntry → Prop}
  {α : Type}

theorem Abreast.unnamed {pass pass' : Pass} (h : Abreast trails known pass pass') :
    Abreast trails (fun _ => True) pass pass' := by
  obtain ⟨site, hsite, rfl⟩ := h
  exact ⟨site, hsite.unnamed, rfl⟩

theorem Abreast.host_eq {pass pass' : Pass} (h : Abreast trails known pass pass') :
    pass'.site.host = pass.site.host := by
  obtain ⟨_, hsite, rfl⟩ := h
  exact hsite.host_eq

theorem abreast_of {site site' : Site} (h : Site.Abreast trails known site site') :
    Abreast trails known (Pass.of site) (Pass.of site') := by
  refine ⟨site', h, ?_⟩
  obtain ⟨-, trail, source, -, -, rfl⟩ := h
  rfl

theorem abreast_onSite {action : Attempt Site α}
    (haction : Twin (Site.Abreast trails known) Eq action action) :
    Twin (Abreast trails known) Eq (onSite action) (onSite action) := by
  rintro pass _ ⟨site, hsite, rfl⟩
  obtain ⟨hresult, hbehind⟩ := haction _ _ hsite
  exact ⟨hresult, _, hbehind, rfl⟩

theorem abreast_moveTo (state : State) :
    Twin (Abreast trails known) Eq (moveTo state) (moveTo state) := by
  rintro pass _ ⟨site, hsite, rfl⟩
  exact ⟨.ok rfl, site, hsite, rfl⟩

section

variable (hcarried : Carried trails allowed known)
include hcarried

theorem abreast_log (logger : Text) (severity : Severity) (message : Text) {extras : Fields Value}
    (hextras : ∀ message, (LogEntry.mk logger severity message extras).tellsChange = false) :
    Twin (Abreast trails known) Eq (log logger severity message extras)
      (log logger severity message extras) :=
  abreast_onSite (Site.abreast_log hcarried logger severity message hextras)

theorem abreast_redirect (logger : Text) (kind : CredentialKind) (seen : SecretStatus)
    (state : State) :
    Twin (Abreast trails known) Eq (redirect logger kind seen state)
      (redirect logger kind seen state) := by
  apply twin_get_bind
  intro pass pass' h
  have hhost := h.host_eq
  obtain ⟨site, -, rfl⟩ := h
  rw [hostAt, hostAt, hhost]
  apply (abreast_log hcarried _ _ _ fun _ => ?_).then
  · exact fun _ => abreast_moveTo state
  · cases kind <;> rfl

theorem abreast_handleRotation (service : Service) (logger : Text) (kind : CredentialKind)
    (seen : SecretStatus) (credential : Credential) :
    Twin (Abreast trails known) Eq (handleRotation service logger kind seen credential)
      (handleRotation service logger kind seen credential) := by
  apply twin_get_bind
  rintro pass _ ⟨site, -, rfl⟩
  simp only
  cases reaction kind pass.next with
  | accept => exact abreast_onSite (Site.abreast_renew hcarried service kind credential)
  | redirect state =>
    apply (abreast_redirect hcarried logger kind seen state).then
    exact fun _ => abreast_onSite (Site.abreast_renew hcarried service kind credential)
  | refuse => exact abreast_onSite (Site.abreast_refuseRotation hcarried)

theorem abreast_checkCredential (service : Service) (logger : Text) (kind : CredentialKind)
    (credential : Credential) :
    Twin (Abreast trails known) Eq (checkCredential service logger kind credential)
      (checkCredential service logger kind credential) := by
  apply twin_get_bind
  intro pass pass' h
  rw [h.host_eq]
  apply (twin_ofExcept (paired_eq _)).then
  intro seen
  cases seen with
  | none => exact abreast_onSite (Site.abreast_renew hcarried service kind credential)
  | some seen =>
    apply (twin_ofExcept (paired_eq _)).then
    intro agrees
    split
    · exact abreast_onSite (Site.abreast_validate hcarried service kind (some credential))
    · exact abreast_handleRotation hcarried service logger kind seen credential

theorem abreast_checkFetched (service : Service) (logger : Text) (kind : CredentialKind)
    (fetched : Option Credential) :
    Twin (Abreast trails known) Eq (checkFetched service logger kind fetched)
      (checkFetched service logger kind fetched) := by
  cases fetched with
  | none => exact twin_pure rfl
  | some credential => exact abreast_checkCredential hcarried service logger kind credential

theorem abreast_checkBoth (service : Service) (logger : Text)
    (fetched : Option Credential × Option Credential) :
    Twin (Abreast trails known) Eq (checkBoth service logger fetched)
      (checkBoth service logger fetched) := by
  apply (abreast_checkFetched hcarried service logger .os fetched.1).then
  intro outcome
  split
  · exact abreast_checkFetched hcarried service logger .rescue fetched.2
  · exact twin_pure rfl

theorem abreast_checkCredentials (service : Service) (logger : Text) :
    Twin (Abreast trails known) Eq (checkCredentials service logger)
      (checkCredentials service logger) := by
  apply twin_get_bind
  intro pass pass' h
  rw [h.host_eq]
  split
  · exact twin_pure rfl
  · apply (abreast_onSite (Site.abreast_fetch hcarried)).caught.bind
    intro fetched fetched' hfetched
    obtain rfl := hfetched.eq
    split
    · exact abreast_checkBoth hcarried service logger _
    · exact twin_pure rfl

theorem abreast_divertTo (state : State) :
    Twin (Abreast trails known) Eq (divertTo state) (divertTo state) := by
  apply (abreast_moveTo state).then
  intro _
  apply twin_get_bind
  rintro pass _ ⟨site, -, rfl⟩
  exact abreast_log hcarried _ _ _ fun _ => rfl

theorem abreast_divert : Twin (Abreast trails known) Eq divert divert := by
  apply twin_get_bind
  rintro pass _ ⟨site, hsite, rfl⟩
  simp only [hsite.host_eq]
  split
  · cases diversion? pass.next with
    | none => exact twin_pure rfl
    | some state => exact (abreast_divertTo hcarried state).then fun _ => twin_pure rfl
  · exact twin_pure rfl

theorem abreast_reportDeletion (logger : Text) :
    Twin (Abreast trails known) Eq (reportDeletion logger) (reportDeletion logger) := by
  apply twin_get_bind
  intro pass pass' h
  have hhost := h.host_eq
  obtain ⟨site, -, rfl⟩ := h
  rw [hostAt, hostAt, hhost]
  exact (abreast_log hcarried _ _ _ fun _ => rfl).then fun _ => twin_pure rfl

theorem abreast_reportUnhandled (logger : Text) :
    Twin (Abreast trails known) Eq (reportUnhandled logger) (reportUnhandled logger) := by
  apply twin_get_bind
  intro pass pass' h
  have hhost := h.host_eq
  obtain ⟨site, -, rfl⟩ := h
  rw [hostAt, hostAt, hhost]
  exact (abreast_log hcarried _ _ _ fun _ => rfl).then fun _ => twin_pure rfl

omit hcarried

theorem abreast_act {pass pass' : Pass} (h : Abreast trails known pass pass') :
    Matched (Abreast trails fun _ => True) Eq (act.runOn pass) (act.runOn pass') := by
  obtain ⟨site, hsite, rfl⟩ := h
  obtain ⟨-, hbehind⟩ := Site.abreast_act pass.start hsite
  obtain ⟨-, trail, source, -, -, rfl⟩ := hsite
  rw [Site.runOn_act, Site.runOn_act] at hbehind
  rw [runOn_act, runOn_act]
  exact ⟨paired_eq _, _, hbehind, rfl⟩

include hcarried

theorem abreast_handle (logger : Text) {pass pass' : Pass}
    (h : Abreast trails known pass pass') :
    Matched (Abreast trails fun _ => True) Eq ((handle logger).runOn pass)
      ((handle logger).runOn pass') := by
  have hunhandled := abreast_reportUnhandled hcarried logger _ _ h
  have hact := abreast_act h
  have hcancelled : Matched (Abreast trails known) Eq
      ((do moveTo .deprovisioning; pure Outcome.complete : Attempt Pass Outcome).runOn pass)
      ((do moveTo .deprovisioning; pure Outcome.complete : Attempt Pass Outcome).runOn pass') :=
    (abreast_moveTo .deprovisioning _ _ h).bind fun _ _ _ => twin_pure rfl
  obtain ⟨site, hsite, rfl⟩ := h
  rw [handle, runOn_bind, runOn_bind, runOn_get, runOn_get]
  simp only [hsite.host_eq]
  split
  · exact hunhandled.weaken fun _ _ => Abreast.unnamed
  · split
    · exact hcancelled.weaken fun _ _ => Abreast.unnamed
    · exact hact

/-- Two passes that are abreast decide the same. -/
theorem abreast_decide (service : Service) (logger : Text) {pass pass' : Pass}
    (h : Abreast trails known pass pass') :
    Matched (Abreast trails fun _ => True) Eq ((decide service logger).runOn pass)
      ((decide service logger).runOn pass') := by
  apply (abreast_divert hcarried _ _ h).bind_weaker fun _ _ => Abreast.unnamed
  rintro isDiverted _ rfl found found' hfound
  split
  · exact (abreast_reportDeletion hcarried logger _ _ hfound).weaken fun _ _ => Abreast.unnamed
  · apply (abreast_checkCredentials hcarried service logger _ _ hfound).bind_weaker
      fun _ _ => Abreast.unnamed
    rintro outcome _ rfl checked checked' hchecked
    split
    · exact abreast_handle hcarried logger hchecked
    · exact ⟨.ok rfl, hchecked.unnamed⟩

end

end Pass

end Reconciliation

end HostLifecycle
