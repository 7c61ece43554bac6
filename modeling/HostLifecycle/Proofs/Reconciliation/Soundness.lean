import HostLifecycle.Proofs.Reconciliation.Run

/-!
What a pass upholds of a record. Of a pass only its looks at the credentials and its actions
write to the record: what is remembered of a credential is well formed if the credential is, and
a terminal failure is kept as a class, a message and a number. So a property of records holds
behind a pass if it outlives these writes. Such a property is that the fields hold what they are
meant for, and passes leave a sound host sound.
-/

namespace HostLifecycle

open Attempt

namespace Credential

/-- A credential under a text, whose data has different texts for its keys, if it is a mapping
at all. -/
structure Typed (credential : Credential) : Prop where
  name : ∃ text, credential.name = .str text
  keys : ∀ fields, credential.data = .object fields → (Fields.names fields).Nodup
  texts : ∀ entries, credential.data ≠ .mapping entries

/-- A credential whose name and keys are read back as they were written. -/
structure Unsplit (credential : Credential) : Prop where
  name : credential.name.Unsplit
  keys : ∀ fields, credential.data = .object fields → ∀ key ∈ Fields.names fields, key.Unsplit

structure Storable (credential : Credential) : Prop where
  typed : credential.Typed
  unsplit : credential.Unsplit

end Credential

theorem unsplit_digests {fields : Fields Value} {digested : Fields Text}
    (h : digests fields = .ok digested) : ∀ entry ∈ digested, entry.2.Unsplit := by
  induction fields generalizing digested with
  | nil =>
    cases h
    exact nofun
  | cons field rest ih =>
    obtain ⟨key, value⟩ := field
    cases value with
    | str text =>
      simp only [digests] at h
      cases htext : Digest.ofText? text with
      | none => simp [htext] at h
      | some digest =>
        cases hrest : digests rest with
        | error fault => simp [htext, hrest, Except.map] at h
        | ok others =>
          simp only [htext, hrest, Except.map, Except.ok.injEq] at h
          rw [← h]
          intro entry hmember
          rcases List.mem_cons.mp hmember with rfl | hother
          · exact Text.unsplit_ofChars _
          · exact ih hrest entry hother
    | _ => simp [digests] at h

/-- What is remembered of a credential can be stored if the credential can. -/
theorem SecretStatus.storable_of_ofCredential {credential : Credential} {seen : SecretStatus}
    (h : credential.Storable) (hseen : ofCredential credential = .ok seen) :
    seen.Storable := by
  obtain ⟨name, hname⟩ := h.typed.name
  have hunsplit := h.unsplit.name
  rw [hname, Value.unsplit_str] at hunsplit
  unfold ofCredential at hseen
  split at hseen
  next htruthy =>
    obtain ⟨found, hmark, hstatus⟩ := exists_of_bind_ok hseen
    cases hstatus
    cases hdata : credential.data with
    | object fields =>
      rw [Credential.mark_of_object hdata] at hmark
      obtain ⟨prints, hprints, rfl⟩ := exists_of_map_ok hmark
      have hnames : prints.names = (Fields.sorted fields).names := keys_digests hprints
      have hnodup : prints.names.Nodup :=
        hnames ▸ Fields.nodup_names_sorted (h.typed.keys fields hdata)
      rw [hname]
      refine storable_of_prints hunsplit hnodup fun entry hmember => ?_
      have hname : entry.1 ∈ (Fields.sorted fields).names :=
        hnames ▸ List.mem_map_of_mem hmember
      have hkey : entry.1 ∈ Fields.names fields :=
        ((Fields.sorted_perm fields).map Prod.fst).mem_iff.mp hname
      exact ⟨h.unsplit.keys fields hdata entry.1 hkey, unsplit_digests hprints entry hmember⟩
    | mapping entries => exact absurd hdata (h.typed.texts entries)
    | _ =>
      rw [Credential.mark, Credential.fingerprint, hdata] at hmark
      cases hmark
  next => cases hseen

namespace HostRecord

theorem WellTyped.remember {kind : CredentialKind} {credential : Credential}
    {host after : HostRecord} (h : host.WellTyped) (hcredential : credential.Storable)
    (hremember : host.remember kind credential = .ok after) : after.WellTyped := by
  obtain ⟨status, seen, hstatus, hseen, rfl⟩ := exists_of_remember hremember
  have hnew := SecretStatus.storable_of_ofCredential hcredential hseen
  obtain ⟨before, hbefore, hold⟩ := h.sshStatus
  have hsame : before = status := by
    simpa [credentialStatus, hbefore] using hstatus
  subst hsame
  refine ⟨h.name, h.installImage, ⟨_, rfl, ?_⟩, h.errorType, h.errorMessage, h.errorCount⟩
  intro other found hfound
  cases kind <;> cases other
  · cases hfound
    exact hnew
  · exact hold .rescue found hfound
  · exact hold .os found hfound
  · cases hfound
    exact hnew

/-- A terminal error is kept as a class, a text and a number. -/
theorem preserves_setError (errorType : ErrorType) (message : Text) :
    Preserves WellTyped (setError errorType (.str message)) := by
  intro host h
  obtain ⟨n, hcount⟩ := h.errorCount
  simp only [runOn, setError, ExceptT.run, hcount, increased]
  cases host.offer .setError with
  | error fault => exact h
  | ok _ =>
    exact ⟨h.name, h.installImage, h.sshStatus, Or.inr ⟨errorType, rfl⟩, ⟨message, rfl⟩,
      ⟨n + 1, rfl⟩⟩

/-- A property of records that outlives what a pass writes: what is remembered of credentials
that are well formed, terminal errors whose messages are among the given ones, and the state
and the marker. -/
structure Upheld (words : Text → Prop) (property : HostRecord → Prop) : Prop where
  remember : ∀ {host after : HostRecord} {kind : CredentialKind} {credential : Credential},
    property host → credential.Storable → host.remember kind credential = .ok after →
      property after
  setError : ∀ (errorType : ErrorType) {message : Text}, words message →
    Preserves property (setError errorType (.str message))
  atState : ∀ {host : HostRecord} (state : State) (marker : Bool), property host →
    property { host with state := state, deletionRequested := marker }

theorem upheld_wellTyped : Upheld (fun _ => True) WellTyped where
  remember := WellTyped.remember
  setError errorType message _ := preserves_setError errorType message
  atState state marker h := h.atState state marker

end HostRecord

namespace Reconciliation

open HostRecord

def Behaviour.Upholds (property : HostRecord → Prop) (behaviour : Behaviour) : Prop :=
  ∀ host, property host → property (behaviour.left host)

structure Site.Upholds (property : HostRecord → Prop) (site : Site) : Prop where
  record : property site.host
  actions : site.Scripted (Behaviour.Upholds property)

/-- The messages with which a pass over the host turns a credential down are among the given
ones. -/
structure Service.SpeaksIn (words : Text → Prop) (service : Service) : Prop where
  refusal : words refusalMessage
  rejection : ∀ (kind : CredentialKind) {credential : Credential} {problem : CredentialProblem},
    credential.Storable →
    credentialProblem service.requiredKeys credential = .ok (some problem) →
      words (problemMessage kind credential problem)

variable {words : Text → Prop} {property : HostRecord → Prop}

namespace Site

theorem Upholds.of_host_eq {site after : Site} (h : site.Upholds property)
    (hhost : after.host = site.host) (hactions : after.actions = site.actions) :
    after.Upholds property := by
  refine ⟨hhost ▸ h.record, ?_⟩
  rw [Scripted, hactions]
  exact h.actions

/-- An action that is called upholds what the actions of the host uphold. -/
theorem Upholds.acted {site : Site} (h : site.Upholds property) (state : State) :
    (site.acted state).Upholds property := by
  have hidle : Behaviour.Upholds property .idle := fun _ hhost => hhost
  exact ⟨h.actions.due hidle state site.host h.record, h.actions.acted state⟩

theorem Sound.upholds {site : Site} (h : site.Sound) : site.Upholds WellTyped := by
  refine ⟨h.record, ?_⟩
  intro state behaviour hmember host hhost
  rw [h.actions state behaviour hmember host]
  exact hhost

/-- A message and an event reach neither the record nor the actions. -/
theorem preserves_of_keeps {α : Type} {action : Attempt Site α}
    (haction : Keeps (fun site => (site.host, site.actions)) action) :
    Preserves (Upholds property) action :=
  haction.preserves fun _ _ hview h =>
    h.of_host_eq (congrArg Prod.fst hview) (congrArg Prod.snd hview)

theorem preserves_onTrail {α : Type} (action : Attempt Audit.Trail α) :
    Preserves (Upholds property) (onTrail action) :=
  preserves_of_keeps (keeps_within action fun _ _ => rfl)

theorem preserves_log (logger : Text) (severity : Logging.Severity) (message : Text)
    (extras : Fields Value) : Preserves (Upholds property) (log logger severity message extras) :=
  (preserves_of_keeps keeps_get).bind fun _ => preserves_onTrail _

theorem preserves_warn (reason : Text) (message : Value) :
    Preserves (Upholds property) (warn reason message) :=
  (preserves_of_keeps keeps_get).bind fun _ =>
    (preserves_onTrail _).bind fun _ => preserves_of_keeps (keeps_pure ())

section

variable (hupheld : Upheld words property)
include hupheld

theorem preserves_recordFailure (errorType : ErrorType) {message : Text}
    (hmessage : words message) :
    Preserves (Upholds property) (recordFailure errorType (.str message)) := by
  have herror : Preserves (Upholds property)
      (onHost (HostRecord.setError errorType (.str message))) := by
    intro site h
    exact ⟨hupheld.setError errorType hmessage site.host h.record, h.actions⟩
  exact herror.bind fun _ => (preserves_warn _ _).bind fun _ =>
    (preserves_of_keeps keeps_get).bind fun _ => (preserves_log _ _ _ _).bind fun _ =>
      preserves_of_keeps (keeps_pure _)

theorem preserves_remember (kind : CredentialKind) {credential : Option Credential}
    (hcredential : ∀ found, credential = some found → found.Storable) :
    Preserves (Upholds property) (remember kind credential) := by
  have hrecord : Preserves (Upholds property)
      (onHost (RecordStep.update kind credential).perform) := by
    intro site h
    refine ⟨?_, h.actions⟩
    change property ((replaced (rememberGiven kind credential)).runOn site.host).2
    rw [runOn_replaced]
    cases hgiven : rememberGiven kind credential site.host with
    | error fault => exact h.record
    | ok after =>
      cases credential with
      | none =>
        obtain ⟨_, -, hnone⟩ := exists_of_bind_ok hgiven
        cases hnone
      | some found => exact hupheld.remember h.record (hcredential found rfl) hgiven
  exact hrecord.bind fun _ => preserves_log _ _ _ _

variable {service : Service} (hservice : service.SpeaksIn words)
include hservice

theorem preserves_refuseRotation : Preserves (Upholds property) refuseRotation :=
  (preserves_warn _ _).bind fun _ => preserves_recordFailure hupheld _ hservice.refusal

theorem preserves_validate (kind : CredentialKind) {credential : Option Credential}
    (hcredential : ∀ found, credential = some found → found.Storable) :
    Preserves (Upholds property) (validate service kind credential) := by
  unfold validate
  split
  · exact preserves_of_keeps (keeps_ofExcept _)
  next credential _ =>
    intro site h
    cases hproblem : credentialProblem service.requiredKeys credential with
    | error fault =>
      rw [inspect, hproblem]
      exact h
    | ok problem =>
      rw [inspect, hproblem]
      cases problem with
      | none => exact h
      | some problem =>
        have hmessage := hservice.rejection kind (hcredential credential rfl) hproblem
        exact ((preserves_warn _ _).bind fun _ =>
          preserves_recordFailure hupheld _ hmessage) site h
  · exact preserves_of_keeps (keeps_fail _)

theorem preserves_renew (kind : CredentialKind) {credential : Credential}
    (hcredential : credential.Storable) :
    Preserves (Upholds property) (renew service kind credential) := by
  intro site h
  have hfound : ∀ found, some credential = some found → found.Storable := by
    intro found hsame
    cases hsame
    exact hcredential
  rcases runOn_renew service kind credential site with
    ⟨host, hremember, journal, hrun⟩ | ⟨result, -, -, hrun⟩
  · rw [hrun]
    refine preserves_validate hupheld hservice kind hfound _ ⟨?_, h.actions⟩
    exact hupheld.remember h.record hcredential hremember
  · rw [hrun]
    exact h

end

end Site

/-- What the source answers a pass is credentials of which what is remembered is read back as it
was written, null, or a fault. -/
def Site.AnswersStorable (site : Site) : Prop :=
  ∀ os rescue, site.answer = .ok (os, rescue) →
    (∀ credential, os = some credential → credential.Storable) ∧
    (∀ credential, rescue = some credential → credential.Storable)

namespace Pass

variable {service : Service} {pass : Pass}

section

variable (hupheld : Upheld words property) (hservice : service.SpeaksIn words) (logger : Text)
include hupheld hservice

theorem Compared.upholds {kind : CredentialKind} {credential : Credential}
    {run : Except Fault Outcome × Pass} (h : Compared service kind credential pass run)
    (hsite : pass.site.Upholds property) (hcredential : credential.Storable) :
    run.2.site.Upholds property := by
  cases h with
  | unreadable | incomparable => exact hsite
  | unseen | accepted =>
    exact Site.preserves_renew hupheld hservice kind hcredential _ hsite
  | redirected =>
    exact Site.preserves_renew hupheld hservice kind hcredential _ ⟨hsite.record, hsite.actions⟩
  | same =>
    refine Site.preserves_validate hupheld hservice kind ?_ _ hsite
    intro found hsame
    cases hsame
    exact hcredential
  | refused => exact Site.preserves_refuseRotation hupheld hservice _ hsite

theorem upholds_checkFetched {kind : CredentialKind} {fetched : Option Credential}
    (hsite : pass.site.Upholds property)
    (hfetched : ∀ credential, fetched = some credential → credential.Storable) :
    ((checkFetched service logger kind fetched).runOn pass).2.site.Upholds property := by
  cases fetched with
  | none => exact hsite
  | some credential =>
    exact (compared_checkCredential service logger kind credential pass).upholds hupheld hservice
      hsite (hfetched credential rfl)

theorem upholds_checkBoth {fetched : Option Credential × Option Credential}
    (hsite : pass.site.Upholds property)
    (hos : ∀ credential, fetched.1 = some credential → credential.Storable)
    (hrescue : ∀ credential, fetched.2 = some credential → credential.Storable) :
    ((checkBoth service logger fetched).runOn pass).2.site.Upholds property := by
  have hbehind : (behindOs service logger fetched pass).2.site.Upholds property :=
    upholds_checkFetched hupheld hservice logger hsite hos
  rw [runOn_checkBoth]
  split
  · exact upholds_checkFetched hupheld hservice logger hbehind hrescue
  · exact hbehind

/-- The look at the credentials upholds what the record has if what it looks at is well
formed. -/
theorem upholds_checkCredentials (hsite : pass.site.Upholds property)
    (hanswer : pass.site.AnswersStorable) :
    ((checkCredentials service logger).runOn pass).2.site.Upholds property := by
  by_cases hstate : pass.site.host.state = .deprovisioning
  · rw [runOn_checkCredentials_of_deprovisioning service logger pass hstate]
    exact hsite
  have hfetch : pass.behindFetch.site.Upholds property := ⟨hsite.record, hsite.actions⟩
  cases hanswered : pass.site.answer with
  | error fault =>
    obtain ⟨result, -, hrun⟩ :=
      runOn_checkCredentials_of_fault service logger pass hstate hanswered
    rw [hrun]
    exact hfetch
  | ok fetched =>
    obtain ⟨hos, hrescue⟩ := hanswer fetched.1 fetched.2 hanswered
    rw [runOn_checkCredentials_of_answer service logger pass hstate hanswered]
    exact upholds_checkBoth hupheld hservice logger hfetch hos hrescue

end

theorem upholds_settled (hupheld : Upheld words property) (hsite : pass.site.Upholds property)
    (journal : List Logging.LogEntry) : (pass.settled journal).Upholds property :=
  ⟨hupheld.atState _ pass.site.host.deletionRequested hsite.record, hsite.actions⟩

end Pass

namespace Machine

variable {machine : Machine}

/-- A pass upholds what outlives its writes. -/
theorem upholds_tick (hupheld : Upheld words property) (hservice : machine.service.SpeaksIn words)
    (hsite : machine.site.Upholds property) (hanswer : machine.site.AnswersStorable) :
    (tick.runOn machine).2.site.Upholds property := by
  obtain ⟨run, journal, -, hcourse, htick⟩ := exists_tick machine
  rw [htick]
  apply Pass.upholds_settled hupheld
  apply hcourse.holds (Site.Upholds property) hsite
  · exact fun found journal hfound => ⟨hfound.record, hfound.actions⟩
  · intro _ _
    have hstart : (Pass.of machine.site).site.Upholds property := hsite
    exact Pass.upholds_checkCredentials hupheld hservice machine.passName hstart hanswer
  · exact fun found _ hfound => hfound.acted _

/-- A pass leaves a sound host sound. -/
theorem sound_tick (hsound : machine.site.Sound) (hanswer : machine.site.AnswersStorable) :
    (tick.runOn machine).2.site.Sound := by
  have hservice : machine.service.SpeaksIn fun _ => True := ⟨trivial, fun _ _ _ _ _ => trivial⟩
  have hupholds := upholds_tick upheld_wellTyped hservice hsound.upholds hanswer
  have hactions := scripted_pass hsound.actions Step.IsPass.tick
  rw [after_tick] at hactions
  exact ⟨hupholds.record, hactions⟩

end Machine

end Reconciliation

end HostLifecycle
