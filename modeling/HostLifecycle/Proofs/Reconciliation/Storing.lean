import HostLifecycle.Proofs.Record.Storable
import HostLifecycle.Proofs.Reconciliation.Soundness

/-!
Hosts that can be put anew at any time. The record of such a host is stored without loss, and
neither a pass over it nor anything that is done to it between two passes ends this: every
message that is kept on the record is put together of texts that are read back as they were
written.
-/

namespace HostLifecycle

open Attempt

namespace HostRecord

theorem Storable.remember {host after : HostRecord} {kind : CredentialKind}
    {credential : Credential} (h : host.Storable) (hcredential : credential.Storable)
    (hremember : host.remember kind credential = .ok after) : after.Storable := by
  have hwell := h.wellTyped.remember hcredential hremember
  obtain ⟨status, seen, -, -, rfl⟩ := exists_of_remember hremember
  exact h.withStatus hwell

theorem storable_setError (errorType : ErrorType) {message : Text} (hmessage : message.Unsplit) :
    Preserves Storable (setError errorType (.str message)) := by
  intro host h
  obtain ⟨n, hcount⟩ := h.wellTyped.errorCount
  simp only [runOn, setError, ExceptT.run, hcount, increased]
  cases host.offer .setError with
  | error fault => exact h
  | ok _ => exact h.withError errorType hmessage (n + 1)

theorem upheld_storable : Upheld Text.Unsplit Storable where
  remember := Storable.remember
  setError errorType _ hmessage := storable_setError errorType hmessage
  atState state marker h := h.atState state marker

/-- A property of records is kept where it is kept by what replaces them. -/
theorem preserves_replaced {property : HostRecord → Prop}
    {change : HostRecord → Except Fault HostRecord}
    (hchange : ∀ host after, property host → change host = .ok after → property after) :
    Preserves property (replaced change) := by
  intro host h
  rw [runOn_replaced]
  cases hchanged : change host with
  | error fault => exact h
  | ok after => exact hchange host after h hchanged

end HostRecord

namespace RecordStep

open HostRecord

theorem storable_requestDeletion : Preserves Storable requestDeletion.perform := by
  apply preserves_replaced
  intro host after h hafter
  obtain ⟨_, -, hmarked⟩ := exists_of_bind_ok hafter
  cases hmarked
  exact h.atState host.state true

theorem storable_setImage {value : Value}
    (himage : ∀ held, imageGiven value = .ok held → held.IsStorable) :
    Preserves Storable (assign "install_image" value).perform := by
  apply preserves_replaced
  intro host after h hafter
  rw [assigned_image] at hafter
  obtain ⟨image, hheld, rfl⟩ := exists_of_map_ok hafter
  exact h.withImage (himage image hheld)

theorem storable_setError (errorType : Value) {message : Text} (hmessage : message.Unsplit) :
    Preserves Storable (setError errorType (.str message)).perform := by
  refine (preserves_ofExcept (ErrorType.ofValue errorType)).bind fun found => ?_
  exact (HostRecord.storable_setError found hmessage).bind fun _ => preserves_pure _

theorem storable_update (kind : CredentialKind) {credential : Option Credential}
    (hcredential : ∀ found, credential = some found → found.Storable) :
    Preserves Storable (update kind credential).perform := by
  apply preserves_replaced
  intro host after h hafter
  cases credential with
  | none =>
    obtain ⟨_, -, hnone⟩ := exists_of_bind_ok hafter
    cases hnone
  | some found => exact h.remember (hcredential found rfl) hafter

end RecordStep

namespace Reconciliation

open HostRecord

/-- Keys whose names are read back as they were written. -/
def UnsplitKeys (keys : List Value) : Prop := ∀ key, .str key ∈ keys → key.Unsplit

theorem mem_of_missingKeys {data : Value} {keys : List Value} {missing : List Text}
    (h : missingKeys data keys = .ok missing) : ∀ key ∈ missing, .str key ∈ keys := by
  induction keys generalizing missing with
  | nil =>
    cases h
    simp
  | cons first rest ih =>
    rw [missingKeys] at h
    obtain ⟨others, hothers, hlooked⟩ := exists_of_bind_ok h
    obtain ⟨found, -, hmissing⟩ := exists_of_bind_ok hlooked
    have hrest : ∀ key ∈ others, Value.str key ∈ first :: rest := fun key hkey =>
      List.mem_cons_of_mem _ (ih hothers key hkey)
    split at hmissing
    · cases hmissing
      exact hrest
    · split at hmissing
      · cases hmissing
        exact List.forall_mem_cons.mpr ⟨List.mem_cons_self, hrest⟩
      · cases hmissing

theorem mem_of_credentialProblem {keys : List Value} {credential : Credential}
    {missing : List Text}
    (h : credentialProblem keys credential = .ok (some (.missing missing))) :
    ∀ key ∈ missing, .str key ∈ keys := by
  obtain ⟨found, hfound, hproblem⟩ := exists_of_bind_ok h
  cases found with
  | nil =>
    obtain ⟨text, -, hjudged⟩ := exists_of_bind_ok hproblem
    cases haccepts : PublicKey.accepts text <;> simp [haccepts, pure, Except.pure] at hjudged
  | cons first rest =>
    cases hproblem
    exact mem_of_missingKeys hfound

/-- A message about a credential is read back as it was written if the required keys are: the
name of the credential stands between quotes in it. -/
theorem unsplit_problemMessage {keys : List Value} (hkeys : UnsplitKeys keys)
    (kind : CredentialKind) {credential : Credential} {problem : CredentialProblem}
    (hcredential : credential.Storable)
    (hproblem : credentialProblem keys credential = .ok (some problem)) :
    (problemMessage kind credential problem).Unsplit := by
  obtain ⟨name, hname⟩ := hcredential.typed.name
  have hquoted : credential.name.quoted.Plain := by
    rw [hname, Value.quoted]
    exact Text.plain_quoted name
  have hkind : kind.text.Plain := by
    cases kind <;> exact Text.plain_ofString _
  have hstart := ((hkind.append (Text.plain_ofString " ssh credential ")).append hquoted).append
    (Text.plain_ofString " is invalid: ")
  apply hstart.unsplit_append
  cases problem with
  | publicKey => exact Text.unsplit_ofChars _
  | missing names =>
    apply (Text.plain_ofString "missing data keys ").unsplit_append
    apply Text.unsplit_joinWith (Text.plain_ofString ", ") (by simp [Text.ofString, Text.ofChars])
    intro key hkey
    exact hkeys key (mem_of_credentialProblem hproblem key hkey)

theorem Service.speaksUnsplit {service : Service} (hkeys : UnsplitKeys service.requiredKeys) :
    service.SpeaksIn Text.Unsplit :=
  ⟨Text.unsplit_ofChars _, fun kind _ _ => unsplit_problemMessage hkeys kind⟩

/-- A step that a host which can be put anew may take: a pass over it or a part of one, and
whatever is changed between two passes, with behaviours, credentials and messages that leave the
record as it can be stored. -/
inductive Machine.Allows (machine : Machine) : Step → Prop where
  | pass {step : Step} (hpass : step.IsPass) (hanswer : machine.site.AnswersStorable) :
    Allows machine step
  | attempt (part : Part) (next : Option State) (hanswer : machine.site.AnswersStorable) :
    Allows machine (.attempt part next)
  | script (state : State) (behaviours : List Behaviour)
      (hbehaviours : ∀ behaviour ∈ behaviours, behaviour.Upholds Storable) :
    Allows machine (.script state behaviours)
  | offer (change : Offer → Offer) : Allows machine (.offer change)
  | judge (judgement : CredentialKind → Option (Except Fault Outcome)) :
    Allows machine (.judge judgement)
  | require (keys : Value) (hkeys : ∀ parts, keys.parts? = some parts → UnsplitKeys parts) :
    Allows machine (.require keys)
  | validate (kind : Value) (credential : Option Credential)
      (hcredential : ∀ found, credential = some found → found.Storable) :
    Allows machine (.validate kind credential)
  | fail (errorType : Value) (message : Text) (hmessage : message.Unsplit) :
    Allows machine (.fail errorType (.str message))
  | fetch : Allows machine .fetch
  | remember (kind : CredentialKind) (credential : Option Credential)
      (hcredential : ∀ found, credential = some found → found.Storable) :
    Allows machine (.remember kind credential)
  | setVariables (change : Settings.Environment → Settings.Environment) :
    Allows machine (.setVariables change)
  | reload : Allows machine .reload
  | edit (step : RecordStep) (hstep : Preserves Storable step.perform) :
    Allows machine (.edit step)

structure Machine.Stores (machine : Machine) : Prop where
  site : machine.site.Upholds Storable
  keys : UnsplitKeys machine.service.requiredKeys

namespace Pass

theorem upholds_handle (logger : Text) {property : HostRecord → Prop} {pass : Pass}
    (h : pass.site.Upholds property) :
    ((handle logger).runOn pass).2.site.Upholds property := by
  by_cases hnone : pass.start = .none
  · obtain ⟨outcome, journal, -, hrun⟩ := runOn_handle_of_none logger hnone
    rw [hrun]
    exact ⟨h.record, h.actions⟩
  by_cases hends : isCancellable pass.start = true ∧ pass.site.host.isCancelled = true
  · rw [runOn_handle_of_cancelled logger hends.1 hends.2]
    exact h
  · have hkept : isCancellable pass.start = true → pass.site.host.isCancelled = false := by
      simpa using hends
    rw [runOn_handle_of_act logger hnone hkept, runOn_act]
    exact h.acted pass.start

end Pass

namespace Machine

variable {machine : Machine}

theorem preserves_onSite {α : Type} {action : Attempt Site α}
    (haction : Preserves (Site.Upholds Storable) action) : Preserves Stores (onSite action) :=
  fun _ h => ⟨haction _ h.site, h.keys⟩

theorem preserves_validate (kind : Value) {credential : Option Credential}
    (hcredential : ∀ found, credential = some found → found.Storable) :
    Preserves Stores (validate kind credential) := by
  refine (preserves_ofExcept (CredentialKind.ofValue kind)).bind fun kind => ?_
  intro machine h
  have hservice : machine.service.SpeaksIn Text.Unsplit := Service.speaksUnsplit h.keys
  exact preserves_onSite (Site.preserves_validate upheld_storable hservice kind hcredential)
    machine h

theorem preserves_fail (errorType : Value) {message : Text} (hmessage : message.Unsplit) :
    Preserves Stores (fail errorType (.str message)) := by
  refine (preserves_ofExcept (ErrorType.ofValue errorType)).bind fun found => ?_
  exact preserves_onSite (Site.preserves_recordFailure upheld_storable found hmessage)

theorem Stores.attempt (h : machine.Stores) (part : Part) (next : Option State)
    (hanswer : machine.site.AnswersStorable) : ((attempt part next).runOn machine).2.Stores := by
  have hservice : machine.service.SpeaksIn Text.Unsplit := Service.speaksUnsplit h.keys
  refine ⟨?_, h.keys⟩
  let pass : Pass := { Pass.of machine.site with next := next.getD machine.site.host.state }
  have hpass : pass.site.Upholds Storable := h.site
  change ((perform part machine.service _).runOn pass).2.site.Upholds Storable
  cases part with
  | divert =>
    rw [perform, runOn_bind]
    rcases Pass.runOn_divert pass with ⟨-, state, journal, -, hrun⟩ | ⟨-, hrun⟩ <;> rw [hrun]
    · exact ⟨h.site.record, h.site.actions⟩
    · exact hpass
  | checkCredentials =>
    have hlooked := Pass.upholds_checkCredentials upheld_storable hservice
      (machine.logger.getD Part.checkCredentials.logger) hpass hanswer
    rw [perform, runOn_bind]
    generalize (Pass.checkCredentials machine.service _).runOn pass = run at hlooked ⊢
    rcases run with ⟨fault | outcome, behind⟩ <;> exact hlooked
  | handle =>
    have hhandled := Pass.upholds_handle (machine.logger.getD Part.handle.logger) hpass
    rw [perform, runOn_bind]
    generalize (Pass.handle _).runOn pass = run at hhandled ⊢
    rcases run with ⟨fault | outcome, behind⟩ <;> exact hhandled

/-- Whatever step is taken, the host can be put anew behind it. -/
theorem Stores.after {step : Step} (h : machine.Stores) (hallowed : machine.Allows step) :
    (machine.after step).Stores := by
  have hservice : machine.service.SpeaksIn Text.Unsplit := Service.speaksUnsplit h.keys
  cases hallowed with
  | pass hpass hanswer =>
    refine ⟨?_, ?_⟩
    · rw [after_pass_site hpass]
      exact upholds_tick upheld_storable hservice h.site hanswer
    · rw [after_pass_service hpass]
      exact h.keys
  | attempt part next hanswer =>
    have hbehind := h.attempt part next hanswer
    rw [Machine.after, Step.perform, runOn_bind]
    generalize (Machine.attempt part next).runOn machine = run at hbehind ⊢
    rcases run with ⟨fault | attempted, behind⟩ <;> exact hbehind
  | script state behaviours hbehaviours =>
    exact ⟨⟨h.site.record, scripted_script h.site.actions state hbehaviours⟩, h.keys⟩
  | offer change =>
    obtain ⟨source, hafter⟩ := after_offer machine change
    rw [hafter]
    exact ⟨⟨h.site.record, h.site.actions⟩, h.keys⟩
  | judge | setVariables => exact ⟨⟨h.site.record, h.site.actions⟩, h.keys⟩
  | require keys hkeys =>
    rw [Machine.after, Step.perform, require]
    cases hparts : keys.parts? with
    | none => exact h
    | some parts => exact ⟨⟨h.site.record, h.site.actions⟩, hkeys parts hparts⟩
  | validate kind credential hcredential =>
    exact ((preserves_validate kind hcredential).bind fun _ => preserves_pure _) machine h
  | fail errorType message hmessage =>
    exact ((preserves_fail errorType hmessage).bind fun _ => preserves_pure _) machine h
  | fetch =>
    have hfetch : Preserves (Site.Upholds Storable) Site.fetch :=
      fun site hsite => ⟨hsite.record, hsite.actions⟩
    exact ((preserves_onSite hfetch).bind fun _ => preserves_pure _) machine h
  | remember kind credential hcredential =>
    have hremember := Site.preserves_remember upheld_storable kind hcredential
    exact ((preserves_onSite hremember).bind fun _ => preserves_pure _) machine h
  | reload =>
    rcases after_reload machine with ⟨host, hreloaded, hafter⟩ | hafter <;> rw [hafter]
    · have hsame : host = machine.site.host := h.site.record.eq_of_reloaded hreloaded
      exact ⟨⟨hsame ▸ h.site.record, h.site.actions⟩, h.keys⟩
    · exact h
  | edit step hstep =>
    rw [after_edit]
    exact ⟨⟨hstep _ h.site.record, h.site.actions⟩, h.keys⟩

end Machine

end Reconciliation

end HostLifecycle
