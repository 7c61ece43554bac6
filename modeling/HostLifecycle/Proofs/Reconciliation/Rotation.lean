import HostLifecycle.Proofs.Credential.Fingerprint
import HostLifecycle.Proofs.Reconciliation.Standing

/-!
What a look at the credentials does to a pass. For each kind the look decides where the
host goes from whether a rotation is found and from nothing else, it remembers only that
kind, and it lets the pass go on only with a credential that is accepted and recognized.
-/

namespace HostLifecycle

open Attempt

variable {ν : Type}

namespace HostRecord

def Recognizes (kind : CredentialKind) (credential : Credential) (host : HostRecord) : Prop :=
  ∃ seen, host.remembered kind = .ok (some seen) ∧ seen.agrees credential = .ok true

/-- Whether a credential is found to differ from the one that is remembered. Nothing is
found of a credential that is missing, was not seen before or cannot be compared. -/
def findsRotated (kind : CredentialKind) (credential : Option Credential)
    (host : HostRecord) : Bool :=
  match credential, host.remembered kind with
  | some credential, .ok (some seen) =>
    match seen.agrees credential with
    | .ok agrees => !agrees
    | .error _ => false
  | _, _ => false

theorem recognizes_of_remember {kind : CredentialKind} {credential : Credential}
    {host after : HostRecord} (hsound : credential.Recognizable)
    (h : host.remember kind credential = .ok after) : after.Recognizes kind credential := by
  obtain ⟨seen, hseen, hremembered⟩ := remembered_of_remember h
  exact ⟨seen, hremembered, SecretStatus.agrees_of_ofCredential hsound hseen⟩

end HostRecord

namespace Reconciliation

/-- A provider lets a credential pass: by its own judgement of the kind if it has one,
and else because the credential has no problem. The judgement of a pass completes exactly
then, as `Site.validate_complete_iff` shows. -/
def Service.Accepts (service : Service) (kind : CredentialKind) (credential : Credential) :
    Prop :=
  match service.judgement kind with
  | some judgement => judgement = .ok .complete
  | none => credentialProblem service.requiredKeys credential = .ok none

def Reaction.target (next : State) : Reaction → State
  | .redirect state => state
  | _ => next

namespace Site

theorem yields_recordFailure (errorType : ErrorType) (message : Value) :
    Yields (·.isComplete = false) (recordFailure errorType message) :=
  yields_bind fun _ => yields_bind fun _ => yields_bind fun _ => yields_bind fun _ =>
    yields_pure rfl

theorem yields_refuseRotation : Yields (·.isComplete = false) refuseRotation :=
  yields_bind fun _ => yields_recordFailure _ _

/-- A judgement completes exactly for the credentials that are accepted. -/
theorem validate_complete_iff (service : Service) (kind : CredentialKind)
    (credential : Credential) (site : Site) :
    ((validate service kind (some credential)).runOn site).1 = .ok .complete ↔
      service.Accepts kind credential := by
  unfold validate Service.Accepts
  cases service.judgement kind with
  | some judgement => rfl
  | none =>
    simp only [inspect, runOn_bind, runOn_ofExcept]
    cases credentialProblem service.requiredKeys credential with
    | error fault => simp
    | ok problem =>
      cases problem with
      | none => simp
      | some problem =>
        have hfails : Yields (·.isComplete = false)
            (rejectCredential (problemMessage kind credential problem)) :=
          yields_bind fun _ => yields_recordFailure _ _
        constructor
        · intro h
          cases hfails site .complete h
        · intro h
          cases h

/-- What remembering a credential comes to: the record with the credential remembered,
and a message, or the fault that keeps it. -/
theorem runOn_remember (kind : CredentialKind) (credential : Credential) (site : Site) :
    (∃ host, site.host.remember kind credential = .ok host ∧
      ∃ journal, (remember kind (some credential)).runOn site =
        (.ok (), { site with host := host }.withJournal journal)) ∨
    ∃ fault, site.host.remember kind credential = .error fault ∧
      (remember kind (some credential)).runOn site = (.error fault, site) := by
  cases hremember : site.host.remember kind credential with
  | ok host =>
    have hupdate : (onHost (RecordStep.update kind (some credential)).perform).runOn site =
        (.ok .null, { site with host := host }) := by
      rw [onHost, runOn_within, RecordStep.perform, HostRecord.runOn_replaced]
      simp only [HostRecord.rememberGiven, hremember]
    refine Or.inl ⟨host, rfl, ?_⟩
    rw [remember, runOn_bind_ok hupdate]
    exact runOn_log _ _ _ _ _
  | error fault =>
    have hupdate : (onHost (RecordStep.update kind (some credential)).perform).runOn site =
        (.error fault, site) := by
      rw [onHost, runOn_within, RecordStep.perform, HostRecord.runOn_replaced]
      simp only [HostRecord.rememberGiven, hremember]
    refine Or.inr ⟨fault, rfl, ?_⟩
    rw [remember, runOn_bind_error hupdate]

/-- Renewing a credential judges it once it is remembered. If it cannot be remembered the
surroundings stay as they are, and the pass does not go on. -/
theorem runOn_renew (service : Service) (kind : CredentialKind) (credential : Credential)
    (site : Site) :
    (∃ host, site.host.remember kind credential = .ok host ∧
      ∃ journal, (renew service kind credential).runOn site =
        (validate service kind (some credential)).runOn
          ({ site with host := host }.withJournal journal)) ∨
    ∃ result, (∀ host, site.host.remember kind credential ≠ .ok host) ∧
      result ≠ .ok .complete ∧ (renew service kind credential).runOn site = (result, site) := by
  rcases runOn_remember kind credential site with
    ⟨host, hremember, journal, hrun⟩ | ⟨fault, hremember, hrun⟩
  · exact Or.inl ⟨host, hremember, journal, runOn_bind_ok (runOn_caught_ok hrun)⟩
  · have hnone : ∀ host, site.host.remember kind credential ≠ .ok host := by
      intro host hsome
      rw [hremember] at hsome
      cases hsome
    refine Or.inr ?_
    rw [renew]
    rcases runOn_caught_bind_error hrun with ⟨error, hbehind⟩ | hbehind
    · exact ⟨.ok (.failed (.lifecycle error)), hnone, nofun, hbehind⟩
    · exact ⟨.error fault, hnone, nofun, hbehind⟩

theorem keeps_remember_setting (kind : CredentialKind) (credential : Credential) :
    Keeps setting (remember kind (some credential)) := by
  intro site
  rcases runOn_remember kind credential site with
    ⟨host, hremember, journal, hrun⟩ | ⟨fault, hremember, hrun⟩
  · obtain ⟨status, seen, -, -, rfl⟩ := HostRecord.exists_of_remember hremember
    rw [hrun]
    rfl
  · rw [hrun]

theorem keeps_renew_setting (service : Service) (kind : CredentialKind)
    (credential : Credential) : Keeps setting (renew service kind credential) := by
  refine (keeps_remember_setting kind credential).caught.bind fun remembered => ?_
  cases remembered with
  | ok _ => exact keeps_validate unconcerned_setting _ _ _
  | error _ => exact keeps_pure _

/-- Renewing a credential leaves what is remembered of the other kind. -/
theorem keeps_renew_remembered (service : Service) {kind other : CredentialKind}
    (hother : other ≠ kind) (credential : Credential) :
    Keeps (·.host.remembered other) (renew service kind credential) := by
  intro site
  rcases runOn_renew service kind credential site with
    ⟨host, hremember, journal, hrun⟩ | ⟨result, -, -, hrun⟩
  · rw [hrun]
    exact (keeps_validate (unconcerned_remembered other) _ _ _ _).trans
      (HostRecord.remembered_of_remember_ne hremember hother)
  · rw [hrun]

/-- A credential that is renewed lets the pass go on only if it is accepted, and then it
is recognized from there on. -/
theorem renew_complete {service : Service} {kind : CredentialKind} {credential : Credential}
    {site : Site} (h : ((renew service kind credential).runOn site).1 = .ok .complete) :
    service.Accepts kind credential ∧ (credential.Recognizable →
      ((renew service kind credential).runOn site).2.host.Recognizes kind credential) := by
  rcases runOn_renew service kind credential site with
    ⟨host, hremember, journal, hrun⟩ | ⟨result, -, hresult, hrun⟩
  · rw [hrun] at h ⊢
    refine ⟨(validate_complete_iff service kind credential _).mp h, fun hsound => ?_⟩
    obtain ⟨seen, hseen, hagrees⟩ := HostRecord.recognizes_of_remember hsound hremember
    exact ⟨seen, (keeps_validate (unconcerned_remembered kind) _ _ _ _).trans hseen, hagrees⟩
  · rw [hrun] at h
    exact absurd h hresult

end Site

namespace Pass

theorem runOn_onSite {α : Type} (action : Attempt Site α) (pass : Pass) :
    (onSite action).runOn pass =
      ((action.runOn pass.site).1, { pass with site := (action.runOn pass.site).2 }) := rfl

/-- What the comparison of a credential comes to. Only a rotation is reacted to; a
credential that was not seen before or that has changed is remembered, and one that is
still the same is only judged. -/
inductive Compared (service : Service) (kind : CredentialKind) (credential : Credential)
    (pass : Pass) : Except Fault Outcome × Pass → Prop where
  | unreadable (fault : Fault) (hremembered : pass.site.host.remembered kind = .error fault) :
    Compared service kind credential pass (.error fault, pass)
  | incomparable (seen : SecretStatus) (fault : Fault)
      (hremembered : pass.site.host.remembered kind = .ok (some seen))
      (hagrees : seen.agrees credential = .error fault) :
    Compared service kind credential pass (.error fault, pass)
  | unseen (hremembered : pass.site.host.remembered kind = .ok none) :
    Compared service kind credential pass
      ((onSite (Site.renew service kind credential)).runOn pass)
  | same (seen : SecretStatus)
      (hremembered : pass.site.host.remembered kind = .ok (some seen))
      (hagrees : seen.agrees credential = .ok true) :
    Compared service kind credential pass
      ((onSite (Site.validate service kind (some credential))).runOn pass)
  | accepted (seen : SecretStatus)
      (hremembered : pass.site.host.remembered kind = .ok (some seen))
      (hagrees : seen.agrees credential = .ok false)
      (hreaction : reaction kind pass.next = .accept) :
    Compared service kind credential pass
      ((onSite (Site.renew service kind credential)).runOn pass)
  | redirected (seen : SecretStatus) (state : State) (journal : List Logging.LogEntry)
      (hremembered : pass.site.host.remembered kind = .ok (some seen))
      (hagrees : seen.agrees credential = .ok false)
      (hreaction : reaction kind pass.next = .redirect state) :
    Compared service kind credential pass
      ((onSite (Site.renew service kind credential)).runOn
        { pass with site := pass.site.withJournal journal, next := state })
  | refused (seen : SecretStatus)
      (hremembered : pass.site.host.remembered kind = .ok (some seen))
      (hagrees : seen.agrees credential = .ok false)
      (hreaction : reaction kind pass.next = .refuse) :
    Compared service kind credential pass ((onSite Site.refuseRotation).runOn pass)

theorem compared_checkCredential (service : Service) (logger : Text) (kind : CredentialKind)
    (credential : Credential) (pass : Pass) :
    Compared service kind credential pass
      ((checkCredential service logger kind credential).runOn pass) := by
  simp only [checkCredential, runOn_bind, runOn_get, runOn_ofExcept]
  cases hremembered : pass.site.host.remembered kind with
  | error fault => exact .unreadable fault hremembered
  | ok remembered =>
    cases remembered with
    | none => exact .unseen hremembered
    | some seen =>
      simp only [runOn_bind, runOn_ofExcept]
      cases hagrees : seen.agrees credential with
      | error fault => exact .incomparable seen fault hremembered hagrees
      | ok agrees =>
        cases agrees with
        | true => exact .same seen hremembered hagrees
        | false =>
          simp only [Bool.false_eq_true, if_false, handleRotation, runOn_bind, runOn_get]
          cases hreaction : reaction kind pass.next with
          | accept => exact .accepted seen hremembered hagrees hreaction
          | redirect state => exact .redirected seen state _ hremembered hagrees hreaction
          | refuse => exact .refused seen hremembered hagrees hreaction

namespace Compared

variable {service : Service} {kind : CredentialKind} {credential : Credential}
  {pass : Pass} {run : Except Fault Outcome × Pass}

theorem start_eq (h : Compared service kind credential pass run) :
    run.2.start = pass.start := by
  cases h <;> rfl

theorem setting_eq (h : Compared service kind credential pass run) :
    run.2.site.setting = pass.site.setting := by
  cases h with
  | unreadable | incomparable => rfl
  | unseen | accepted | redirected => exact Site.keeps_renew_setting _ _ _ _
  | same => exact Site.keeps_validate Site.unconcerned_setting _ _ _ _
  | refused => exact Site.keeps_refuseRotation Site.unconcerned_setting _

theorem remembered_other (h : Compared service kind credential pass run)
    {other : CredentialKind} (hother : other ≠ kind) :
    run.2.site.host.remembered other = pass.site.host.remembered other := by
  cases h with
  | unreadable | incomparable => rfl
  | unseen | accepted | redirected => exact Site.keeps_renew_remembered _ hother _ _
  | same => exact Site.keeps_validate (Site.unconcerned_remembered other) _ _ _ _
  | refused => exact Site.keeps_refuseRotation (Site.unconcerned_remembered other) _

/-- Where the host goes is decided by whether a rotation is found. -/
theorem next_eq (h : Compared service kind credential pass run) :
    run.2.next = if pass.site.host.findsRotated kind (some credential)
      then (reaction kind pass.next).target pass.next else pass.next := by
  cases h with
  | unreadable fault hremembered => simp [HostRecord.findsRotated, hremembered]
  | incomparable seen fault hremembered hagrees =>
    simp [HostRecord.findsRotated, hremembered, hagrees]
  | unseen hremembered => simp [HostRecord.findsRotated, hremembered, runOn_onSite]
  | same seen hremembered hagrees =>
    simp [HostRecord.findsRotated, hremembered, hagrees, runOn_onSite]
  | accepted seen hremembered hagrees hreaction =>
    simp [HostRecord.findsRotated, hremembered, hagrees, hreaction, runOn_onSite,
      Reaction.target]
  | redirected seen state journal hremembered hagrees hreaction =>
    simp [HostRecord.findsRotated, hremembered, hagrees, hreaction, runOn_onSite,
      Reaction.target]
  | refused seen hremembered hagrees hreaction =>
    simp [HostRecord.findsRotated, hremembered, hagrees, hreaction, runOn_onSite,
      Reaction.target]

/-- A credential that was seen before is forgotten only for a rotation that is not
refused. -/
theorem remembered_eq (h : Compared service kind credential pass run)
    (hseen : pass.site.host.remembered kind ≠ .ok none)
    (hkept : pass.site.host.findsRotated kind (some credential) = true →
      reaction kind pass.next = .refuse) :
    run.2.site.host.remembered kind = pass.site.host.remembered kind := by
  cases h with
  | unreadable | incomparable => rfl
  | unseen hremembered => exact absurd hremembered hseen
  | same => exact Site.keeps_validate (Site.unconcerned_remembered kind) _ _ _ _
  | accepted seen hremembered hagrees hreaction =>
    have hrefuse := hkept (by simp [HostRecord.findsRotated, hremembered, hagrees])
    rw [hreaction] at hrefuse
    cases hrefuse
  | redirected seen state journal hremembered hagrees hreaction =>
    have hrefuse := hkept (by simp [HostRecord.findsRotated, hremembered, hagrees])
    rw [hreaction] at hrefuse
    cases hrefuse
  | refused => exact Site.keeps_refuseRotation (Site.unconcerned_remembered kind) _

/-- The pass goes on only with a credential that is accepted and recognized. -/
theorem cleared (h : Compared service kind credential pass run)
    (hcomplete : run.1 = .ok .complete) : service.Accepts kind credential ∧
      (credential.Recognizable → run.2.site.host.Recognizes kind credential) := by
  cases h with
  | unreadable | incomparable => cases hcomplete
  | unseen | accepted | redirected => exact Site.renew_complete hcomplete
  | same seen hremembered hagrees =>
    have haccepts := (Site.validate_complete_iff service kind credential _).mp hcomplete
    refine ⟨haccepts, fun _ => ⟨seen, ?_, hagrees⟩⟩
    exact (Site.keeps_validate (Site.unconcerned_remembered kind) _ _ _ _).trans hremembered
  | refused =>
    have hfails := Site.yields_refuseRotation pass.site .complete hcomplete
    cases hfails

end Compared

end Pass

end Reconciliation

end HostLifecycle
