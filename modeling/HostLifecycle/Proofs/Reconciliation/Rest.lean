import HostLifecycle.Proofs.Reconciliation.Clearance

/-!
Looks at the credentials that are made again. A look leaves each credential that was given out
at rest: it is recognized from there on, or it was refused, or the record can neither be
compared with it nor remember it. Another look at a credential at rest remembers nothing and
sends the host nowhere.
-/

namespace HostLifecycle

open Attempt

namespace HostRecord

/-- A credential is recognized only as the one that is remembered. -/
theorem not_recognizes_of_seen {kind : CredentialKind} {credential : Credential}
    {host : HostRecord} {seen : SecretStatus} (hseen : host.remembered kind = .ok (some seen))
    {agreement : Except Fault Bool} (hagrees : seen.agrees credential = agreement)
    (hdiffers : agreement ≠ .ok true) : ¬ host.Recognizes kind credential := by
  rintro ⟨other, hother, hrecognizes⟩
  cases hseen.symm.trans hother
  exact hdiffers (hagrees.symm.trans hrecognizes)

/-- Whether a record can remember a credential is told from what it remembers and from the
operations that are hidden. -/
theorem remember_ne_congr {a b : HostRecord} (hstatus : b.sshStatus = a.sshStatus)
    (hhidden : b.hidden = a.hidden) {kind : CredentialKind} {credential : Credential}
    (h : ∀ after, a.remember kind credential ≠ .ok after) (after : HostRecord) :
    b.remember kind credential ≠ .ok after := by
  intro hremember
  obtain ⟨_, hoffer, hrest⟩ := exists_of_bind_ok hremember
  obtain ⟨seen, hseen, hrest⟩ := exists_of_bind_ok hrest
  obtain ⟨status, hknown, -⟩ := exists_of_bind_ok hrest
  have hoffer' : a.offer (.remember kind) = .ok () := by
    rw [← hoffer, offer, offer, hhidden]
  have hknown' : a.credentialStatus = .ok status := by
    rw [← hknown, credentialStatus, credentialStatus, hstatus]
  apply h { a with sshStatus := .known (status.remember kind seen) }
  simp only [remember, bind, Except.bind, hoffer', hseen, hknown']
  rfl

end HostRecord

namespace Reconciliation

/-- A credential of which a look that decides on a state remembers nothing new, and which does
not change that state. -/
inductive Rests (kind : CredentialKind) (credential : Credential) (next : State)
    (host : HostRecord) : Prop where
  | unreadable (fault : Fault) (hremembered : host.remembered kind = .error fault) :
    Rests kind credential next host
  | compared (seen : SecretStatus) (hremembered : host.remembered kind = .ok (some seen))
      (hagrees : seen.agrees credential ≠ .ok false) :
    Rests kind credential next host
  | refused (seen : SecretStatus) (hremembered : host.remembered kind = .ok (some seen))
      (hreaction : reaction kind next = .refuse) :
    Rests kind credential next host
  | unseen (hremembered : host.remembered kind = .ok none)
      (hfails : ∀ after, host.remember kind credential ≠ .ok after) :
    Rests kind credential next host
  | standing (seen : SecretStatus) (hremembered : host.remembered kind = .ok (some seen))
      (hfails : ∀ after, host.remember kind credential ≠ .ok after)
      (hstays : (reaction kind next).target next = next) :
    Rests kind credential next host

theorem Rests.congr {kind : CredentialKind} {credential : Credential} {next : State}
    {host after : HostRecord} (h : Rests kind credential next host)
    (hstatus : after.sshStatus = host.sshStatus) (hhidden : after.hidden = host.hidden) :
    Rests kind credential next after := by
  have hsame := HostRecord.remembered_congr hstatus kind
  cases h with
  | unreadable fault hremembered => exact .unreadable fault (hsame.trans hremembered)
  | compared seen hremembered hagrees => exact .compared seen (hsame.trans hremembered) hagrees
  | refused seen hremembered hreaction => exact .refused seen (hsame.trans hremembered) hreaction
  | unseen hremembered hfails =>
    exact .unseen (hsame.trans hremembered) (HostRecord.remember_ne_congr hstatus hhidden hfails)
  | standing seen hremembered hfails hstays =>
    exact .standing seen (hsame.trans hremembered)
      (HostRecord.remember_ne_congr hstatus hhidden hfails) hstays

theorem Rests.of_recognizes {kind : CredentialKind} {credential : Credential} {host : HostRecord}
    (h : host.Recognizes kind credential) (next : State) : Rests kind credential next host := by
  obtain ⟨seen, hremembered, hagrees⟩ := h
  exact .compared seen hremembered (by rw [hagrees]; exact nofun)

theorem Rests.fails_of_unseen {kind : CredentialKind} {credential : Credential} {next : State}
    {host : HostRecord} (h : Rests kind credential next host)
    (hnone : host.remembered kind = .ok none) (after : HostRecord) :
    host.remember kind credential ≠ .ok after := by
  cases h with
  | unseen _ hfails => exact hfails after
  | unreadable _ hremembered | compared _ hremembered | refused _ hremembered
  | standing _ hremembered => cases hnone.symm.trans hremembered

/-- A rotation is at rest where it is refused, or where it cannot be remembered and calls for
nothing more. -/
theorem Rests.of_rotated {kind : CredentialKind} {credential : Credential} {next : State}
    {host : HostRecord} (h : Rests kind credential next host) {seen : SecretStatus}
    (hseen : host.remembered kind = .ok (some seen))
    (hrotated : seen.agrees credential = .ok false) :
    reaction kind next = .refuse ∨
      (∀ after, host.remember kind credential ≠ .ok after) ∧
        (reaction kind next).target next = next := by
  cases h with
  | refused _ _ hreaction => exact Or.inl hreaction
  | standing _ _ hfails hstays => exact Or.inr ⟨hfails, hstays⟩
  | compared _ hremembered hagrees =>
    cases hseen.symm.trans hremembered
    exact absurd hrotated hagrees
  | unreadable _ hremembered | unseen hremembered => cases hseen.symm.trans hremembered

/-- Where a rotation sends a host, the same rotation sends it nowhere else. -/
theorem target_of_redirect {kind : CredentialKind} {next state : State}
    (h : reaction kind next = .redirect state) : (reaction kind state).target state = state := by
  cases kind with
  | os =>
    rw [reaction] at h
    split at h
    · cases h
      rfl
    · split at h <;> cases h
  | rescue =>
    rw [reaction] at h
    split at h <;> cases h
    rfl

namespace Site

theorem unconcerned_sshStatus : Unconcerned (·.host.sshStatus) :=
  fun _ _ _ _ _ => rfl

/-- A credential that is renewed is recognized from there on, or it cannot be remembered. -/
theorem renew_behind (service : Service) {kind : CredentialKind} {credential : Credential}
    (hcredential : credential.Recognizable) (site : Site) :
    ((renew service kind credential).runOn site).2.host.Recognizes kind credential ∨
    (∀ after, site.host.remember kind credential ≠ .ok after) ∧
      ((renew service kind credential).runOn site).2 = site := by
  rcases runOn_renew service kind credential site with
    ⟨host, hremember, journal, hrun⟩ | ⟨result, hfails, -, hrun⟩
  · obtain ⟨seen, hseen, hagrees⟩ := HostRecord.recognizes_of_remember hcredential hremember
    rw [hrun]
    exact Or.inl
      ⟨seen, (keeps_validate (unconcerned_remembered kind) _ _ _ _).trans hseen, hagrees⟩
  · rw [hrun]
    exact Or.inr ⟨hfails, rfl⟩

/-- Where a credential cannot be remembered, renewing it changes nothing. -/
theorem renew_of_fails (service : Service) {kind : CredentialKind} {credential : Credential}
    (site : Site) (hfails : ∀ after, site.host.remember kind credential ≠ .ok after) :
    ((renew service kind credential).runOn site).2 = site := by
  rcases runOn_renew service kind credential site with
    ⟨host, hremember, -⟩ | ⟨result, -, -, hrun⟩
  · exact absurd hremember (hfails host)
  · rw [hrun]

/-- A credential that is accepted lets the pass go on once it is remembered. -/
theorem renew_completes {service : Service} {kind : CredentialKind} {credential : Credential}
    {site : Site} (haccepts : service.Accepts kind credential)
    (hnew : ¬ site.host.Recognizes kind credential)
    (hrecognizes : ((renew service kind credential).runOn site).2.host.Recognizes kind
      credential) : ((renew service kind credential).runOn site).1 = .ok .complete := by
  rcases runOn_renew service kind credential site with
    ⟨host, -, journal, hrun⟩ | ⟨result, -, -, hrun⟩
  · rw [hrun]
    exact (validate_complete_iff service kind credential _).mpr haccepts
  · rw [hrun] at hrecognizes
    exact absurd hrecognizes hnew

end Site

namespace Pass.Compared

variable {service : Service} {kind : CredentialKind} {credential : Credential} {pass : Pass}
  {run : Except Fault Outcome × Pass}

/-- A look leaves the credential at rest. -/
theorem rests (h : Compared service kind credential pass run)
    (hcredential : credential.Recognizable) :
    Rests kind credential run.2.next run.2.site.host := by
  cases h with
  | unreadable fault hremembered => exact .unreadable fault hremembered
  | incomparable seen fault hremembered hagrees =>
    exact .compared seen hremembered (by rw [hagrees]; exact nofun)
  | unseen hremembered =>
    rw [runOn_onSite]
    rcases Site.renew_behind service hcredential pass.site with hrecognizes | ⟨hfails, hsame⟩
    · exact .of_recognizes hrecognizes _
    · rw [hsame]
      exact .unseen hremembered hfails
  | same seen hremembered hagrees =>
    have hkept := Site.keeps_validate (Site.unconcerned_remembered kind) service kind
      (some credential) pass.site
    exact .compared seen (hkept.trans hremembered) (by rw [hagrees]; exact nofun)
  | accepted seen hremembered _ hreaction =>
    rw [runOn_onSite]
    rcases Site.renew_behind service hcredential pass.site with hrecognizes | ⟨hfails, hsame⟩
    · exact .of_recognizes hrecognizes _
    · rw [hsame]
      exact .standing seen hremembered hfails (by rw [hreaction]; rfl)
  | redirected seen state journal hremembered _ hreaction =>
    rw [runOn_onSite]
    rcases Site.renew_behind service hcredential (pass.site.withJournal journal) with
      hrecognizes | ⟨hfails, hsame⟩
    · exact .of_recognizes hrecognizes _
    · rw [hsame]
      exact .standing seen hremembered hfails (target_of_redirect hreaction)
  | refused seen hremembered _ hreaction =>
    have hkept := Site.keeps_refuseRotation (Site.unconcerned_remembered kind) pass.site
    exact .refused seen (hkept.trans hremembered) hreaction

/-- A look at a credential at rest remembers nothing new. -/
theorem sshStatus_of_rests (h : Compared service kind credential pass run)
    (hrests : Rests kind credential pass.next pass.site.host) :
    run.2.site.host.sshStatus = pass.site.host.sshStatus := by
  cases h with
  | unreadable | incomparable => rfl
  | same => exact Site.keeps_validate Site.unconcerned_sshStatus _ _ _ _
  | refused => exact Site.keeps_refuseRotation Site.unconcerned_sshStatus _
  | unseen hremembered =>
    rw [runOn_onSite, Site.renew_of_fails service _ (hrests.fails_of_unseen hremembered)]
  | accepted seen hremembered hagrees hreaction =>
    rcases hrests.of_rotated hremembered hagrees with hrefuse | ⟨hfails, -⟩
    · cases hreaction.symm.trans hrefuse
    · rw [runOn_onSite, Site.renew_of_fails service _ hfails]
  | redirected seen state journal hremembered hagrees hreaction =>
    rcases hrests.of_rotated hremembered hagrees with hrefuse | ⟨hfails, -⟩
    · cases hreaction.symm.trans hrefuse
    · rw [runOn_onSite, Site.renew_of_fails service (pass.site.withJournal journal) hfails]
      rfl

/-- A look at a credential at rest sends the host nowhere. -/
theorem next_of_rests (h : Compared service kind credential pass run)
    (hrests : Rests kind credential pass.next pass.site.host) : run.2.next = pass.next := by
  cases h with
  | unreadable | incomparable | unseen | same | accepted | refused => rfl
  | redirected seen state journal hremembered hagrees hreaction =>
    rcases hrests.of_rotated hremembered hagrees with hrefuse | ⟨-, hstays⟩
    · cases hreaction.symm.trans hrefuse
    · rw [hreaction] at hstays
      exact hstays

/-- A credential that is accepted lets the pass go on wherever it is recognized behind the
look. -/
theorem completes_of_recognizes (h : Compared service kind credential pass run)
    (haccepts : service.Accepts kind credential)
    (hrecognizes : run.2.site.host.Recognizes kind credential) : run.1 = .ok .complete := by
  cases h with
  | unreadable fault hremembered =>
    obtain ⟨seen, hseen, -⟩ := hrecognizes
    cases hremembered.symm.trans hseen
  | incomparable seen fault hremembered hagrees =>
    exact absurd hrecognizes (HostRecord.not_recognizes_of_seen hremembered hagrees nofun)
  | unseen hremembered =>
    apply Site.renew_completes haccepts ?_ hrecognizes
    rintro ⟨seen, hseen, -⟩
    cases hremembered.symm.trans hseen
  | same => exact (Site.validate_complete_iff service kind credential pass.site).mpr haccepts
  | accepted seen hremembered hagrees | redirected seen _ _ hremembered hagrees =>
    exact Site.renew_completes haccepts
      (HostRecord.not_recognizes_of_seen hremembered hagrees nofun) hrecognizes
  | refused seen hremembered hagrees =>
    have hkept := Site.keeps_refuseRotation (Site.unconcerned_remembered kind) pass.site
    exact absurd hrecognizes
      (HostRecord.not_recognizes_of_seen (hkept.trans hremembered) hagrees nofun)

end Pass.Compared

section

variable {service : Service} {kind : CredentialKind} {host after : HostRecord}

theorem Cleared.congr {fetched : Option Credential} (h : Cleared service kind host fetched)
    (hstatus : after.sshStatus = host.sshStatus) : Cleared service kind after fetched := by
  intro credential hcredential
  obtain ⟨haccepts, hrecognizes⟩ := h credential hcredential
  refine ⟨haccepts, fun hrecognizable => ?_⟩
  obtain ⟨seen, hseen, hagrees⟩ := hrecognizes hrecognizable
  exact ⟨seen, (HostRecord.remembered_congr hstatus kind).trans hseen, hagrees⟩

/-- Whichever credentials a store gave out, a later comparison can recognize them. -/
def AllRecognizable (fetched : Option Credential × Option Credential) : Prop :=
  (∀ credential, fetched.1 = some credential → credential.Recognizable) ∧
    ∀ credential, fetched.2 = some credential → credential.Recognizable

/-- The credentials that a store gave out are at rest. That of the rescue system is not looked
at before the other one lets the pass go on. -/
structure Settled (service : Service) (fetched : Option Credential × Option Credential)
    (next : State) (host : HostRecord) : Prop where
  os : ∀ credential, fetched.1 = some credential → Rests .os credential next host
  rescue : Cleared service .os host fetched.1 →
    ∀ credential, fetched.2 = some credential → Rests .rescue credential next host

variable {fetched : Option Credential × Option Credential} {next : State}

theorem Settled.congr (h : Settled service fetched next host)
    (hstatus : after.sshStatus = host.sshStatus) (hhidden : after.hidden = host.hidden) :
    Settled service fetched next after := by
  constructor
  · intro credential hcredential
    exact (h.os credential hcredential).congr hstatus hhidden
  · intro hcleared credential hcredential
    exact (h.rescue (hcleared.congr hstatus.symm) credential hcredential).congr hstatus hhidden

/-- Where both credentials are cleared they are at rest in every state. -/
theorem Settled.of_cleared (hfetched : AllRecognizable fetched)
    (hos : Cleared service .os host fetched.1) (hrescue : Cleared service .rescue host fetched.2)
    (next : State) : Settled service fetched next host := by
  constructor
  · intro credential hcredential
    exact .of_recognizes ((hos credential hcredential).2 (hfetched.1 credential hcredential)) next
  · intro _ credential hcredential
    exact .of_recognizes
      ((hrescue credential hcredential).2 (hfetched.2 credential hcredential)) next

end

namespace Pass

section

variable (service : Service) (logger : Text) (kind : CredentialKind)

theorem rests_checkFetched {fetched : Option Credential}
    (hfetched : ∀ credential, fetched = some credential → credential.Recognizable) (pass : Pass) :
    ∀ credential, fetched = some credential →
      Rests kind credential ((checkFetched service logger kind fetched).runOn pass).2.next
        ((checkFetched service logger kind fetched).runOn pass).2.site.host := by
  rintro credential rfl
  exact (compared_checkCredential service logger kind credential pass).rests (hfetched _ rfl)

theorem checkFetched_of_rests {fetched : Option Credential} (pass : Pass)
    (hrests : ∀ credential, fetched = some credential →
      Rests kind credential pass.next pass.site.host) :
    ((checkFetched service logger kind fetched).runOn pass).2.site.host.sshStatus =
        pass.site.host.sshStatus ∧
      ((checkFetched service logger kind fetched).runOn pass).2.next = pass.next := by
  cases fetched with
  | none => exact ⟨rfl, rfl⟩
  | some credential =>
    have hcompared := compared_checkCredential service logger kind credential pass
    exact ⟨hcompared.sshStatus_of_rests (hrests _ rfl), hcompared.next_of_rests (hrests _ rfl)⟩

theorem checkFetched_completes {fetched : Option Credential}
    (hfetched : ∀ credential, fetched = some credential → credential.Recognizable) {pass : Pass}
    (hcleared : Cleared service kind
      ((checkFetched service logger kind fetched).runOn pass).2.site.host fetched) :
    completes ((checkFetched service logger kind fetched).runOn pass).1 = true := by
  cases fetched with
  | none => rfl
  | some credential =>
    obtain ⟨haccepts, hrecognizes⟩ := hcleared credential rfl
    have hcompared := compared_checkCredential service logger kind credential pass
    exact (completes_iff _).mpr
      (hcompared.completes_of_recognizes haccepts (hrecognizes (hfetched _ rfl)))

end

section

variable (service : Service) (logger : Text) {fetched : Option Credential × Option Credential}

/-- The look at both credentials leaves them at rest. -/
theorem settled_checkBoth (hfetched : AllRecognizable fetched) (pass : Pass) :
    Settled service fetched ((checkBoth service logger fetched).runOn pass).2.next
      ((checkBoth service logger fetched).runOn pass).2.site.host := by
  have hos := looked_checkFetched service logger .os fetched.1 pass
  have hrests := rests_checkFetched service logger .os hfetched.1 pass
  rw [runOn_checkBoth]
  split
  next hfirst =>
    have hrescue := looked_checkFetched service logger .rescue fetched.2
      (behindOs service logger fetched pass).2
    have hcleared := hos.cleared ((completes_iff _).mp hfirst)
    constructor
    · intro credential hcredential
      obtain ⟨seen, hseen, hagrees⟩ :=
        (hcleared credential hcredential).2 (hfetched.1 credential hcredential)
      have hkept := hrescue.remembered_other .os nofun
      exact .of_recognizes ⟨seen, hkept.trans hseen, hagrees⟩ _
    · intro _
      exact rests_checkFetched service logger .rescue hfetched.2 _
  next hfirst =>
    refine ⟨hrests, fun hcleared => ?_⟩
    exact absurd (checkFetched_completes service logger .os hfetched.1 hcleared) hfirst

/-- Where the credentials are at rest the look at them changes nothing. -/
theorem checkBoth_of_settled (pass : Pass)
    (h : Settled service fetched pass.next pass.site.host) :
    ((checkBoth service logger fetched).runOn pass).2.site.host.sshStatus =
        pass.site.host.sshStatus ∧
      ((checkBoth service logger fetched).runOn pass).2.next = pass.next := by
  have hos := looked_checkFetched service logger .os fetched.1 pass
  obtain ⟨hstatus, hnext⟩ := checkFetched_of_rests service logger .os pass h.os
  have hhidden : (behindOs service logger fetched pass).2.site.host.hidden =
      pass.site.host.hidden := congrArg Setting.hidden hos.setting_eq
  rw [runOn_checkBoth]
  split
  next hfirst =>
    have hcleared := (hos.cleared ((completes_iff _).mp hfirst)).congr hstatus.symm
    have hrests : ∀ credential, fetched.2 = some credential → Rests .rescue credential
        (behindOs service logger fetched pass).2.next
        (behindOs service logger fetched pass).2.site.host := by
      intro credential hcredential
      rw [behindOs, hnext]
      exact (h.rescue hcleared credential hcredential).congr hstatus hhidden
    obtain ⟨hstatus', hnext'⟩ := checkFetched_of_rests service logger .rescue _ hrests
    exact ⟨hstatus'.trans hstatus, hnext'.trans hnext⟩
  next => exact ⟨hstatus, hnext⟩

end

end Pass

end Reconciliation

end HostLifecycle
