import HostLifecycle.Proofs.Reconciliation.Alike

/-!
What a run tells of the secrets it handles. A second host starts with the digests of other
secrets, and in every pass its source answers the same credentials with these secrets in their
place. As long as no two of the secrets have one digest, both hosts are driven through the same
run: every pass ends in the same way, and nothing but the digests in the record differs.
-/

namespace HostLifecycle

open Attempt

namespace Disguise

variable (disguise : Disguise)

def answer (fetched : Option Credential × Option Credential) :
    Option Credential × Option Credential :=
  (fetched.1.map disguise.credential, fetched.2.map disguise.credential)

def offer (offer : Reconciliation.Offer) : Reconciliation.Offer :=
  ⟨offer.os.map disguise.credential, offer.rescue.map disguise.credential, offer.fault⟩

end Disguise

namespace Reconciliation

variable {disguise : Disguise}

/-- What is seen of a host and its surroundings from outside: its record but for what is
remembered of its credentials, its audit trail, the calls of its actions and the count of its
fetches. -/
structure Shown where
  host : HostRecord
  trail : Audit.Trail
  calls : List State
  fetches : Nat

namespace Site

variable {site site' : Site}

def shown (site : Site) : Shown :=
  ⟨{ site.host with sshStatus := .raw .null }, site.trail, site.calls, site.fetches⟩

theorem Alike.shown (h : Alike disguise site site') : site.shown = site'.shown := by
  obtain ⟨status, -, hhost⟩ := h.host
  rw [Site.shown, Site.shown, hhost, h.trail, h.calls, h.fetches]

/-- Two sources that answer the same, but the second one in disguise, and write the same to the
journal meanwhile. -/
structure FetchesAlike (disguise : Disguise) (site site' : Site) : Prop where
  covers : ∀ fetched, site.answer = .ok fetched →
    disguise.CoversFound fetched.1 ∧ disguise.CoversFound fetched.2
  answer : site'.answer = site.answer.map disguise.answer
  journal : (fetch.runOn site).2.journal = (fetch.runOn site').2.journal

theorem Alike.fetches_provider (h : Alike disguise site site') {offer : Offer}
    (hos : disguise.CoversFound offer.os) (hrescue : disguise.CoversFound offer.rescue)
    (hsource : site.source = .provider offer)
    (hsource' : site'.source = .provider (disguise.offer offer)) :
    FetchesAlike disguise site site' := by
  have hrun : ∀ (found : Site) (held : Offer), found.source = .provider held →
      fetch.runOn found = (held.taken, { found with fetches := found.fetches + 1 }) := by
    rintro ⟨host, trail, source, environment, actions, calls, fetches⟩ held hheld
    cases hheld
    rfl
  constructor
  · intro fetched hanswer
    rw [answer, hrun site offer hsource, Offer.taken] at hanswer
    cases hfault : offer.fault with
    | some fault =>
      rw [hfault] at hanswer
      cases hanswer
    | none =>
      rw [hfault] at hanswer
      cases hanswer
      exact ⟨hos, hrescue⟩
  · rw [answer, answer, hrun site offer hsource, hrun site' _ hsource', Offer.taken, Offer.taken]
    cases hfault : offer.fault <;> simp only [Disguise.offer, hfault] <;> rfl
  · rw [hrun site offer hsource, hrun site' _ hsource']
    exact congrArg (·.around.journal) h.trail

theorem matched_fetch (h : Alike disguise site site')
    (hfetches : FetchesAlike disguise site site') :
    Matched (Alike disguise)
      (fun fetched fetched' => (disguise.CoversFound fetched.1 ∧ disguise.CoversFound fetched.2) ∧
        fetched' = disguise.answer fetched) (fetch.runOn site) (fetch.runOn site') := by
  have hbehind : ∀ found : Site, ∃ source, (fetch.runOn found).2 =
      { found.withJournal (fetch.runOn found).2.journal with
        source := source, fetches := found.fetches + 1 } :=
    fun found => ⟨_, rfl⟩
  constructor
  · change Paired _ site.answer site'.answer
    rw [hfetches.answer]
    cases hanswer : site.answer with
    | error fault => exact .error fault
    | ok fetched => exact .ok ⟨hfetches.covers fetched hanswer, rfl⟩
  · obtain ⟨source, hfetched⟩ := hbehind site
    obtain ⟨source', hfetched'⟩ := hbehind site'
    rw [hfetched, hfetched', hfetches.journal]
    refine ⟨h.host, ?_, h.scripted, h.actions, h.calls, congrArg (· + 1) h.fetches⟩
    simp only [withJournal, h.trail]

end Site

namespace Pass

variable {pass pass' : Pass}

theorem matched_checkCredentials (h : Alike disguise pass pass')
    (hfetches : Site.FetchesAlike disguise pass.site pass'.site) (service : Service)
    (logger : Text) :
    Matched (Alike disguise) Eq ((checkCredentials service logger).runOn pass)
      ((checkCredentials service logger).runOn pass') := by
  have hstate : pass'.site.host.state = pass.site.host.state := by
    obtain ⟨status, -, hhost⟩ := h.site.host
    rw [hhost]
  have hfetch := Site.matched_fetch h.site hfetches
  have hsite : Matched (Alike disguise) _ ((onSite Site.fetch).runOn pass)
      ((onSite Site.fetch).runOn pass') :=
    ⟨hfetch.result, hfetch.behind, h.start, h.next⟩
  rw [checkCredentials, runOn_bind, runOn_bind, runOn_get, runOn_get]
  simp only [hstate]
  split
  · exact ⟨.ok rfl, h⟩
  · apply hsite.caught.bind
    intro result result' hresult
    cases hresult with
    | error fault => exact twin_pure rfl
    | @ok fetched _ hfound =>
      obtain ⟨⟨hos, hrescue⟩, rfl⟩ := hfound
      exact twin_checkBoth hos hrescue service logger

/-- Only a pass that is not diverted comes to a look at the credentials, and then it is still
where it started. -/
theorem matched_decide (h : Alike disguise pass pass')
    (hfetches : Site.FetchesAlike disguise pass.site pass'.site) (service : Service)
    (logger : Text) :
    Matched (Alike disguise) Eq ((decide service logger).runOn pass)
      ((decide service logger).runOn pass') := by
  -- both passes are diverted or none is, so the two mixed cases end at once
  have hdivert := twin_divert pass pass' h
  rcases runOn_divert pass with ⟨-, _, _, -, hrun⟩ | ⟨-, hrun⟩ <;>
    rcases runOn_divert pass' with ⟨-, _, _, -, hrun'⟩ | ⟨-, hrun'⟩ <;>
    rw [hrun, hrun'] at hdivert
  · rw [decide, runOn_bind_ok hrun, runOn_bind_ok hrun']
    exact twin_reportDeletion logger _ _ hdivert.behind
  · cases hdivert.result.eq
  · cases hdivert.result.eq
  · rw [decide, runOn_bind_ok hrun, runOn_bind_ok hrun']
    apply (matched_checkCredentials h hfetches service logger).bind
    rintro outcome _ rfl
    split
    · exact twin_handle logger
    · exact twin_pure rfl

end Pass

namespace Step

/-- A step beside the passes, and the step in its place in a run in disguise. What the source
holds out from now on is left to the passes, which ask for it. -/
inductive Masked (disguise : Disguise) : Step → Step → Prop where
  | script (state : State) {behaviours : List Behaviour}
      (hcovers : ∀ behaviour ∈ behaviours, disguise.CoversBehaviour behaviour) :
    Masked disguise (.script state behaviours)
      (.script state (behaviours.map disguise.behaviour))
  | offer (change change' : Offer → Offer) : Masked disguise (.offer change) (.offer change')
  | judge (judgement : CredentialKind → Option (Except Fault Outcome)) :
    Masked disguise (.judge judgement) (.judge judgement)
  | require (keys : Value) : Masked disguise (.require keys) (.require keys)
  | setVariables (change change' : Settings.Environment → Settings.Environment) :
    Masked disguise (.setVariables change) (.setVariables change')
  | fail (errorType message : Value) :
    Masked disguise (.fail errorType message) (.fail errorType message)
  | edit {step : RecordStep} (hcovers : disguise.CoversStep step) (hshown : step ≠ .describe) :
    Masked disguise (.edit step) (.edit (disguise.step step))

end Step

namespace Machine

/-- Two machines of hosts that are alike, whose latest passes decided on the same state. -/
structure Alike (disguise : Disguise) (machine machine' : Machine) : Prop where
  site : Site.Alike disguise machine.site machine'.site
  service : machine.service = machine'.service
  logger : machine.logger = machine'.logger
  latest : machine.latest = machine'.latest

/-- The steps that two machines take side by side: the same pass, if their sources answer alike,
both putting the host anew from its stored record, or a step beside the passes and the one in
its place. -/
inductive InStep (disguise : Disguise) (machine machine' : Machine) : Step → Step → Prop where
  | pass {step : Step} (hpass : step.IsPass)
      (hfetches : Site.FetchesAlike disguise machine.site machine'.site) :
    InStep disguise machine machine' step step
  | reload {status : SshStatus} (hknown : machine.site.host.sshStatus = .known status) :
    InStep disguise machine machine' .reload .reload
  | masked {step step' : Step} (hmasked : Step.Masked disguise step step') :
    InStep disguise machine machine' step step'

/-- What is seen of a step from outside: its answer, and what it leaves to be seen. -/
def report (machine : Machine) (step : Step) : Except Fault StepResult × Shown :=
  ((step.perform.runOn machine).1, (machine.after step).site.shown)

/-- Two runs side by side, with the reports of their steps. -/
inductive TwinRun (disguise : Disguise) (start start' : Machine) :
    List (Except Fault StepResult × Shown) → List (Except Fault StepResult × Shown) →
    Machine → Machine → Prop where
  | nil : TwinRun disguise start start' [] [] start start'
  | snoc {reports reports' : List (Except Fault StepResult × Shown)} {machine machine' : Machine}
      (run : TwinRun disguise start start' reports reports' machine machine') {step step' : Step}
      (hstep : InStep disguise machine machine' step step') :
    TwinRun disguise start start' (reports ++ [machine.report step])
      (reports' ++ [machine'.report step']) (machine.after step) (machine'.after step')

variable {machine machine' : Machine}

theorem matched_reconcile (h : Alike disguise machine machine')
    (hfetches : Site.FetchesAlike disguise machine.site machine'.site) :
    Matched (Pass.Alike disguise) Eq
      ((Pass.reconcile machine.service machine.passName).runOn (Pass.of machine.site))
      ((Pass.reconcile machine'.service machine'.passName).runOn (Pass.of machine'.site)) := by
  have hpass : Pass.Alike disguise (Pass.of machine.site) (Pass.of machine'.site) := by
    obtain ⟨status, -, hhost⟩ := h.site.host
    have hstate : machine'.site.host.state = machine.site.host.state := by rw [hhost]
    exact ⟨h.site, hstate, hstate⟩
  have hname : machine'.passName = machine.passName := by rw [passName, passName, h.logger]
  obtain ⟨hresult, hbehind⟩ :=
    Pass.matched_decide hpass hfetches machine.service machine.passName
  rw [hname, ← h.service, Pass.reconcile, runOn_andFinally, runOn_andFinally]
  exact ⟨hresult, hbehind.committed machine.passName⟩

/-- A pass over both hosts ends in the same way. -/
theorem matched_pass (h : Alike disguise machine machine')
    (hfetches : Site.FetchesAlike disguise machine.site machine'.site) {step : Step}
    (hpass : step.IsPass) :
    Matched (Alike disguise) Eq (step.perform.runOn machine) (step.perform.runOn machine') := by
  obtain ⟨hresult, hbehind⟩ := matched_reconcile h hfetches
  cases hpass with
  | tick =>
    have htick : Matched (Alike disguise) Eq (tick.runOn machine) (tick.runOn machine') :=
      ⟨hresult, hbehind.site, h.service, h.logger, hbehind.next.symm⟩
    apply htick.bind
    rintro outcome _ rfl
    exact twin_pure rfl
  | tickOnce =>
    have htick : Matched (Alike disguise) Eq (tickOnce.runOn machine) (tickOnce.runOn machine') :=
      ⟨hresult, hbehind.site, h.service, h.logger, h.latest⟩
    apply htick.bind
    rintro outcome _ rfl
    exact twin_pure rfl

theorem twin_onSite {α β : Type} {results : α → β → Prop} {action : Attempt Site α}
    {action' : Attempt Site β} (h : Twin (Site.Alike disguise) results action action') :
    Twin (Alike disguise) results (onSite action) (onSite action') := by
  apply h.within
  · exact fun _ _ halike => halike.site
  · intro _ _ _ _ halike hsite
    exact { halike with site := hsite }

theorem twin_change {f f' : Machine → Machine}
    (hchange : ∀ machine machine', Alike disguise machine machine' →
      Alike disguise (f machine) (f' machine')) :
    Twin (Alike disguise) Eq (change f) (change f') :=
  fun machine machine' halike => ⟨.ok rfl, hchange machine machine' halike⟩

theorem Alike.script (h : Alike disguise machine machine') (state : State)
    {behaviours : List Behaviour}
    (hcovers : ∀ behaviour ∈ behaviours, disguise.CoversBehaviour behaviour) :
    Alike disguise (script state behaviours machine)
      (script state (behaviours.map disguise.behaviour) machine') := by
  have hscripted := scripted_script h.site.scripted state hcovers
  refine { h with site := { h.site with scripted := hscripted, actions := ?_ } }
  intro other
  change (if other = state then behaviours.map disguise.behaviour
    else machine'.site.actions other) = List.map disguise.behaviour
      (if other = state then behaviours else machine.site.actions other)
  split
  · rfl
  · exact h.site.actions other

/-- Nothing is said of what the sources hold. -/
theorem Alike.reoffer (h : Alike disguise machine machine') (change change' : Offer → Offer) :
    Alike disguise (reoffer change machine) (reoffer change' machine') := by
  obtain ⟨source, hoffered⟩ := after_offer machine change
  obtain ⟨source', hoffered'⟩ := after_offer machine' change'
  change Alike disguise (machine.after (.offer change)) (machine'.after (.offer change'))
  rw [hoffered, hoffered']
  exact { h with site := { h.site with } }

/-- A step beside the passes and the one in its place answer the same. -/
theorem twin_masked {step step' : Step} (h : Step.Masked disguise step step') :
    Twin (Alike disguise) Eq step.perform step'.perform := by
  cases h with
  | script state hcovers => exact twin_change fun _ _ halike => halike.script state hcovers
  | offer change change' => exact twin_change fun _ _ halike => halike.reoffer change change'
  | judge judgement =>
    apply twin_change
    intro machine machine' halike
    refine { halike with service := ?_ }
    rw [halike.service]
  | require keys =>
    rw [Step.perform, require]
    cases keys.parts? with
    | none => exact twin_fail _
    | some keys =>
      apply twin_change
      intro machine machine' halike
      refine { halike with service := ?_ }
      rw [halike.service]
  | setVariables change change' =>
    exact twin_change fun _ _ halike => { halike with site := { halike.site with } }
  | fail errorType message =>
    apply Twin.then
    · apply (twin_ofExcept (paired_eq (ErrorType.ofValue errorType))).then
      intro known
      exact twin_onSite (Site.twin_recordFailure known message)
    · exact fun outcome => twin_pure rfl
  | edit hcovers hshown =>
    apply (twin_onSite (Site.twin_onHost (RecordStep.twin_perform hcovers hshown))).then
    exact fun value => twin_pure rfl

theorem matched_reload (h : Alike disguise machine machine') {status : SshStatus}
    (hknown : machine.site.host.sshStatus = .known status) :
    Matched (Alike disguise) Eq (Step.reload.perform.runOn machine)
      (Step.reload.perform.runOn machine') := by
  have hreload : Matched (Alike disguise) Eq (reload.runOn machine) (reload.runOn machine') := by
    have hread := h.site.host.reloaded hknown
    simp only [runOn, reload, ExceptT.run]
    generalize machine.site.host.reloaded = found at hread ⊢
    generalize machine'.site.host.reloaded = found' at hread ⊢
    cases hread with
    | error fault => exact ⟨.error fault, h⟩
    | ok halike =>
      refine ⟨.ok rfl, { h with site := { h.site with host := halike }, latest := ?_ }⟩
      obtain ⟨_, -, rfl⟩ := halike
      rfl
  apply hreload.bind
  intro _ _ _
  exact twin_pure rfl

theorem matched_step (h : Alike disguise machine machine') {step step' : Step}
    (hstep : InStep disguise machine machine' step step') :
    Matched (Alike disguise) Eq (step.perform.runOn machine) (step'.perform.runOn machine') := by
  cases hstep with
  | pass hpass hfetches => exact matched_pass h hfetches hpass
  | reload hknown => exact matched_reload h hknown
  | masked hmasked => exact twin_masked hmasked machine machine' h

/-- Hosts with records that are alike are alike as long as nothing has happened around them. -/
theorem alike_fresh {host host' : HostRecord} (h : HostRecord.Alike disguise host host') :
    Alike disguise (fresh host) (fresh host') := by
  have hsite : Site.Alike disguise (fresh host).site (fresh host').site :=
    ⟨h, rfl, fun _ _ => nofun, fun _ => rfl, rfl, rfl⟩
  obtain ⟨status, -, rfl⟩ := h
  exact ⟨hsite, rfl, rfl, rfl⟩

variable {start start' : Machine} {reports reports' : List (Except Fault StepResult × Shown)}

/-- Nothing is told of a secret. Along every run of two hosts side by side, of which the second
one handles other secrets, every step answers the same and leaves the same to be seen. Behind
the run the hosts are still alike, so their records differ in nothing but digests. -/
theorem secrets_unseen (halike : Alike disguise start start')
    (hrun : TwinRun disguise start start' reports reports' machine machine') :
    reports = reports' ∧ Alike disguise machine machine' := by
  induction hrun with
  | nil => exact ⟨rfl, halike⟩
  | snoc run hstep ih =>
    obtain ⟨hreports, hbefore⟩ := ih
    obtain ⟨hresult, hbehind⟩ := matched_step hbefore hstep
    refine ⟨?_, hbehind⟩
    rw [hreports, report, report, hresult.eq, after, after, hbehind.site.shown]

/-- Two provisioned hosts that each use the key which the other one is then offered. Both passes
tell the same of it. -/
theorem secrets_unseen_provisioned :
    let key : Text := "ssh-rsa AAAA"
    let other : Text := "ssh-rsa BBBB"
    let held (text : Text) : Offer := ⟨some ⟨.str "os", .object [("key", .str text)]⟩, none, none⟩
    let start (text : Text) : Machine :=
      { fresh { HostRecord.new (.str "host") with
          state := .provisioning
          installImage := .known ⟨.str "image", .null⟩
          sshStatus := .known
            ⟨some ⟨.str "os", fingerprintValue [("key", digestOf text)]⟩, none⟩ } with
        service := ⟨[.str "key", .str "key"], fun _ => none⟩ }
    let offered (text new : Text) : Machine :=
      ((start text).after .tick).after (.offer fun _ => held new)
    (offered key other).report .tick = (offered other key).report .tick := by
  intro key other held start offered
  let disguise : Disguise := .swap key other (by decide) (by decide) (by decide) (by decide)
    (by decide +kernel)
  have hseen : SecretStatus.Alike disguise
      ⟨.str "os", fingerprintValue [("key", digestOf key)]⟩
      ⟨.str "os", fingerprintValue [("key", digestOf other)]⟩ := by
    have hknown : ∀ entry ∈ [(("key" : Text), key)], disguise.Known entry.2 := by
      intro entry hentry
      rw [List.mem_singleton.mp hentry]
      exact Or.inl rfl
    exact SecretStatus.alike_digests (.str "os") hknown
  have halike : Alike disguise (start key) (start other) := by
    refine { alike_fresh ⟨_, .known fun kind => ?_, rfl⟩ with service := rfl }
    cases kind with
    | os => exact .some hseen
    | rescue => exact .none
  have hnone : disguise.CoversFound none := fun _ => nofun
  have hsource : ∀ text, (start text).site.source = .provider Offer.empty := fun _ => rfl
  have hempty : Site.FetchesAlike disguise (start key).site (start other).site :=
    halike.site.fetches_provider hnone hnone (hsource key) (hsource other)
  have hearlier := (TwinRun.nil.snoc (.pass .tick hempty)).snoc
    (.masked (.offer (fun _ => held other) (fun _ => held key)))
  have hcovers : disguise.CoversFound (held other).os := by
    rintro _ ⟨⟩
    refine ⟨?_, fun _ => nofun⟩
    rintro fields ⟨⟩ field hfield text htext
    rw [List.mem_singleton.mp hfield] at htext
    cases htext
    exact Or.inr rfl
  have hmasked : held key = disguise.offer (held other) := by
    have hother : disguise.map other = key := by
      change (if other = key then other else key) = key
      exact if_neg (by decide)
    change held key = ⟨some ⟨.str "os", .object [("key", .str (disguise.map other))]⟩, none, none⟩
    rw [hother]
  have hoffered : Alike disguise (offered key other) (offered other key) :=
    (secrets_unseen halike hearlier).2
  have hsource' : ∀ text new, (offered text new).site.source = .provider (held new) :=
    fun _ _ => rfl
  have hheld : Site.FetchesAlike disguise (offered key other).site (offered other key).site :=
    hoffered.site.fetches_provider hcovers hnone (hsource' key other)
      ((hsource' other key).trans (congrArg Source.provider hmasked))
  have hlast : ∀ {reports reports' : List (Except Fault StepResult × Shown)} {last last'},
      reports ++ [last] = reports' ++ [last'] → last = last' :=
    fun h => List.singleton_inj.mp (List.append_inj' h rfl).2
  exact hlast (secrets_unseen halike (hearlier.snoc (.pass .tick hheld))).1

end Machine

end Reconciliation

end HostLifecycle
