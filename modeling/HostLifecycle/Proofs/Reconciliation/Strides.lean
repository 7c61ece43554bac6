import HostLifecycle.Proofs.Reconciliation.Abreast
import HostLifecycle.Reconciliation.Step

/-!
Steps of two machines whose hosts differ only in their audit trails. Where the trails are related
in a way that outlives every entry of the journal and every event about the host, each step
answers the same in both machines and leaves their hosts abreast again. Behind a step the host may
bear another name.
-/

namespace HostLifecycle.Reconciliation

open Attempt Audit Logging

variable {trails : Trail → Trail → Prop} {known : Value → Prop} {allowed : LogEntry → Prop}
  {α : Type}

namespace Pass

variable (hcarried : Carried trails allowed known) (hallowed : ∀ entry, allowed entry)
include hcarried hallowed

theorem abreast_writeState (logger : Text) :
    Twin (Abreast trails fun _ => True) Eq (writeState logger) (writeState logger) := by
  apply twin_get_bind
  rintro pass _ ⟨site, hsite, rfl⟩
  have hextras : changeExtras { pass with site := site } = pass.changeExtras := by
    rw [changeExtras, changeExtras, hsite.host_eq]
  rw [hextras]
  apply (abreast_onSite (Site.abreast_log_of_allowed hcarried _ fun _ => hallowed _)).then
  intro _
  apply twin_modify
  rintro logged _ ⟨_, ⟨-, trail, source, htrail, hsource, rfl⟩, rfl⟩
  exact ⟨_, ⟨trivial, trail, source, htrail, hsource, rfl⟩, rfl⟩

theorem Abreast.committed {pass pass' : Pass} (h : Abreast trails (fun _ => True) pass pass')
    (logger : Text) :
    Abreast trails (fun _ => True) (Pass.committed logger pass) (Pass.committed logger pass') := by
  have hbehind := (abreast_writeState hcarried hallowed logger _ _ h).behind
  have hchanged : pass'.isChanged = pass.isChanged := by
    obtain ⟨_, -, rfl⟩ := h
    rfl
  rw [Pass.committed, Pass.committed, hchanged]
  split
  · exact hbehind
  · exact h

theorem abreast_reconcile (service : Service) (logger : Text) {pass pass' : Pass}
    (h : Abreast trails known pass pass') :
    Matched (Abreast trails fun _ => True) Eq ((reconcile service logger).runOn pass)
      ((reconcile service logger).runOn pass') := by
  obtain ⟨hresult, hbehind⟩ := abreast_decide hcarried service logger h
  rw [reconcile, runOn_andFinally, runOn_andFinally]
  exact ⟨hresult, hbehind.committed hcarried hallowed logger⟩

end Pass

namespace Machine

def Abreast (trails : Trail → Trail → Prop) (known : Value → Prop) (machine machine' : Machine) :
    Prop :=
  ∃ site, Site.Abreast trails known machine.site site ∧ machine' = { machine with site := site }

theorem Abreast.unnamed {machine machine' : Machine} (h : Abreast trails known machine machine') :
    Abreast trails (fun _ => True) machine machine' := by
  obtain ⟨site, hsite, rfl⟩ := h
  exact ⟨site, hsite.unnamed, rfl⟩

theorem abreast_onSite {action : Attempt Site α}
    (haction : Twin (Site.Abreast trails known) Eq action action) :
    Twin (Abreast trails known) Eq (onSite action) (onSite action) := by
  rintro machine _ ⟨site, hsite, rfl⟩
  obtain ⟨hresult, hbehind⟩ := haction _ _ hsite
  exact ⟨hresult, _, hbehind, rfl⟩

theorem abreast_change {f : Machine → Machine}
    (hchange : ∀ machine machine', Abreast trails known machine machine' →
      Abreast trails known (f machine) (f machine')) :
    Twin (Abreast trails known) Eq (change f) (change f) :=
  fun machine machine' h => ⟨.ok rfl, hchange machine machine' h⟩

theorem abreast_reoffer (offered : Offer → Offer) :
    Twin (Abreast trails known) Eq (change (reoffer offered)) (change (reoffer offered)) := by
  apply abreast_change
  rintro machine _ ⟨_, ⟨hknown, trail, source, htrail, hsource, rfl⟩, rfl⟩
  simp only [reoffer]
  cases hheld : machine.site.source with
  | provider offer =>
    rw [hheld] at hsource
    cases source with
    | secrets => cases hsource
    | provider offer' =>
      cases hsource
      exact ⟨_, ⟨hknown, trail, _, htrail, rfl, rfl⟩, rfl⟩
  | secrets store session =>
    rw [hheld] at hsource
    cases source with
    | provider => cases hsource
    | secrets store' session' =>
      refine ⟨_, ⟨hknown, trail, _, htrail, ?_, rfl⟩, rfl⟩
      rw [hheld]
      exact hsource

theorem abreast_require (keys : Value) :
    Twin (Abreast trails known) Eq (require keys) (require keys) := by
  unfold require
  split
  · apply abreast_change
    rintro machine _ ⟨site, hsite, rfl⟩
    exact ⟨site, hsite, rfl⟩
  · exact twin_fail _

theorem abreast_reload : Twin (Abreast trails fun _ => True) Eq reload reload := by
  rintro machine _ ⟨site, hsite, rfl⟩
  have hhost := hsite.host_eq
  obtain ⟨-, trail, source, htrail, hsource, rfl⟩ := hsite
  simp only [runOn, reload, ExceptT.run]
  cases machine.site.host.reloaded with
  | error fault => exact ⟨.error fault, _, ⟨trivial, trail, source, htrail, hsource, rfl⟩, rfl⟩
  | ok host => exact ⟨.ok rfl, _, ⟨trivial, trail, source, htrail, hsource, rfl⟩, rfl⟩

/-- An access to the record may rename the host. -/
theorem abreast_edit (step : RecordStep) :
    Twin (Abreast trails fun _ => True) Eq (onSite (Site.onHost step.perform))
      (onSite (Site.onHost step.perform)) :=
  abreast_onSite (Site.abreast_onHost step.perform fun _ _ => trivial)

section

variable (hcarried : Carried trails allowed known)
include hcarried

theorem abreast_validate (kind : Value) (credential : Option Credential) :
    Twin (Abreast trails known) Eq (validate kind credential) (validate kind credential) := by
  apply (twin_ofExcept (paired_eq _)).then
  intro kind
  apply twin_get_bind
  rintro machine _ ⟨site, -, rfl⟩
  exact abreast_onSite (Site.abreast_validate hcarried machine.service kind credential)

theorem abreast_fail (errorType message : Value) :
    Twin (Abreast trails known) Eq (fail errorType message) (fail errorType message) := by
  apply (twin_ofExcept (paired_eq _)).then
  exact fun errorType => abreast_onSite (Site.abreast_recordFailure hcarried errorType message)

theorem abreast_perform (part : Part) (service : Service) (logger : Text) {pass pass' : Pass}
    (h : Pass.Abreast trails known pass pass') :
    Matched (Pass.Abreast trails fun _ => True) Eq ((perform part service logger).runOn pass)
      ((perform part service logger).runOn pass') := by
  cases part with
  | divert =>
    exact ((Pass.abreast_divert hcarried _ _ h).bind fun _ _ hsame => twin_pure
      (congrArg Finding.diverted hsame)).weaken fun _ _ => Pass.Abreast.unnamed
  | checkCredentials =>
    exact ((Pass.abreast_checkCredentials hcarried service logger _ _ h).bind fun _ _ hsame =>
      twin_pure (congrArg Finding.ended hsame)).weaken fun _ _ => Pass.Abreast.unnamed
  | handle =>
    exact (Pass.abreast_handle hcarried logger h).bind fun _ _ hsame =>
      twin_pure (congrArg Finding.ended hsame)

/-- A part of a pass that is tried alone. -/
theorem abreast_attempt (part : Part) (next : Option State) {machine machine' : Machine}
    (h : Abreast trails known machine machine') :
    Matched (Abreast trails fun _ => True) Eq ((attempt part next).runOn machine)
      ((attempt part next).runOn machine') := by
  obtain ⟨site, hsite, rfl⟩ := h
  have hpass : Pass.Abreast trails known
      { Pass.of machine.site with next := next.getD (Pass.of machine.site).next }
      { Pass.of site with next := next.getD (Pass.of site).next } := by
    obtain ⟨_, hbeside, hof⟩ := Pass.abreast_of hsite
    rw [hof]
    exact ⟨_, hbeside, rfl⟩
  obtain ⟨hresult, after, hafter, hbehind⟩ := abreast_perform hcarried part machine.service
    (machine.logger.getD part.logger) hpass
  have hrun : ∀ found : Machine, (attempt part next).runOn found =
      (.ok ⟨((perform part found.service (found.logger.getD part.logger)).runOn
            { Pass.of found.site with next := next.getD (Pass.of found.site).next }).1,
          ((perform part found.service (found.logger.getD part.logger)).runOn
            { Pass.of found.site with next := next.getD (Pass.of found.site).next }).2.start,
          ((perform part found.service (found.logger.getD part.logger)).runOn
            { Pass.of found.site with next := next.getD (Pass.of found.site).next }).2.next⟩,
        { found with site := ((perform part found.service
            (found.logger.getD part.logger)).runOn
            { Pass.of found.site with next := next.getD (Pass.of found.site).next }).2.site }) :=
    fun _ => rfl
  rw [hrun, hrun, hbehind, ← hresult.eq]
  exact ⟨.ok rfl, after, hafter, rfl⟩

variable (hallowed : ∀ entry, allowed entry)
include hallowed

theorem abreast_tick {machine machine' : Machine} (h : Abreast trails known machine machine') :
    Matched (Abreast trails fun _ => True) Eq (tick.runOn machine) (tick.runOn machine') ∧
    Matched (Abreast trails fun _ => True) Eq (tickOnce.runOn machine)
      (tickOnce.runOn machine') := by
  obtain ⟨site, hsite, rfl⟩ := h
  obtain ⟨hresult, after, hafter, hbehind⟩ := Pass.abreast_reconcile hcarried hallowed
    machine.service machine.passName (Pass.abreast_of hsite)
  have htick : ∀ found : Machine, tick.runOn found =
      (((Pass.reconcile found.service found.passName).runOn (Pass.of found.site)).1,
        { found with
          site := ((Pass.reconcile found.service found.passName).runOn (Pass.of found.site)).2.site
          latest :=
            ((Pass.reconcile found.service found.passName).runOn (Pass.of found.site)).2.next }) :=
    fun _ => rfl
  have htickOnce : ∀ found : Machine, tickOnce.runOn found =
      (((Pass.reconcile found.service found.passName).runOn (Pass.of found.site)).1,
        { found with
          site :=
            ((Pass.reconcile found.service found.passName).runOn (Pass.of found.site)).2.site }) :=
    fun _ => rfl
  have hname : passName { machine with site := site } = machine.passName := rfl
  constructor
  · rw [htick, htick, hname, hbehind]
    exact ⟨hresult, after, hafter, rfl⟩
  · rw [htickOnce, htickOnce, hname, hbehind]
    exact ⟨hresult, after, hafter, rfl⟩

/-- Every step answers the same in both machines. -/
theorem abreast_step (step : Step) {machine machine' : Machine}
    (h : Abreast trails known machine machine') :
    Matched (Abreast trails fun _ => True) Eq (step.perform.runOn machine)
      (step.perform.runOn machine') := by
  -- behind an operation the step answers with its result
  have hanswer : ∀ {β : Type} {action : Attempt Machine β} (answer : β → StepResult),
      Matched (Abreast trails fun _ => True) Eq (action.runOn machine)
        (action.runOn machine') →
      Matched (Abreast trails fun _ => True) Eq
        ((do pure (answer (← action)) : Attempt Machine StepResult).runOn machine)
        ((do pure (answer (← action)) : Attempt Machine StepResult).runOn machine') :=
    fun answer hmatched => hmatched.bind fun _ _ hsame => twin_pure (congrArg answer hsame)
  have hsilent : ∀ {β : Type} {action : Attempt Machine β},
      Twin (Abreast trails known) Eq action action →
      Matched (Abreast trails fun _ => True) Eq (action.runOn machine)
        (action.runOn machine') :=
    fun htwin => (htwin _ _ h).weaken fun _ _ => Abreast.unnamed
  cases step with
  | tick => exact hanswer .ended (abreast_tick hcarried hallowed h).1
  | tickOnce => exact hanswer .ended (abreast_tick hcarried hallowed h).2
  | attempt part next => exact hanswer .attempted (abreast_attempt hcarried part next h)
  | script state behaviours =>
    apply hsilent
    apply abreast_change
    rintro machine _ ⟨_, ⟨hknown, trail, source, htrail, hsource, rfl⟩, rfl⟩
    exact ⟨_, ⟨hknown, trail, source, htrail, hsource, rfl⟩, rfl⟩
  | offer change => exact hsilent (abreast_reoffer change)
  | judge judgement =>
    apply hsilent
    apply abreast_change
    rintro machine _ ⟨site, hsite, rfl⟩
    exact ⟨site, hsite, rfl⟩
  | require keys => exact hsilent (abreast_require keys)
  | validate kind credential =>
    exact hanswer .ended (hsilent (abreast_validate hcarried kind credential))
  | fail errorType message =>
    exact hanswer .ended (hsilent (abreast_fail hcarried errorType message))
  | fetch =>
    exact hanswer (fun fetched => .fetched fetched.1 fetched.2)
      (hsilent (abreast_onSite (Site.abreast_fetch hcarried)))
  | remember kind credential =>
    exact hanswer (fun _ => .done)
      (hsilent (abreast_onSite (Site.abreast_remember hcarried kind credential)))
  | setVariables change =>
    apply hsilent
    apply abreast_change
    rintro machine _ ⟨_, ⟨hknown, trail, source, htrail, hsource, rfl⟩, rfl⟩
    exact ⟨_, ⟨hknown, trail, source, htrail, hsource, rfl⟩, rfl⟩
  | reload => exact hanswer (fun _ => .done) (abreast_reload _ _ h.unnamed)
  | edit access => exact hanswer .read (abreast_edit access _ _ h.unnamed)

end

end Machine

end HostLifecycle.Reconciliation
