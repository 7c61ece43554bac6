import HostLifecycle.Proofs.Reconciliation.Course
import HostLifecycle.Proofs.Record.Reload
import HostLifecycle.Reconciliation.Step

/-!
Runs of a machine. A run takes one step after the other, each of which a rule allows in the
machine that the steps before it left behind. Beside the passes over the host there are
steps of routine: they reach neither the state of the host nor what is remembered of its
credentials, and a deletion that was requested stays requested.
-/

namespace HostLifecycle.Reconciliation

open Attempt

def Behaviour.LeavesRecord (behaviour : Behaviour) : Prop :=
  ∀ host, behaviour.left host = host

namespace Step

inductive IsPass : Step → Prop where
  | tick : IsPass .tick
  | tickOnce : IsPass .tickOnce

/-- A step of routine between two passes: what the actions and the provider do from now on
is changed, the deletion is requested, the image is set or withdrawn, or the host is put
anew from its stored record. -/
inductive IsRoutine : Step → Prop where
  | script (state : State) (behaviours : List Behaviour)
      (hleaves : ∀ behaviour ∈ behaviours, behaviour.LeavesRecord) :
    IsRoutine (.script state behaviours)
  | judge (judgement : CredentialKind → Option (Except Fault Outcome)) :
    IsRoutine (.judge judgement)
  | require (keys : Value) : IsRoutine (.require keys)
  | setVariables (change : Settings.Environment → Settings.Environment) :
    IsRoutine (.setVariables change)
  | reload : IsRoutine .reload
  | requestDeletion : IsRoutine (.edit .requestDeletion)
  | setImage (value : Value)
      (himage : ∀ held, RecordStep.imageGiven value = .ok held → held.IsImage) :
    IsRoutine (.edit (.assign "install_image" value))

/-- A step that lays no hand on the state of the host: a pass over it, a step of routine, or
a change of what the provider holds out. -/
inductive LeavesCourse : Step → Prop where
  | pass {step : Step} (hpass : step.IsPass) : LeavesCourse step
  | routine {step : Step} (hroutine : step.IsRoutine) : LeavesCourse step
  | offer (change : Offer → Offer) : LeavesCourse (.offer change)

end Step

/-- A host whose record holds what it is meant for, and whose actions leave the record
alone. What the record remembers of credentials is read back as it was written. -/
structure Site.Sound (site : Site) : Prop where
  record : site.host.WellTyped
  actions : ∀ state, ∀ behaviour ∈ site.actions state, behaviour.LeavesRecord

theorem Behaviour.taken_mem (behaviours : List Behaviour) :
    ((taken behaviours).1 ∈ behaviours ∨ (taken behaviours).1 = idle) ∧
      ∀ behaviour ∈ (taken behaviours).2, behaviour ∈ behaviours := by
  match behaviours with
  | [] => exact ⟨Or.inr rfl, nofun⟩
  | [last] => exact ⟨Or.inl List.mem_cons_self, fun _ h => h⟩
  | first :: second :: rest =>
    exact ⟨Or.inl List.mem_cons_self, fun _ h => List.mem_cons_of_mem first h⟩

namespace Site

variable {site : Site} {property : Behaviour → Prop}

/-- Every behaviour that stands in a row for the action of a state has a property. -/
def Scripted (property : Behaviour → Prop) (site : Site) : Prop :=
  ∀ state, ∀ behaviour ∈ site.actions state, property behaviour

/-- The action that is called next has the property too, as nothing is called where no
behaviour stands in the row. -/
theorem Scripted.due (h : site.Scripted property) (hidle : property .idle) (state : State) :
    property (site.due state) := by
  rcases (Behaviour.taken_mem (site.actions state)).1 with hmember | hnone
  · exact h state _ hmember
  · rw [Site.due, hnone]
    exact hidle

theorem Scripted.acted (h : site.Scripted property) (state : State) :
    (site.acted state).Scripted property := by
  intro other behaviour hmember
  change behaviour ∈ (if other = state then (Behaviour.taken (site.actions state)).2
    else site.actions other) at hmember
  split at hmember
  · exact h state behaviour
      ((Behaviour.taken_mem (site.actions state)).2 behaviour hmember)
  · exact h other behaviour hmember

theorem Sound.due_leaves (hsound : site.Sound) (state : State) :
    (site.due state).LeavesRecord :=
  Scripted.due hsound.actions (fun _ => rfl) state

/-- An action that is called leaves the record alone, and so will every action that is called
later. -/
theorem Sound.acted (hsound : site.Sound) (state : State) :
    (site.acted state).host = site.host ∧ (site.acted state).Sound := by
  have hhost : (site.acted state).host = site.host := hsound.due_leaves state site.host
  exact ⟨hhost, hhost ▸ hsound.record, Scripted.acted hsound.actions state⟩

end Site

theorem Site.sound_fresh {host : HostRecord} (h : host.WellTyped) :
    (Machine.fresh host).site.Sound :=
  ⟨h, fun _ _ => nofun⟩

/-- A pass that is committed leaves a sound host behind if it was sound before. -/
theorem Site.Sound.settled {pass : Pass} (hsound : pass.site.Sound)
    (journal : List Logging.LogEntry) : (pass.settled journal).Sound :=
  ⟨hsound.record.atState _ _, hsound.actions⟩

/-- What a step beside the passes keeps of a host and its surroundings. -/
structure Site.Kept (site after : Site) : Prop where
  state : after.host.state = site.host.state
  sshStatus : after.host.sshStatus = site.host.sshStatus
  errorType : after.host.errorType = site.host.errorType
  errorMessage : after.host.errorMessage = site.host.errorMessage ∨
    after.host.errorMessage = site.host.errorMessage.joinedText
  errorCount : after.host.errorCount = site.host.errorCount
  deletionRequested : site.host.deletionRequested = true → after.host.deletionRequested = true
  calls : after.calls = site.calls
  fetches : after.fetches = site.fetches
  trail : after.trail = site.trail

theorem Site.Kept.remembered {site after : Site} (h : site.Kept after) (kind : CredentialKind) :
    after.host.remembered kind = site.host.remembered kind :=
  HostRecord.remembered_congr h.sshStatus kind

/-- A change that does not reach the host keeps everything. -/
theorem Site.Kept.of_host_eq {site after : Site} (hhost : after.host = site.host)
    (hcalls : after.calls = site.calls) (hfetches : after.fetches = site.fetches)
    (htrail : after.trail = site.trail) : site.Kept after := by
  refine ⟨?_, ?_, ?_, Or.inl ?_, ?_, ?_, hcalls, hfetches, htrail⟩ <;> rw [hhost]
  exact id

theorem Site.Kept.refl (site : Site) : site.Kept site :=
  Kept.of_host_eq rfl rfl rfl rfl

namespace Machine

/-- The machine behind a step, whatever the step answers. -/
def after (machine : Machine) (step : Step) : Machine := (step.perform.runOn machine).2

/-- A run from a machine under a rule: the steps that were taken, and the machine behind
them. -/
inductive Run (rule : Machine → Step → Prop) (start : Machine) :
    List Step → Machine → Prop where
  | nil : Run rule start [] start
  | snoc {steps : List Step} {machine : Machine} (run : Run rule start steps machine)
      (step : Step) (allowed : rule machine step) :
    Run rule start (steps ++ [step]) (machine.after step)

theorem Run.eq_foldl {rule : Machine → Step → Prop} {start machine : Machine} {steps : List Step}
    (hrun : Run rule start steps machine) : machine = steps.foldl after start := by
  induction hrun with
  | nil => rfl
  | snoc run step allowed ih => rw [List.foldl_append, ← ih, List.foldl_cons, List.foldl_nil]

theorem after_tick (machine : Machine) : machine.after .tick = (tick.runOn machine).2 := by
  rw [after, Step.perform, runOn_bind]
  rcases tick.runOn machine with ⟨fault | outcome, changed⟩ <;> rfl

theorem after_tickOnce (machine : Machine) :
    machine.after .tickOnce = (tickOnce.runOn machine).2 := by
  rw [after, Step.perform, runOn_bind]
  rcases tickOnce.runOn machine with ⟨fault | outcome, changed⟩ <;> rfl

/-- Every pass over the host leaves the same behind around it. -/
theorem after_pass_site {step : Step} (hpass : step.IsPass) (machine : Machine) :
    (machine.after step).site = (tick.runOn machine).2.site := by
  cases hpass with
  | tick => rw [after_tick]
  | tickOnce => rw [after_tickOnce, tickOnce_site]

theorem after_pass_service {step : Step} (hpass : step.IsPass) (machine : Machine) :
    (machine.after step).service = machine.service := by
  cases hpass with
  | tick =>
    rw [after_tick]
    rfl
  | tickOnce =>
    rw [after_tickOnce]
    rfl

theorem after_edit (machine : Machine) (step : RecordStep) : machine.after (.edit step) =
    { machine with site := { machine.site with
      host := (step.perform.runOn machine.site.host).2 } } := by
  rw [after, Step.perform, runOn_bind, onSite, runOn_within, Site.onHost, runOn_within]
  rcases step.perform.runOn machine.site.host with ⟨fault | value, host⟩ <;> rfl

/-- A state that is written from outside reaches nothing else. -/
theorem after_writeState (machine : Machine) (state : State) :
    machine.after (.edit (.assign "provisioning_state" (.str state.text))) =
      { machine with site := { machine.site with
        host := { machine.site.host with state := state } } } := by
  have hassign : RecordStep.assigned machine.site.host "provisioning_state" (.str state.text) =
      (State.ofValue (.str state.text)).map fun state =>
        { machine.site.host with state := state } := by
    rw [RecordStep.assigned_of_ne _ (by decide), HostRecord.write, Text.string?_ofString]
    rfl
  rw [after_edit, RecordStep.perform, HostRecord.runOn_replaced, hassign, State.ofValue_text]
  rfl

/-- A reload puts the host anew from its stored record, or it fails and changes nothing. -/
theorem after_reload (machine : Machine) :
    (∃ host, machine.site.host.reloaded = .ok host ∧ machine.after .reload =
      { machine with site := { machine.site with host := host }, latest := host.state }) ∨
    machine.after .reload = machine := by
  rw [after, Step.perform]
  cases hreloaded : machine.site.host.reloaded with
  | error fault =>
    have hrun : reload.runOn machine = (.error fault, machine) := by
      simp only [runOn, reload, ExceptT.run, hreloaded]
    rw [runOn_bind_error hrun]
    exact Or.inr rfl
  | ok host =>
    have hrun : reload.runOn machine = (.ok (),
        { machine with site := { machine.site with host := host }, latest := host.state }) := by
      simp only [runOn, reload, ExceptT.run, hreloaded]
    rw [runOn_bind_ok hrun]
    exact Or.inl ⟨host, rfl, rfl⟩

/-- Whatever the provider holds out from now on, only the source of the credentials changes. -/
theorem after_offer (machine : Machine) (change : Offer → Offer) :
    ∃ source, machine.after (.offer change) =
      { machine with site := { machine.site with source := source } } := by
  have hafter : machine.after (.offer change) = reoffer change machine := rfl
  rw [hafter, reoffer]
  split
  · exact ⟨_, rfl⟩
  · exact ⟨machine.site.source, rfl⟩

theorem site_require (machine : Machine) (keys : Value) :
    (machine.after (.require keys)).site = machine.site := by
  rw [after, Step.perform, require]
  cases keys.parts? <;> rfl

variable {machine : Machine} {property : Behaviour → Prop}

theorem scripted_script (h : machine.site.Scripted property) (state : State)
    {behaviours : List Behaviour} (hbehaviours : ∀ behaviour ∈ behaviours, property behaviour) :
    (machine.after (.script state behaviours)).site.Scripted property := by
  intro other behaviour hmember
  change behaviour ∈ (if other = state then behaviours else machine.site.actions other) at hmember
  split at hmember
  · exact hbehaviours behaviour hmember
  · exact h other behaviour hmember

theorem scripted_pass (h : machine.site.Scripted property) {step : Step} (hpass : step.IsPass) :
    (machine.after step).site.Scripted property := by
  obtain ⟨run, journal, -, hcourse, htick⟩ := exists_tick machine
  have hrun : run.2.site.Scripted property := by
    apply hcourse.holds (Site.Scripted property) h (fun _ _ => id)
    · intro _ hstate
      have hactions : (Pass.gate machine.service machine.passName machine.site).2.site.actions =
          machine.site.actions :=
        congrArg Setting.actions (Pass.gated_gate _ _ hstate).setting_eq
      rw [Site.Scripted, hactions]
      exact h
    · intro found _ hfound
      exact hfound.acted _
  rw [after_pass_site hpass, htick]
  exact hrun

theorem kept_offer (hsound : machine.site.Sound) (change : Offer → Offer) :
    machine.site.Kept (machine.after (.offer change)).site ∧
      (machine.after (.offer change)).site.Sound := by
  obtain ⟨source, hafter⟩ := after_offer machine change
  rw [hafter]
  exact ⟨Site.Kept.of_host_eq rfl rfl rfl rfl, hsound.record, hsound.actions⟩

/-- A host whose fields hold what they are meant for is put anew with its texts put together. -/
theorem after_reload_joined (h : machine.site.host.WellTyped) :
    machine.after .reload = machine ∨ machine.after .reload = { machine with
      site := { machine.site with host := machine.site.host.joined }
      latest := machine.site.host.state } := by
  rcases after_reload machine with ⟨host, hreloaded, hafter⟩ | hafter
  · right
    have hjoined : host = machine.site.host.joined := by
      rcases HostRecord.reloaded_eq h with hread | ⟨fault, hread⟩
      · exact Except.ok.inj (hreloaded.symm.trans hread)
      · cases hreloaded.symm.trans hread
    rw [hafter, hjoined]
    rfl
  · exact Or.inl hafter

theorem after_requestDeletion (machine : Machine) : ∃ marker,
    (machine.site.host.deletionRequested = true → marker = true) ∧
    machine.after (.edit .requestDeletion) = { machine with site := { machine.site with
      host := { machine.site.host with deletionRequested := marker } } } := by
  rw [after_edit, RecordStep.perform, HostRecord.runOn_replaced]
  cases hoffer : machine.site.host.offer .requestDeletion with
  | error fault => exact ⟨machine.site.host.deletionRequested, id, rfl⟩
  | ok _ => exact ⟨true, fun _ => rfl, rfl⟩

theorem after_setImage (machine : Machine) (value : Value) : ∃ image,
    (image = machine.site.host.installImage ∨ RecordStep.imageGiven value = .ok image) ∧
    machine.after (.edit (.assign "install_image" value)) =
      { machine with site := { machine.site with
        host := { machine.site.host with installImage := image } } } := by
  rw [after_edit, RecordStep.perform, HostRecord.runOn_replaced, RecordStep.assigned_image]
  cases hheld : RecordStep.imageGiven value with
  | error fault => exact ⟨machine.site.host.installImage, Or.inl rfl, rfl⟩
  | ok held => exact ⟨held, Or.inr rfl, rfl⟩

variable {step : Step}

/-- A step of routine keeps the course of the host, a reload if the fields of the record hold
what they are meant for. -/
theorem kept_routine (hroutine : step.IsRoutine)
    (hreload : step = .reload → machine.site.host.WellTyped) :
    machine.site.Kept (machine.after step).site := by
  cases hroutine with
  | script | judge | setVariables => exact Site.Kept.of_host_eq rfl rfl rfl rfl
  | require keys =>
    rw [site_require]
    exact Site.Kept.refl _
  | reload =>
    rcases after_reload_joined (hreload rfl) with hafter | hafter <;> rw [hafter]
    · exact Site.Kept.refl _
    · exact ⟨rfl, rfl, rfl, Or.inr rfl, rfl, id, rfl, rfl, rfl⟩
  | requestDeletion =>
    obtain ⟨marker, hmarker, hafter⟩ := after_requestDeletion machine
    rw [hafter]
    exact ⟨rfl, rfl, rfl, Or.inl rfl, rfl, hmarker, rfl, rfl, rfl⟩
  | setImage value =>
    obtain ⟨image, -, hafter⟩ := after_setImage machine value
    rw [hafter]
    exact ⟨rfl, rfl, rfl, Or.inl rfl, rfl, id, rfl, rfl, rfl⟩

theorem scripted_routine (h : machine.site.Scripted Behaviour.LeavesRecord)
    (hroutine : step.IsRoutine) : (machine.after step).site.Scripted Behaviour.LeavesRecord := by
  cases hroutine with
  | script state behaviours hleaves => exact scripted_script h state hleaves
  | judge | setVariables => exact h
  | require keys =>
    rw [site_require]
    exact h
  | reload =>
    rcases after_reload machine with ⟨host, -, hafter⟩ | hafter <;> rw [hafter] <;> exact h
  | requestDeletion =>
    obtain ⟨marker, -, hafter⟩ := after_requestDeletion machine
    rw [hafter]
    exact h
  | setImage value =>
    obtain ⟨image, -, hafter⟩ := after_setImage machine value
    rw [hafter]
    exact h

theorem wellTyped_routine (h : machine.site.host.WellTyped) (hroutine : step.IsRoutine) :
    (machine.after step).site.host.WellTyped := by
  cases hroutine with
  | script | judge | setVariables => exact h
  | require keys =>
    rw [site_require]
    exact h
  | reload =>
    rcases after_reload_joined h with hafter | hafter <;> rw [hafter]
    · exact h
    · exact h.joined
  | requestDeletion =>
    obtain ⟨marker, -, hafter⟩ := after_requestDeletion machine
    rw [hafter]
    exact h.atState _ marker
  | setImage value himage =>
    obtain ⟨image, hheld, hafter⟩ := after_setImage machine value
    rw [hafter]
    refine ⟨h.name, ?_, h.sshStatus, h.errorType, h.errorMessage, h.errorCount⟩
    rcases hheld with hsame | hgiven
    · exact hsame ▸ h.installImage
    · exact himage image hgiven

theorem scripted_course (h : machine.site.Scripted Behaviour.LeavesRecord)
    (hcourse : step.LeavesCourse) : (machine.after step).site.Scripted Behaviour.LeavesRecord := by
  cases hcourse with
  | pass hpass => exact scripted_pass h hpass
  | routine hroutine => exact scripted_routine h hroutine
  | offer change =>
    obtain ⟨source, hafter⟩ := after_offer machine change
    rw [hafter]
    exact h

/-- A step beside the passes keeps the course of the host. -/
theorem kept_course (hcourse : step.LeavesCourse) (hpass : ¬ step.IsPass)
    (hreload : step = .reload → machine.site.host.WellTyped) :
    machine.site.Kept (machine.after step).site := by
  cases hcourse with
  | pass h => exact absurd h hpass
  | routine hroutine => exact kept_routine hroutine hreload
  | offer change =>
    obtain ⟨source, hafter⟩ := after_offer machine change
    rw [hafter]
    exact Site.Kept.of_host_eq rfl rfl rfl rfl

/-- A step of routine keeps the course of the host, and the machine stays sound. -/
theorem kept_of_isRoutine (hsound : machine.site.Sound) (hroutine : step.IsRoutine) :
    machine.site.Kept (machine.after step).site ∧ (machine.after step).site.Sound :=
  ⟨kept_routine hroutine fun _ => hsound.record, wellTyped_routine hsound.record hroutine,
    scripted_routine hsound.actions hroutine⟩

end Machine

end HostLifecycle.Reconciliation
