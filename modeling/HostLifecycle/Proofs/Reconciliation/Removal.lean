import HostLifecycle.Proofs.Reconciliation.Admission
import HostLifecycle.Proofs.Reconciliation.Precedence
import HostLifecycle.Proofs.Reconciliation.Run

/-!
A host is deleted on request only. Nothing but the diversion of a marked host leads to its
deletion, the mark of a host is never taken back, and a marked host is diverted before any
action but that of its teardown is called. So unless a run starts in it, the action of the
deletion is never called.
-/

namespace HostLifecycle

open Attempt

namespace HostRecord

/-- How a record goes on where its state is not written: a mark that was set stays set. -/
structure Spares (host after : HostRecord) : Prop where
  state : after.state = host.state
  marked : host.deletionRequested = true → after.deletionRequested = true

theorem Spares.refl (host : HostRecord) : host.Spares host := ⟨rfl, id⟩

theorem Spares.trans {host middle after : HostRecord} (h : host.Spares middle)
    (h' : middle.Spares after) : host.Spares after :=
  ⟨h'.state.trans h.state, fun hrequested => h'.marked (h.marked hrequested)⟩

variable {host after : HostRecord}

/-- The mark of a record cannot be taken back. -/
theorem marker_of_markerOf {value : Value} {marker : Bool} (h : host.markerOf value = .ok marker)
    (hrequested : host.deletionRequested = true) : marker = true := by
  unfold markerOf at h
  rw [hrequested] at h
  cases hvalue : value.isTruthy <;> rw [hvalue] at h <;> cases h
  rfl

theorem spares_write {field : Text} {value : Value} (h : host.write field value = .ok after)
    (hfield : field.string? ≠ some "provisioning_state") : host.Spares after := by
  unfold write at h
  split at h
  case h_2 hstate => exact absurd hstate hfield
  case h_3 =>
    obtain ⟨marker, hmarker, rfl⟩ := exists_of_map_ok h
    exact ⟨rfl, marker_of_markerOf hmarker⟩
  case h_9 | h_10 | h_11 | h_12 | h_13 => cases h
  all_goals
    cases h
    exact ⟨rfl, id⟩

theorem spares_assigned {field : Text} {value : Value}
    (h : RecordStep.assigned host field value = .ok after)
    (hfield : field.string? ≠ some "provisioning_state") : host.Spares after := by
  by_cases himage : field = "install_image"
  · rw [himage, RecordStep.assigned_image] at h
    obtain ⟨image, -, rfl⟩ := exists_of_map_ok h
    exact ⟨rfl, id⟩
  · rw [RecordStep.assigned_of_ne _ himage] at h
    exact spares_write h hfield

/-- A record that is replaced goes on as the one in its place, and a refused change leaves it. -/
theorem spares_replaced {change : HostRecord → Except Fault HostRecord}
    (h : ∀ after, change host = .ok after → host.Spares after) :
    host.Spares ((replaced change).runOn host).2 := by
  rw [runOn_replaced]
  cases hchange : change host with
  | error fault => exact .refl host
  | ok after => exact h after hchange

theorem spares_rememberGiven {kind : CredentialKind} {credential : Option Credential}
    (h : rememberGiven kind credential host = .ok after) : host.Spares after := by
  cases credential with
  | none =>
    obtain ⟨_, -, hfault⟩ := exists_of_bind_ok h
    cases hfault
  | some credential =>
    obtain ⟨status, seen, -, -, rfl⟩ := exists_of_remember h
    exact ⟨rfl, id⟩

theorem spares_setError (errorType : ErrorType) (message : Value) :
    host.Spares ((setError errorType message).runOn host).2 := by
  have hstate : Keeps (·.state) (setError errorType message) :=
    keeps_setError (fun _ _ _ _ => rfl) errorType message
  have hmarker : Keeps (·.deletionRequested) (setError errorType message) :=
    keeps_setError (fun _ _ _ _ => rfl) errorType message
  exact ⟨hstate host, fun hrequested => (hmarker host).trans hrequested⟩

end HostRecord

namespace RecordStep

/-- An access to a record that does not write the state. -/
def SparesState : RecordStep → Prop
  | assign field _ => field.string? ≠ some "provisioning_state"
  | write field _ => field.string? ≠ some "provisioning_state"
  | _ => True

theorem spares_perform {step : RecordStep} (h : step.SparesState) (host : HostRecord) :
    host.Spares (step.perform.runOn host).2 := by
  cases step with
  | assign field value =>
    exact HostRecord.spares_replaced fun after hafter => HostRecord.spares_assigned hafter h
  | write field value =>
    exact HostRecord.spares_replaced fun after hafter => HostRecord.spares_write hafter h
  | requestDeletion =>
    apply HostRecord.spares_replaced
    intro after hafter
    obtain ⟨_, -, hmarked⟩ := exists_of_bind_ok hafter
    cases hmarked
    exact ⟨rfl, fun _ => rfl⟩
  | setError errorType message =>
    rw [perform, runOn_bind, runOn_ofExcept]
    cases ErrorType.ofValue errorType with
    | error fault => exact .refl host
    | ok known =>
      have hset : host.Spares ((HostRecord.setError known message).runOn host).2 :=
        HostRecord.spares_setError known message
      simp only [runOn_bind]
      rcases hrun : (HostRecord.setError known message).runOn host with ⟨fault | _, changed⟩ <;>
        rw [hrun] at hset <;> exact hset
  | update kind credential =>
    exact HostRecord.spares_replaced fun after hafter => HostRecord.spares_rememberGiven hafter
  | compare | pending | roundTrip | describe => exact .refl host

theorem spares_performAll {steps : List RecordStep} (h : ∀ step ∈ steps, step.SparesState)
    (host : HostRecord) : host.Spares ((performAll steps).runOn host).2 := by
  induction steps generalizing host with
  | nil => exact .refl host
  | cons step rest ih =>
    have hfirst := spares_perform (h step List.mem_cons_self) host
    rw [performAll]
    rcases hrun : step.perform.runOn host with ⟨fault | value, changed⟩
    · rw [runOn_bind_error hrun]
      rw [hrun] at hfirst
      exact hfirst
    · rw [runOn_bind_ok hrun]
      rw [hrun] at hfirst
      exact hfirst.trans (ih (fun other hother => h other (List.mem_cons_of_mem _ hother)) changed)

end RecordStep

namespace Reconciliation

def Behaviour.SparesState (behaviour : Behaviour) : Prop :=
  ∀ step ∈ behaviour.effects, step.SparesState

theorem Behaviour.SparesState.left {behaviour : Behaviour} (h : behaviour.SparesState)
    (host : HostRecord) : host.Spares (behaviour.left host) :=
  RecordStep.spares_performAll h host

/-- Only the mark of a host leads to its deletion, unless it is there already. -/
theorem Findings.verdict_deleting {findings : Findings} {start : State}
    (h : findings.verdict start = .deleting) :
    findings.deletionRequested = true ∨ start = .deleting := by
  obtain ⟨deletionRequested, osRotated, rescueRotated, gateCompletes, cancelled,
    actionCompletes⟩ := findings
  revert deletionRequested osRotated rescueRotated gateCompletes cancelled actionCompletes
  cases start <;> decide

namespace Machine

variable {machine : Machine}

/-- A step that writes the state of the host from outside only to put it up for preparation. Of
the record it may write anything else, and of what surrounds the host it may change
everything. -/
inductive Unwritten (machine : Machine) : Step → Prop where
  | pass {step : Step} (hpass : step.IsPass) : Unwritten machine step
  | script (state : State) (behaviours : List Behaviour)
      (hspares : ∀ behaviour ∈ behaviours, behaviour.SparesState) :
    Unwritten machine (.script state behaviours)
  | judge (judgement : CredentialKind → Option (Except Fault Outcome)) :
    Unwritten machine (.judge judgement)
  | require (keys : Value) : Unwritten machine (.require keys)
  | offer (change : Offer → Offer) : Unwritten machine (.offer change)
  | setVariables (change : Settings.Environment → Settings.Environment) :
    Unwritten machine (.setVariables change)
  | reload : Unwritten machine .reload
  | edit (step : RecordStep) (hspares : step.SparesState) : Unwritten machine (.edit step)
  | prepare (hstate : machine.site.host.state = .none) :
    Unwritten machine (.edit (.assign "provisioning_state" (.str State.preparing.text)))

/-- A host that is deleted only if it is marked, with actions that do not write its state. -/
structure Marked (machine : Machine) : Prop where
  marked : machine.site.host.state = .deleting → machine.site.host.deletionRequested = true
  actions : machine.site.Scripted Behaviour.SparesState

theorem Marked.of_spares {after : Machine} (h : machine.Marked)
    (hspares : machine.site.host.Spares after.site.host)
    (hactions : after.site.Scripted Behaviour.SparesState) : after.Marked :=
  ⟨fun hdeleting => hspares.marked (h.marked (hspares.state ▸ hdeleting)), hactions⟩

/-- A pass takes no mark from a host, and it leads to the deletion only for one. -/
theorem marked_pass (h : machine.Marked) {step : Step} (hpass : step.IsPass) :
    (machine.after step).Marked := by
  refine ⟨?_, scripted_pass h.actions hpass⟩
  obtain ⟨run, journal, -, hcourse, htick⟩ := exists_tick machine
  have hdue := h.actions.due (fun _ => nofun) machine.site.host.state
  have hmarked : machine.site.host.deletionRequested = true →
      run.2.site.host.deletionRequested = true := by
    intro hrequested
    apply hcourse.holds (·.host.deletionRequested = true) hrequested
    · exact fun _ _ => id
    · intro hkept
      rw [hrequested] at hkept
      cases hkept
    · intro found hsame hfound
      have hleft := hdue.left found.host
      rw [← hsame] at hleft
      exact hleft.marked hfound
  rw [after_pass_site hpass, htick]
  intro hdeleting
  have hverdict : machine.findings.verdict machine.site.host.state = .deleting := by
    rw [← settledState_eq machine (fun host => (hdue.left host).state) hcourse]
    exact hdeleting
  rcases Findings.verdict_deleting hverdict with hrequested | hstate
  · exact hmarked hrequested
  · exact hmarked (h.marked hstate)

/-- A pass calls the action of the deletion only for a host that is there without a mark. -/
theorem calls_pass (h : machine.Marked) {step : Step} (hpass : step.IsPass) :
    ∃ called, (machine.after step).site.calls = machine.site.calls ++ called ∧
      .deleting ∉ called := by
  obtain ⟨run, journal, -, hcourse, htick⟩ := exists_tick machine
  rw [after_pass_site hpass, htick]
  rcases hcourse.calls with hcalls | ⟨before, -, -, -, hcalls, -, -, hadmitted⟩
  · refine ⟨[], ?_, List.not_mem_nil⟩
    rw [List.append_nil]
    exact hcalls
  · refine ⟨[machine.site.host.state], hcalls, ?_⟩
    rw [List.mem_singleton]
    intro hdeleting
    have hadmission := hadmitted (by rw [← hdeleting]; exact nofun)
    have hrequested := hadmission.deletionRequested_eq
    rw [h.marked hdeleting.symm] at hrequested
    cases hrequested

/-- What one step does to a host that is deleted only if it is marked. -/
theorem marked_after (h : machine.Marked) {step : Step} (hstep : machine.Unwritten step) :
    (machine.after step).Marked ∧
      ∃ called, (machine.after step).site.calls = machine.site.calls ++ called ∧
        .deleting ∉ called := by
  have hnone : machine.site.calls = machine.site.calls ++ [] ∧ State.deleting ∉ [] :=
    ⟨(List.append_nil _).symm, List.not_mem_nil⟩
  cases hstep with
  | pass hpass => exact ⟨marked_pass h hpass, calls_pass h hpass⟩
  | script state behaviours hspares =>
    exact ⟨⟨h.marked, scripted_script h.actions state hspares⟩, [], hnone⟩
  | judge => exact ⟨⟨h.marked, h.actions⟩, [], hnone⟩
  | require keys =>
    refine ⟨⟨?_, ?_⟩, [], ?_⟩ <;> rw [site_require]
    · exact h.marked
    · exact h.actions
    · exact hnone
  | offer change =>
    obtain ⟨source, hafter⟩ := after_offer machine change
    rw [hafter]
    exact ⟨⟨h.marked, h.actions⟩, [], hnone⟩
  | setVariables => exact ⟨⟨h.marked, h.actions⟩, [], hnone⟩
  | reload =>
    rcases after_reload machine with ⟨host, hreloaded, hafter⟩ | hafter
    · obtain ⟨hstate, hmarker⟩ := HostRecord.state_of_reloaded hreloaded
      have hhost : machine.site.host.Spares host := ⟨hstate, hmarker.trans⟩
      rw [hafter]
      exact ⟨h.of_spares hhost h.actions, [], hnone⟩
    · rw [hafter]
      exact ⟨h, [], hnone⟩
  | edit edit hspares =>
    rw [after_edit]
    have hhost := RecordStep.spares_perform hspares machine.site.host
    exact ⟨h.of_spares hhost h.actions, [], hnone⟩
  | prepare =>
    rw [after_writeState]
    exact ⟨⟨nofun, h.actions⟩, [], hnone⟩

variable {start : Machine} {steps : List Step}

/-- A host is deleted on request only. Along every run that starts elsewhere, and in which
nothing but a pass writes the state or else puts the host up for preparation, a host that is
being deleted is marked for it, whatever its actions, its provider and its source do. And so
the action of the deletion is not called, as a marked host is diverted before it. -/
theorem deleting_on_request (hstart : start.site.host.state ≠ .deleting)
    (hactions : start.site.Scripted Behaviour.SparesState)
    (hrun : Run Unwritten start steps machine) :
    (machine.site.host.state = .deleting → machine.site.host.deletionRequested = true) ∧
      ∃ called, machine.site.calls = start.site.calls ++ called ∧ .deleting ∉ called := by
  suffices hbehind : machine.Marked ∧
      ∃ called, machine.site.calls = start.site.calls ++ called ∧ .deleting ∉ called from
    ⟨hbehind.1.marked, hbehind.2⟩
  induction hrun with
  | nil =>
    refine ⟨⟨fun hdeleting => absurd hdeleting hstart, hactions⟩, [], ?_, List.not_mem_nil⟩
    rw [List.append_nil]
  | snoc run step allowed ih =>
    obtain ⟨hmarked, before, hbefore, hnotBefore⟩ := ih
    obtain ⟨hafter, called, hcalled, hnotCalled⟩ := marked_after hmarked allowed
    refine ⟨hafter, before ++ called, ?_, ?_⟩
    · rw [hcalled, hbefore, List.append_assoc]
    · rw [List.mem_append, not_or]
      exact ⟨hnotBefore, hnotCalled⟩

/-- A host whose deletion is requested during its preparation is deleted, and the action of the
deletion is not called. -/
theorem deleting_on_request_preparing :
    let start := fresh { HostRecord.new (.str "host") with state := .preparing }
    let final := ((start.after (.edit .requestDeletion)).after .tick).after .tick
    start.site.host.state ≠ .deleting ∧ start.site.Scripted Behaviour.SparesState ∧
      final.site.host.state = .deleting ∧ final.site.host.deletionRequested = true ∧
      ∃ called, final.site.calls = start.site.calls ++ called ∧ .deleting ∉ called := by
  intro start final
  have hstart : start.site.host.state ≠ .deleting := nofun
  have hactions : start.site.Scripted Behaviour.SparesState := fun _ _ => nofun
  have hrun : Run Unwritten start [.edit .requestDeletion, .tick, .tick] final :=
    ((Run.nil.snoc (.edit .requestDeletion) (.edit .requestDeletion trivial)).snoc .tick
      (.pass .tick)).snoc .tick (.pass .tick)
  have hstate : final.site.host.state = .deleting := rfl
  obtain ⟨hmarked, hcalls⟩ := deleting_on_request hstart hactions hrun
  exact ⟨hstart, hactions, hstate, hmarked hstate, hcalls⟩

end Machine

end Reconciliation

end HostLifecycle
