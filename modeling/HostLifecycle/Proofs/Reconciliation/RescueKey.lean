import HostLifecycle.Proofs.Reconciliation.Precedence
import HostLifecycle.Proofs.Reconciliation.Run

/-!
The key of the rescue system while a host is put up. A host whose image is not installed yet
is worked on under one key: a pass that comes to another one starts the host anew or tears it
down. So over a stretch of steps in which the host stays on its way to the image, the key that
was seen first is the key of every action that is called.
-/

namespace HostLifecycle.Reconciliation

open Attempt

/-- A host that is found under another key of the rescue system on its way to the image is
started anew, or torn down where the image was withdrawn. -/
theorem Findings.verdict_of_rescueRotated {findings : Findings} {start : State}
    (hstart : start.isReset = true) (hrequested : findings.deletionRequested = false)
    (hrotated : findings.rescueRotated = true) :
    findings.verdict start ∈ [.none, .deprovisioning] := by
  obtain ⟨deletionRequested, osRotated, rescueRotated, gateCompletes, cancelled,
    actionCompletes⟩ := findings
  cases hrequested
  cases hrotated
  revert osRotated gateCompletes cancelled actionCompletes
  cases start with
  | preparing | registering | imageInstalling => decide
  | _ => cases hstart

namespace Machine

variable {machine : Machine} {seen : SecretStatus} {step : Step}

/-- A pass that forgets the key of the rescue system of a host on its way to the image takes the
host off this way. -/
theorem state_of_forgotten
    (hleaves : (machine.site.due machine.site.host.state).LeavesRecord)
    (hstate : machine.site.host.state.isReset = true)
    (hseen : machine.site.host.remembered .rescue = .ok (some seen))
    (hforgotten : (tick.runOn machine).2.site.host.remembered .rescue ≠ .ok (some seen)) :
    (tick.runOn machine).2.site.host.state ∈ [.none, .deprovisioning] := by
  obtain ⟨run, journal, -, hcourse, htick⟩ := exists_tick machine
  rw [htick] at hforgotten ⊢
  have hwritten := settledState_eq machine (fun host => congrArg HostRecord.state (hleaves host))
    hcourse
  change run.2.site.host.remembered .rescue ≠ _ at hforgotten
  change run.2.settledState ∈ _
  rcases hcourse.host_eq hleaves with ⟨-, hhost⟩ | ⟨hrequested, hteardown, hhost⟩
  · rw [hhost] at hforgotten
    exact absurd hseen hforgotten
  · rw [hwritten]
    apply Findings.verdict_of_rescueRotated hstate hrequested
    cases hkept : machine.findings.rescueRotated with
    | true => rfl
    | false =>
      have hremembered : (Pass.of machine.site).site.host.remembered .rescue ≠ .ok none := by
        rw [Pass.of, hseen]
        simp
      have hgate := Pass.remembered_rescue_checkCredentials machine.service machine.passName
        (Pass.of machine.site) hremembered hteardown hkept
      exact absurd ((congrArg _ hhost).trans (hgate.trans hseen)) hforgotten

/-- A step over which a host stays on its way to the image, and which lays no hand on its state.
A host is put anew only from a record whose fields hold what they are meant for. -/
structure Lingers (machine : Machine) (step : Step) : Prop where
  leavesCourse : step.LeavesCourse
  reload : step = .reload → machine.site.host.WellTyped
  before : machine.site.host.state.isReset = true
  behind : (machine.after step).site.host.state.isReset = true

/-- A step that calls an action only on a record with this key of the rescue system. -/
def CallsUnder (machine : Machine) (step : Step) (seen : SecretStatus) : Prop :=
  (machine.after step).site.calls = machine.site.calls ∨
  ∃ before : Pass,
    (Pass.decide machine.service machine.passName).runOn (Pass.of machine.site) =
      Pass.act.runOn before ∧
    before.site.calls = machine.site.calls ∧
    (machine.after step).site.calls = machine.site.calls ++ [before.start] ∧
    before.site.host.remembered .rescue = .ok (some seen)

theorem Lingers.remembered (h : machine.Lingers step)
    (hactions : machine.site.Scripted Behaviour.LeavesRecord)
    (hseen : machine.site.host.remembered .rescue = .ok (some seen)) :
    (machine.after step).site.host.remembered .rescue = .ok (some seen) := by
  by_cases hpass : step.IsPass
  · have hstate := h.behind
    rw [after_pass_site hpass] at hstate ⊢
    apply Classical.byContradiction
    intro hforgotten
    have hleft := state_of_forgotten (hactions.due (fun _ => rfl) _) h.before hseen hforgotten
    simp only [List.mem_cons, List.not_mem_nil, or_false] at hleft
    rcases hleft with hnone | hteardown
    · rw [hnone] at hstate
      cases hstate
    · rw [hteardown] at hstate
      cases hstate
  · exact ((kept_course h.leavesCourse hpass h.reload).remembered .rescue).trans hseen

/-- An action is called under the key that is remembered behind the pass. -/
theorem Lingers.callsUnder (h : machine.Lingers step)
    (hactions : machine.site.Scripted Behaviour.LeavesRecord)
    (hseen : (machine.after step).site.host.remembered .rescue = .ok (some seen)) :
    machine.CallsUnder step seen := by
  by_cases hpass : step.IsPass
  · obtain ⟨run, journal, hdecide, hcourse, htick⟩ := exists_tick machine
    rw [CallsUnder, hdecide]
    rw [after_pass_site hpass, htick] at hseen ⊢
    rcases hcourse.called (hactions.due (fun _ => rfl) _) with
      hcalls | ⟨before, hrun, hbefore, hcalls, hhost⟩
    · exact Or.inl hcalls
    · exact Or.inr ⟨before, hrun, hbefore, hcalls,
        (congrArg (HostRecord.remembered .rescue) hhost).symm.trans hseen⟩
  · exact Or.inl (kept_course h.leavesCourse hpass h.reload).calls

variable {start : Machine} {steps : List Step}

/-- Over a stretch of steps in which a host stays on its way to the image, the key that was seen
stays, and every action is called under it. -/
theorem rescue_key_run (hactions : start.site.Scripted Behaviour.LeavesRecord)
    (hseen : start.site.host.remembered .rescue = .ok (some seen))
    (hrun : Run Lingers start steps machine) :
    machine.site.Scripted Behaviour.LeavesRecord ∧
    machine.site.host.remembered .rescue = .ok (some seen) ∧
    Run (fun machine step => machine.Lingers step ∧ machine.CallsUnder step seen)
      start steps machine := by
  induction hrun with
  | nil => exact ⟨hactions, hseen, .nil⟩
  | @snoc steps machine run step allowed ih =>
    obtain ⟨hscripted, hremembered, hcalled⟩ := ih
    have hbehind := allowed.remembered hscripted hremembered
    have hunder := allowed.callsUnder hscripted hbehind
    exact ⟨scripted_course hscripted allowed.leavesCourse, hbehind,
      hcalled.snoc step ⟨allowed, hunder⟩⟩

/-- The key of the rescue system is frozen on the way to the image. A pass that starts and ends
on this way keeps the key that was seen before, and one that does not keep it ends in none or
in a teardown. So over every stretch of steps on this way, all actions are called under one and
the same key from the step on that has seen one. -/
theorem rescue_key_frozen (hactions : start.site.Scripted Behaviour.LeavesRecord) :
    (∀ seen, start.site.host.state.isReset = true →
      start.site.host.remembered .rescue = .ok (some seen) →
      let behind := (tick.runOn start).2.site.host
      (behind.state.isReset = true → behind.remembered .rescue = .ok (some seen)) ∧
      (behind.remembered .rescue ≠ .ok (some seen) → behind.state ∈ [.none, .deprovisioning])) ∧
    (∀ first steps machine seen, start.Lingers first →
      (start.after first).site.host.remembered .rescue = .ok (some seen) →
      Run Lingers (start.after first) steps machine →
      machine.site.host.remembered .rescue = .ok (some seen) ∧
      start.CallsUnder first seen ∧
      Run (fun machine step => machine.Lingers step ∧ machine.CallsUnder step seen)
        (start.after first) steps machine) := by
  constructor
  · intro seen hstate hseen behind
    have hforgotten := state_of_forgotten (hactions.due (fun _ => rfl) _) hstate hseen
    refine ⟨?_, hforgotten⟩
    intro hbehind
    have hlingers : start.Lingers .tick :=
      ⟨.pass .tick, nofun, hstate, by rw [after_tick]; exact hbehind⟩
    have hkept := hlingers.remembered hactions hseen
    rw [after_tick] at hkept
    exact hkept
  · intro first steps machine seen hfirst hseen hrun
    obtain ⟨-, hremembered, hcalled⟩ :=
      rescue_key_run (scripted_course hactions hfirst.leavesCourse) hseen hrun
    exact ⟨hremembered, hfirst.callsUnder hactions hseen, hcalled⟩

/-- A host under a key of the rescue system goes from its preparation to the installation of its
image in two passes, both under this key. -/
theorem rescue_key_frozen_preparing :
    let start := fresh { HostRecord.new (.str "host") with
      state := .preparing
      installImage := .known ⟨.str "image", .null⟩
      sshStatus := .known ⟨none, some ⟨.str "key", fingerprintValue []⟩⟩ }
    let final := (start.after .tick).after .tick
    start.site.Scripted Behaviour.LeavesRecord ∧
      final.site.host.state = .imageInstalling ∧ final.site.calls = [.preparing, .registering] ∧
      final.site.host.remembered .rescue = .ok (some ⟨.str "key", fingerprintValue []⟩) ∧
      start.CallsUnder .tick ⟨.str "key", fingerprintValue []⟩ ∧
      Run (fun machine step => machine.Lingers step ∧
        machine.CallsUnder step ⟨.str "key", fingerprintValue []⟩)
        (start.after .tick) [.tick] final := by
  intro start final
  have hactions : start.site.Scripted Behaviour.LeavesRecord := fun _ _ => nofun
  have hfirst : start.Lingers .tick := ⟨.pass .tick, nofun, rfl, rfl⟩
  have hsecond : (start.after .tick).Lingers .tick := ⟨.pass .tick, nofun, rfl, rfl⟩
  obtain ⟨-, hstretch⟩ := rescue_key_frozen hactions
  obtain ⟨hseen, hcalled, hrun⟩ :=
    hstretch .tick [.tick] final _ hfirst rfl (Run.nil.snoc .tick hsecond)
  exact ⟨hactions, rfl, rfl, hseen, hcalled, hrun⟩

end Machine

end HostLifecycle.Reconciliation
