import HostLifecycle.Proofs.Reconciliation.Course

/-!
When an action is called. A pass calls at most one action, that of the state in which it
started, and unless it is a teardown it calls it only behind everything that may keep the
host from going on: a requested deletion, a source that does not answer, a credential that
is not accepted or not recognized, and a withdrawn image.
-/

namespace HostLifecycle.Reconciliation

open Attempt

/-- What is settled about a host before the action of a state is called that is not torn
down: its deletion is not requested, the credentials were asked for once and were given
out, each of them that is not missing is accepted and recognized, and unless the host is
removed it has an image. -/
structure Admitted (service : Service) (site : Site) (before : Pass) : Prop where
  deletionRequested_eq : site.host.deletionRequested = false
  fetches_eq : before.site.fetches = site.fetches + 1
  cleared : ∃ fetched, site.answer = .ok fetched ∧
    Cleared service .os before.site.host fetched.1 ∧
    Cleared service .rescue before.site.host fetched.2
  image : site.host.state ≠ .deleting → before.site.host.isCancelled = false

theorem isCancellable_of_ne {state : State} (hnone : state ≠ .none)
    (hteardown : state ≠ .deprovisioning) (hdeleting : state ≠ .deleting) :
    isCancellable state = true := by
  cases state with
  | none => exact absurd rfl hnone
  | deprovisioning => exact absurd rfl hteardown
  | deleting => exact absurd rfl hdeleting
  | _ => rfl

namespace Pass

/-- The calls behind a pass, and what was settled before the call. -/
theorem Course.calls {service : Service} {logger : Text} {site : Site}
    {run : Except Fault Outcome × Pass} (h : Course service logger site run) :
    run.2.site.calls = site.calls ∨
    ∃ before : Pass, run = act.runOn before ∧ before.start = site.host.state ∧
      before.site.calls = site.calls ∧
      run.2.site.calls = site.calls ++ [site.host.state] ∧
      run.2.site.fetches = before.site.fetches ∧
      (site.host.state = .deprovisioning → before = Pass.of site) ∧
      (site.host.state ≠ .deprovisioning → Admitted service site before) := by
  cases h with
  | diverted => exact Or.inl rfl
  | suspended hrequested hstate hgate =>
    exact Or.inl (congrArg Setting.calls (gated_gate service logger hstate).setting_eq)
  | unhandled outcome journal hrequested hstate =>
    have hgated := gated_gate service logger (ne_deprovisioning_of_none hstate)
    exact Or.inl (congrArg Setting.calls hgated.setting_eq)
  | cancelled hrequested hstate =>
    have hgated := gated_gate service logger (ne_deprovisioning_of_isCancellable hstate)
    exact Or.inl (congrArg Setting.calls hgated.setting_eq)
  | tornDown hstate =>
    refine Or.inr ⟨Pass.of site, rfl, rfl, rfl, ?_, ?_, fun _ => rfl, absurd hstate⟩
    · rw [runOn_act]
      rfl
    · rw [runOn_act]
      rfl
  | acted hrequested hnone hstate hgate hkept =>
    have hgated := gated_gate service logger hstate
    have hstart : (gate service logger site).2.start = site.host.state := hgated.start_eq
    have hcalls : (gate service logger site).2.site.calls = site.calls :=
      congrArg Setting.calls hgated.setting_eq
    refine Or.inr ⟨(gate service logger site).2, rfl, hstart, hcalls,
      calls_act_gate service logger hstate, ?_, fun heq => absurd heq hstate, fun _ => ?_⟩
    · rw [runOn_act]
      rfl
    · have hfetched := hgated.cleared ((completes_iff _).mp hgate)
      refine ⟨hrequested, congrArg Setting.fetches hgated.setting_eq, hfetched, ?_⟩
      intro hdeleting
      have himage := isCancelled_gate service logger hstate
      exact himage.trans (hkept (isCancellable_of_ne hnone hstate hdeleting))

end Pass

/-- A pass over the host fails closed. It calls no action, or it calls that of the state in
which the host was. A teardown is called on the host as it was, with no credential asked
for; every other action is called only once the host is admitted to it. -/
theorem Machine.tick_calls (machine : Machine) :
    (tick.runOn machine).2.site.calls = machine.site.calls ∨
    ∃ before : Pass,
      (Pass.decide machine.service machine.passName).runOn (Pass.of machine.site) =
        Pass.act.runOn before ∧
      before.start = machine.site.host.state ∧
      before.site.calls = machine.site.calls ∧
      (tick.runOn machine).2.site.calls = machine.site.calls ++ [machine.site.host.state] ∧
      (tick.runOn machine).2.site.fetches = before.site.fetches ∧
      (machine.site.host.state = .deprovisioning → before = Pass.of machine.site) ∧
      (machine.site.host.state ≠ .deprovisioning →
        Admitted machine.service machine.site before) := by
  obtain ⟨run, journal, hdecide, hcourse, htick⟩ := exists_tick machine
  rw [htick, hdecide]
  rcases hcourse.calls with hcalls | ⟨before, hrun, hstart, hbefore, hcalls, hfetches, hrest⟩
  · exact Or.inl hcalls
  · exact Or.inr ⟨before, hrun, hstart, hbefore, hcalls, hfetches, hrest⟩

end HostLifecycle.Reconciliation
