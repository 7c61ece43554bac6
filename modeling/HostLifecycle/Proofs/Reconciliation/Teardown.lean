import HostLifecycle.Proofs.Reconciliation.Run

/-!
Hosts whose deletion was requested. Every pass moves such a host on towards its deletion or
leaves it where it is; it asks for no credential, and it calls no action but the one that
tears the host down. So along a run the states never move back, and once the host is being
deleted it stays so.
-/

namespace HostLifecycle

open Attempt

namespace State

/-- How far a host is on the way to its deletion. -/
def teardownRank : State → Nat
  | deprovisioning => 1
  | none => 2
  | deleting => 3
  | _ => 0

/-- Where a requested deletion moves a host in one step. -/
inductive Descends : State → State → Prop where
  | stay (state : State) : Descends state state
  | teardown {state : State} (hactive : state.isActive = true) : Descends state deprovisioning
  | cleared : Descends deprovisioning none
  | removed {state : State} (hidle : state = none ∨ state = preparing) : Descends state deleting

theorem Descends.rank_le {before after : State} (h : Descends before after) :
    before.teardownRank ≤ after.teardownRank := by
  cases h with
  | stay => exact Nat.le_refl _
  | teardown hactive => cases before <;> simp_all [isActive, teardownRank]
  | cleared => decide
  | removed hidle => rcases hidle with rfl | rfl <;> decide

/-- A host that is not torn down goes straight to its deletion. -/
theorem Descends.straight {before after : State} (h : Descends before after)
    (hbefore : before ∈ [none, preparing, deleting]) : after ∈ [none, preparing, deleting] := by
  cases h with
  | stay => exact hbefore
  | teardown hactive => cases before <;> simp_all [isActive]
  | cleared => exact absurd hbefore (by decide)
  | removed => decide

theorem eq_deleting_of_rank {state : State} (h : 3 ≤ state.teardownRank) : state = deleting := by
  cases state with
  | deleting => rfl
  | _ => exact absurd h (by decide)

theorem mem_of_rank {state : State} (h : 1 ≤ state.teardownRank) :
    state ∈ [deprovisioning, none, deleting] := by
  cases state with
  | deprovisioning | none | deleting => decide
  | _ => exact absurd h (by decide)

end State

namespace Reconciliation

theorem descends_of_diversion {before after : State} (h : diversion? before = some after) :
    before.Descends after ∧ 1 ≤ after.teardownRank := by
  cases before with
  | deprovisioning => cases h
  | none | preparing => cases h; exact ⟨.removed (by decide), by decide⟩
  | deleting => cases h; exact ⟨.stay _, by decide⟩
  | _ => cases h; exact ⟨.teardown rfl, by decide⟩

/-- How a host whose deletion was requested goes on: it moves on towards its deletion or
stays where it is, and of everything else about it nothing changes. Only the message of its
last error may be put together anew, if it is read back as another text. -/
structure Site.Dismantled (site after : Site) : Prop where
  sound : after.Sound
  deletionRequested : after.host.deletionRequested = true
  rank_le : site.host.state.teardownRank ≤ after.host.state.teardownRank
  straight : site.host.state ∈ [.none, .preparing, .deleting] →
    after.host.state ∈ [.none, .preparing, .deleting]
  sshStatus : after.host.sshStatus = site.host.sshStatus
  errorType : after.host.errorType = site.host.errorType
  errorMessage : site.host.errorMessage.joinedText = site.host.errorMessage →
    after.host.errorMessage = site.host.errorMessage
  errorCount : after.host.errorCount = site.host.errorCount
  recorder : after.trail.recorder = site.trail.recorder
  disk : after.trail.around.disk = site.trail.around.disk
  fetches : after.fetches = site.fetches

/-- A pass that has touched neither the record nor the audit trail only writes a state. -/
theorem Site.dismantled_settled {site : Site} {pass : Pass} (journal : List Logging.LogEntry)
    (hsound : pass.site.Sound) (hhost : pass.site.host = site.host)
    (hrecorder : pass.site.trail.recorder = site.trail.recorder)
    (hdisk : pass.site.trail.around.disk = site.trail.around.disk)
    (hfetches : pass.site.fetches = site.fetches)
    (hrequested : site.host.deletionRequested = true)
    (hdescends : site.host.state.Descends pass.settledState) :
    site.Dismantled (pass.settled journal) := by
  have hwritten : (pass.settled journal).host =
      { site.host with state := pass.settledState } := by
    rw [← hhost]
    rfl
  refine ⟨hsound.settled journal, ?_, ?_, ?_, ?_, ?_, ?_, ?_, hrecorder, hdisk, hfetches⟩ <;>
    rw [hwritten]
  · exact hrequested
  · exact hdescends.rank_le
  · exact hdescends.straight
  · exact fun _ => rfl

/-- A host that is kept where it is goes on with its deletion later. -/
theorem Site.Kept.dismantled {site after : Site} (h : site.Kept after) (hsound : after.Sound)
    (hrequested : site.host.deletionRequested = true) : site.Dismantled after := by
  refine ⟨hsound, h.deletionRequested hrequested, ?_, ?_, h.sshStatus, h.errorType, ?_,
    h.errorCount, congrArg Audit.Trail.recorder h.trail,
    congrArg (·.around.disk) h.trail, h.fetches⟩
  · exact Nat.le_of_eq (congrArg State.teardownRank h.state.symm)
  · rw [h.state]
    exact id
  · intro hmessage
    rcases h.errorMessage with hsame | hjoined
    · exact hsame
    · exact hjoined.trans hmessage

theorem Site.Dismantled.refl {site : Site} (hsound : site.Sound)
    (hrequested : site.host.deletionRequested = true) : site.Dismantled site :=
  ⟨hsound, hrequested, Nat.le_refl _, id, rfl, rfl, fun _ => rfl, rfl, rfl, rfl, rfl⟩

theorem Site.Dismantled.trans {site middle after : Site} (h : site.Dismantled middle)
    (h' : middle.Dismantled after) : site.Dismantled after where
  sound := h'.sound
  deletionRequested := h'.deletionRequested
  rank_le := Nat.le_trans h.rank_le h'.rank_le
  straight hsite := h'.straight (h.straight hsite)
  sshStatus := h'.sshStatus.trans h.sshStatus
  errorType := h'.errorType.trans h.errorType
  errorMessage hmessage := by
    have hmiddle := h.errorMessage hmessage
    exact (h'.errorMessage (by rw [hmiddle, hmessage])).trans hmiddle
  errorCount := h'.errorCount.trans h.errorCount
  recorder := h'.recorder.trans h.recorder
  disk := h'.disk.trans h.disk
  fetches := h'.fetches.trans h.fetches

namespace Machine

variable {machine : Machine}

/-- A pass over a host whose deletion was requested diverts it, or calls the action of its
teardown and nothing else. -/
theorem dismantled_tick (hsound : machine.site.Sound)
    (hrequested : machine.site.host.deletionRequested = true) :
    machine.site.Dismantled (tick.runOn machine).2.site ∧
      1 ≤ (tick.runOn machine).2.site.host.state.teardownRank ∧
      (tick.runOn machine).2.site.calls = machine.site.calls ++
        if machine.site.host.state = .deprovisioning then [.deprovisioning] else [] := by
  obtain ⟨run, journal, -, hcourse, htick⟩ := exists_tick machine
  rw [htick]
  cases hcourse with
  | diverted state before _ hdiversion =>
    obtain ⟨hdescends, hrank⟩ := descends_of_diversion hdiversion
    have hwritten : Pass.settledState ⟨machine.site.withJournal before, machine.site.host.state,
        state⟩ = state := Pass.settledState_eq_next rfl
    have hstate : machine.site.host.state ≠ .deprovisioning := by
      intro heq
      rw [heq] at hdiversion
      cases hdiversion
    refine ⟨Site.dismantled_settled journal ⟨hsound.record, hsound.actions⟩ rfl rfl rfl rfl
      hrequested ?_, ?_, ?_⟩
    · rw [hwritten]
      exact hdescends
    · change 1 ≤ (Pass.settledState _).teardownRank
      rw [hwritten]
      exact hrank
    · rw [if_neg hstate, List.append_nil]
      rfl
  | tornDown hstate =>
    obtain ⟨hhost, hsound'⟩ := hsound.acted .deprovisioning
    have hwritten : (Pass.of machine.site).acted.settledState = .none ∨
        (Pass.of machine.site).acted.settledState = .deprovisioning := by
      have hleaves := hsound.due_leaves machine.site.host.state
      rw [Pass.settledState_of_tornDown hstate fun host => congrArg HostRecord.state (hleaves host)]
      split
      · exact Or.inl rfl
      · exact Or.inr rfl
    rw [Pass.runOn_act]
    have hacted : (Pass.of machine.site).acted.site = machine.site.acted .deprovisioning :=
      congrArg machine.site.acted hstate
    refine ⟨Site.dismantled_settled journal (hacted ▸ hsound') (hacted ▸ hhost) rfl rfl rfl
      hrequested ?_, ?_, ?_⟩
    · rcases hwritten with hwritten | hwritten <;> rw [hwritten, hstate]
      · exact .cleared
      · exact .stay _
    · change 1 ≤ (Pass.settledState _).teardownRank
      rcases hwritten with hwritten | hwritten <;> rw [hwritten] <;> decide
    · change machine.site.calls ++ [machine.site.host.state] = _
      rw [hstate, if_pos rfl]
  | suspended hkept | unhandled _ _ hkept | cancelled hkept | acted hkept =>
    rw [hrequested] at hkept
    cases hkept

/-- What one step does to a host whose deletion was requested. -/
theorem dismantled_after (hsound : machine.site.Sound)
    (hrequested : machine.site.host.deletionRequested = true)
    {step : Step} (hstep : step.LeavesCourse) :
    machine.site.Dismantled (machine.after step).site := by
  cases hstep with
  | pass hpass =>
    rw [after_pass_site hpass]
    exact (dismantled_tick hsound hrequested).1
  | routine hroutine =>
    obtain ⟨hkept, hsound'⟩ := kept_of_isRoutine hsound hroutine
    exact hkept.dismantled hsound' hrequested
  | offer change =>
    obtain ⟨hkept, hsound'⟩ := kept_offer hsound change
    exact hkept.dismantled hsound' hrequested

/-- What one step calls in a host whose deletion was requested: a pass calls the action of the
teardown if it starts in one, and nothing else is called. -/
theorem calls_after (hsound : machine.site.Sound)
    (hrequested : machine.site.host.deletionRequested = true) {step : Step}
    (hstep : step.LeavesCourse) :
    (step.IsPass → (machine.after step).site.calls = machine.site.calls ++
      if machine.site.host.state = .deprovisioning then [.deprovisioning] else []) ∧
    (¬ step.IsPass → (machine.after step).site.calls = machine.site.calls) := by
  refine ⟨fun hpass => ?_, fun hpass => ?_⟩
  · rw [after_pass_site hpass]
    exact (dismantled_tick hsound hrequested).2.2
  · cases hstep with
    | pass h => exact absurd h hpass
    | routine hroutine => exact (kept_of_isRoutine hsound hroutine).1.calls
    | offer change => exact (kept_offer hsound change).1.calls

variable {start : Machine} {steps : List Step}

/-- What a whole run does to a host whose deletion was requested. -/
theorem dismantled_run (hsound : start.site.Sound)
    (hrequested : start.site.host.deletionRequested = true)
    (hrun : Run (fun _ step => step.LeavesCourse) start steps machine) :
    start.site.Dismantled machine.site := by
  induction hrun with
  | nil => exact .refl hsound hrequested
  | snoc run step allowed ih =>
    exact ih.trans (dismantled_after ih.sound ih.deletionRequested allowed)

/-- Once a pass was made the host is on the way to its deletion. -/
theorem rank_of_pass (hsound : start.site.Sound)
    (hrequested : start.site.host.deletionRequested = true)
    (hrun : Run (fun _ step => step.LeavesCourse) start steps machine)
    (hpassed : ∃ step ∈ steps, step.IsPass) : 1 ≤ machine.site.host.state.teardownRank := by
  induction hrun with
  | nil =>
    obtain ⟨step, hmember, -⟩ := hpassed
    cases hmember
  | snoc run step allowed ih =>
    have hbefore := dismantled_run hsound hrequested run
    obtain ⟨other, hmember, hpass⟩ := hpassed
    rcases List.mem_append.mp hmember with hmember | hmember
    · have hstep := dismantled_after hbefore.sound hbefore.deletionRequested allowed
      exact Nat.le_trans (ih ⟨other, hmember, hpass⟩) hstep.rank_le
    · rw [List.mem_singleton.mp hmember] at hpass
      rw [after_pass_site hpass]
      exact (dismantled_tick hbefore.sound hbefore.deletionRequested).2.1

/-- A requested deletion is a way of no return. Along every run of steps that lay no hand on
the state the host never moves back; once a pass was made it is torn down, cleared or
deleted, and a host that is being deleted stays so. No credential is asked for, and nothing
is called but the action of the teardown, once in every pass that starts in it. What is
remembered of the credentials, the last error and the audit trail never change, where the
message of the error and, in a sound host, what is remembered of the credentials are read back as
they were written, which only a pair that is split into its halves is not. A host with nothing to
tear down is not torn down later. -/
theorem teardown_one_way (hsound : start.site.Sound)
    (hrequested : start.site.host.deletionRequested = true)
    (hrun : Run (fun _ step => step.LeavesCourse) start steps machine)
    {rest : List Step} {final : Machine}
    (hrest : Run (fun _ step => step.LeavesCourse) machine rest final) :
    machine.site.host.state.teardownRank ≤ final.site.host.state.teardownRank ∧
    ((∃ step ∈ steps, step.IsPass) →
      machine.site.host.state ∈ [.deprovisioning, .none, .deleting]) ∧
    (machine.site.host.state = .deleting → final.site.host.state = .deleting) ∧
    (machine.site.host.state ∈ [.none, .preparing] →
      final.site.host.state ≠ .deprovisioning) ∧
    machine.site.fetches = start.site.fetches ∧
    (∀ step, step.LeavesCourse →
      (step.IsPass → (machine.after step).site.calls = machine.site.calls ++
        if machine.site.host.state = .deprovisioning then [.deprovisioning] else []) ∧
      (¬ step.IsPass → (machine.after step).site.calls = machine.site.calls)) ∧
    machine.site.host.sshStatus = start.site.host.sshStatus ∧
    machine.site.host.errorType = start.site.host.errorType ∧
    (start.site.host.errorMessage.joinedText = start.site.host.errorMessage →
      machine.site.host.errorMessage = start.site.host.errorMessage) ∧
    machine.site.host.errorCount = start.site.host.errorCount ∧
    machine.site.trail.recorder = start.site.trail.recorder ∧
    machine.site.trail.around.disk = start.site.trail.around.disk := by
  have hbehind := dismantled_run hsound hrequested hrun
  have hfinal := dismantled_run hbehind.sound hbehind.deletionRequested hrest
  refine ⟨hfinal.rank_le, ?_, ?_, ?_, hbehind.fetches, ?_, hbehind.sshStatus,
    hbehind.errorType, hbehind.errorMessage, hbehind.errorCount, hbehind.recorder,
    hbehind.disk⟩
  · intro hpassed
    exact State.mem_of_rank (rank_of_pass hsound hrequested hrun hpassed)
  · intro hdeleting
    have hrank := hfinal.rank_le
    rw [hdeleting] at hrank
    exact State.eq_deleting_of_rank hrank
  · intro hidle hteardown
    have hmember : machine.site.host.state ∈ [State.none, .preparing] ++ [.deleting] :=
      List.mem_append_left _ hidle
    have hstraight := hfinal.straight hmember
    rw [hteardown] at hstraight
    exact absurd hstraight (by decide)
  · intro step hstep
    exact calls_after hbehind.sound hbehind.deletionRequested hstep

/-- A host whose deletion is requested during its registration is on the way to its deletion
after one pass. -/
theorem teardown_one_way_registering :
    ((fresh { HostRecord.new (.str "host") with
      state := .registering, deletionRequested := true }).after .tick).site.host.state ∈
        [.deprovisioning, .none, .deleting] := by
  have hsound : (fresh { HostRecord.new (.str "host") with
      state := .registering, deletionRequested := true }).site.Sound :=
    Site.sound_fresh ((HostRecord.wellTyped_new "host").atState .registering true)
  exact (teardown_one_way hsound rfl (Run.nil.snoc .tick (.pass .tick)) .nil).2.1
    ⟨.tick, List.mem_singleton.mpr rfl, .tick⟩

end Machine

end Reconciliation

end HostLifecycle
