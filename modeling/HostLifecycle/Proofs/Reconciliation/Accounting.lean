import HostLifecycle.Proofs.Reconciliation.Failing
import HostLifecycle.Proofs.Reconciliation.Run

/-!
The account of terminal failures along a run. Every pass that meets a failure ends in it, counts
it once and tells it in two warnings; every other pass leaves the last error, the count of the
errors and the audit trail as they are. So at any time the count has grown by the number of
failures met, and the trail by twice that number.
-/

namespace HostLifecycle.Reconciliation

open Attempt Audit

theorem ledger_settled (pass : Pass) (journal : List Logging.LogEntry) :
    (pass.settled journal).ledger = pass.site.ledger := rfl

/-- An action that leaves the record alone leaves the ledger alone. -/
theorem ledger_acted (pass : Pass) (hleaves : (pass.site.due pass.start).LeavesRecord) :
    pass.acted.site.ledger = pass.site.ledger := by
  have hhost : pass.acted.site.host = pass.site.host := hleaves pass.site.host
  rw [Site.ledger, hhost]
  rfl

/-- Only a look that meets nothing completes. -/
theorem Booked.eq_clear {sight : Sight} {before after : Ledger} {result : Except Fault Outcome}
    (h : Booked sight before result after) (hcompletes : completes result = true) :
    sight = .clear := by
  rw [completes_iff] at hcompletes
  cases sight with
  | clear => rfl
  | blocked => exact absurd hcompletes h.shows
  | failing failure =>
    have hresult : result = .ok failure.outcome := h.shows
    rw [hresult] at hcompletes
    cases hcompletes

theorem Booked.shows_of_failure {sight : Sight} {before after : Ledger}
    {result : Except Fault Outcome} (h : Booked sight before result after) {failure : Failure}
    (hfailure : sight.failure? = some failure) : result = .ok failure.outcome := by
  cases sight with
  | clear => cases hfailure
  | blocked => cases hfailure
  | failing met =>
    obtain rfl : met = failure := Option.some.inj hfailure
    exact h.shows

namespace Machine

variable {machine : Machine}

theorem sight_of_requested (h : machine.site.host.deletionRequested = true) :
    machine.sight = .clear := by
  simp [sight, h]

theorem sight_of_deprovisioning (h : machine.site.host.state = .deprovisioning) :
    machine.sight = .clear := by
  simp [sight, h]

/-- The look at the credentials with which a pass begins enters the failure that it meets. -/
theorem booked_gate (hreal : ∀ kind, machine.service.judgement kind = none)
    (htakes : machine.site.ledger.TakesFailures)
    (hroom : machine.sight.failure?.isSome → machine.site.trail.recorder.HasRoom 2)
    (hrequested : machine.site.host.deletionRequested = false)
    (hstate : machine.site.host.state ≠ .deprovisioning) :
    Booked machine.sight machine.site.ledger
      (Pass.gate machine.service machine.passName machine.site).1
      (Pass.gate machine.service machine.passName machine.site).2.site.ledger := by
  cases hanswer : machine.site.answer with
  | error fault =>
    have hsight : machine.sight = .blocked := by simp [sight, hrequested, hstate, hanswer]
    obtain ⟨result, hresult, hrun⟩ := Pass.runOn_checkCredentials_of_fault machine.service
      machine.passName (Pass.of machine.site) hstate hanswer
    rw [hsight, Pass.gate, hrun]
    exact ⟨hresult, .none⟩
  | ok fetched =>
    have hsight : machine.sight =
        machine.service.sightOfBoth machine.site.host.state machine.site.host fetched := by
      simp [sight, hrequested, hstate, hanswer]
    rw [hsight] at hroom
    rw [hsight, Pass.gate, Pass.runOn_checkCredentials_of_answer machine.service machine.passName
      (Pass.of machine.site) hstate hanswer]
    exact Pass.booked_checkBoth machine.passName hreal (Pass.of machine.site).behindFetch htakes
      hroom

/-- A pass that meets a failure ends in it and enters it, and every other pass leaves the ledger
as it is. -/
theorem booked_tick (hreal : ∀ kind, machine.service.judgement kind = none)
    (htakes : machine.site.ledger.TakesFailures)
    (hleaves : (machine.site.due machine.site.host.state).LeavesRecord)
    (hroom : machine.sight.failure?.isSome → machine.site.trail.recorder.HasRoom 2) :
    (∀ failure, machine.sight.failure? = some failure →
      (tick.runOn machine).1 = .ok failure.outcome) ∧
    machine.site.ledger.Entered machine.sight.failure? (tick.runOn machine).2.site.ledger := by
  obtain ⟨run, journal, -, hcourse, htick⟩ := exists_tick machine
  rw [htick, ledger_settled]
  have hgate := booked_gate hreal htakes hroom
  cases hcourse with
  | diverted _ _ hrequested =>
    rw [sight_of_requested hrequested]
    exact ⟨by simp [Sight.failure?], .none⟩
  | tornDown hstate =>
    have hledger := ledger_acted (Pass.of machine.site) hleaves
    rw [sight_of_deprovisioning hstate, Pass.runOn_act, hledger]
    exact ⟨by simp [Sight.failure?], .none⟩
  | suspended hrequested hstate =>
    have hbooked := hgate hrequested hstate
    refine ⟨fun failure hfailure => ?_, hbooked.entered⟩
    exact hbooked.shows_of_failure hfailure
  | unhandled _ _ hrequested hnone hcompletes =>
    have hbooked := hgate hrequested (ne_deprovisioning_of_none hnone)
    have hclear := hbooked.eq_clear hcompletes
    exact ⟨by simp [hclear, Sight.failure?], hbooked.entered⟩
  | cancelled hrequested hcancellable hcompletes =>
    have hbooked := hgate hrequested (ne_deprovisioning_of_isCancellable hcancellable)
    have hclear := hbooked.eq_clear hcompletes
    exact ⟨by simp [hclear, Sight.failure?], hbooked.entered⟩
  | acted hrequested _ hstate hcompletes =>
    have hbooked := hgate hrequested hstate
    have hclear := hbooked.eq_clear hcompletes
    have hdue := Pass.due_gate machine.service machine.passName hstate
    have hledger := ledger_acted _ (hdue ▸ hleaves)
    rw [Pass.runOn_act, hledger]
    exact ⟨by simp [hclear, Sight.failure?], hbooked.entered⟩

/-- No pass writes the name of the host, its marker or its image. -/
theorem marks_tick (hleaves : (machine.site.due machine.site.host.state).LeavesRecord) :
    (tick.runOn machine).2.site.host.name = machine.site.host.name ∧
    (tick.runOn machine).2.site.host.deletionRequested = machine.site.host.deletionRequested ∧
    (tick.runOn machine).2.site.host.installImage = machine.site.host.installImage := by
  obtain ⟨run, journal, -, hcourse, htick⟩ := exists_tick machine
  have hwritten : (run.2.settled journal).host =
      { run.2.site.host with state := run.2.settledState } := rfl
  rw [htick, hwritten]
  rcases hcourse.host_eq hleaves with ⟨-, hhost⟩ | ⟨-, hstate, hhost⟩
  · rw [hhost]
    exact ⟨rfl, rfl, rfl⟩
  · have hsetting := (Pass.gated_gate machine.service machine.passName hstate).setting_eq
    rw [hhost]
    exact ⟨congrArg Setting.name hsetting, congrArg Setting.deletionRequested hsetting,
      congrArg Setting.installImage hsetting⟩

end Machine

namespace Step

/-- A step that enters nothing but the failures of passes: a pass, a change of what the actions,
the provider or the process hold out, a request of the deletion, or another image. -/
inductive SparesLedger : Step → Prop where
  | pass {step : Step} (hpass : step.IsPass) : SparesLedger step
  | script (state : State) (behaviours : List Behaviour)
      (hleaves : ∀ behaviour ∈ behaviours, behaviour.LeavesRecord) :
    SparesLedger (.script state behaviours)
  | offer (change : Offer → Offer) : SparesLedger (.offer change)
  | require (keys : Value) : SparesLedger (.require keys)
  | setVariables (change : Settings.Environment → Settings.Environment) :
    SparesLedger (.setVariables change)
  | requestDeletion : SparesLedger (.edit .requestDeletion)
  | setImage (value : Value) : SparesLedger (.edit (.assign "install_image" value))

def met (machine : Machine) : Step → Option Failure
  | tick => machine.sight.failure?
  | tickOnce => machine.sight.failure?
  | _ => none

theorem met_of_isPass {step : Step} (hpass : step.IsPass) (machine : Machine) :
    step.met machine = machine.sight.failure? := by
  cases hpass <;> rfl

end Step

namespace Machine

def failures (start : Machine) : List Step → List Failure
  | [] => []
  | step :: rest => (step.met start).toList ++ failures (start.after step) rest

/-- A machine in which every failure of a pass can be entered: nothing stands in place of the
usual judgement, and the actions leave the record alone. -/
structure Accountable (machine : Machine) : Prop where
  judgement : ∀ kind, machine.service.judgement kind = none
  ledger : machine.site.ledger.TakesFailures
  actions : machine.site.Scripted Behaviour.LeavesRecord

variable {machine start : Machine} {steps : List Step} {step : Step}

theorem failures_append_singleton (start : Machine) (steps : List Step) (step : Step) :
    failures start (steps ++ [step]) =
      failures start steps ++ (step.met (steps.foldl Machine.after start)).toList := by
  induction steps generalizing start with
  | nil => simp [failures]
  | cons first rest ih =>
    simp only [List.cons_append, failures, List.foldl_cons, ih, List.append_assoc]

theorem failures_snoc {rule : Machine → Step → Prop} (hrun : Run rule start steps machine)
    (step : Step) :
    failures start (steps ++ [step]) = failures start steps ++ (step.met machine).toList := by
  rw [failures_append_singleton, ← hrun.eq_foldl]

theorem met_of_not_isPass (hpass : ¬ step.IsPass) (machine : Machine) :
    step.met machine = none := by
  cases step with
  | tick => exact absurd .tick hpass
  | tickOnce => exact absurd .tickOnce hpass
  | _ => rfl

/-- A step beside the passes leaves the ledger as it is. -/
theorem ledger_of_not_isPass (h : machine.Accountable) (hstep : step.SparesLedger)
    (hpass : ¬ step.IsPass) :
    (machine.after step).Accountable ∧ (machine.after step).site.ledger = machine.site.ledger := by
  cases hstep with
  | pass hpass' => exact absurd hpass' hpass
  | script state behaviours hleaves =>
    exact ⟨⟨h.judgement, h.ledger, scripted_script h.actions state hleaves⟩, rfl⟩
  | offer change =>
    obtain ⟨source, hafter⟩ := after_offer machine change
    rw [hafter]
    exact ⟨⟨h.judgement, h.ledger, h.actions⟩, rfl⟩
  | require keys =>
    have hjudgement : (machine.after (.require keys)).service.judgement =
        machine.service.judgement := by
      rw [after, Step.perform, require]
      cases keys.parts? <;> rfl
    rw [site_require]
    exact ⟨⟨hjudgement ▸ h.judgement, site_require machine keys ▸ h.ledger,
      site_require machine keys ▸ h.actions⟩, rfl⟩
  | setVariables => exact ⟨⟨h.judgement, h.ledger, h.actions⟩, rfl⟩
  | requestDeletion =>
    obtain ⟨marker, -, hafter⟩ := after_requestDeletion machine
    rw [hafter]
    exact ⟨⟨h.judgement, h.ledger, h.actions⟩, rfl⟩
  | setImage value =>
    obtain ⟨image, -, hafter⟩ := after_setImage machine value
    rw [hafter]
    exact ⟨⟨h.judgement, h.ledger, h.actions⟩, rfl⟩

/-- Every step enters the failure that it meets and nothing else. -/
theorem entered_after (h : machine.Accountable) (hstep : step.SparesLedger)
    (hroom : (step.met machine).isSome → machine.site.trail.recorder.HasRoom 2) :
    (machine.after step).Accountable ∧
      machine.site.ledger.Entered (step.met machine) (machine.after step).site.ledger := by
  by_cases hpass : step.IsPass
  · have hmet := Step.met_of_isPass hpass machine
    have hdue : (machine.site.due machine.site.host.state).LeavesRecord :=
      h.actions.due (fun _ => rfl) _
    have hentered := (booked_tick h.judgement h.ledger hdue (hmet ▸ hroom)).2
    rw [← hmet, ← after_pass_site hpass] at hentered
    refine ⟨⟨?_, hentered.takesFailures h.ledger, scripted_pass h.actions hpass⟩, hentered⟩
    rw [after_pass_service hpass]
    exact h.judgement
  · obtain ⟨hafter, hledger⟩ := ledger_of_not_isPass h hstep hpass
    rw [met_of_not_isPass hpass, hledger]
    exact ⟨hafter, .none⟩

/-- A pass answers what it ends with. -/
theorem result_of_isPass (hpass : step.IsPass) (machine : Machine) :
    (step.perform.runOn machine).1 = (tick.runOn machine).1.map .ended := by
  cases hpass with
  | tick =>
    rw [Step.perform, runOn_bind]
    rcases tick.runOn machine with ⟨fault | outcome, changed⟩ <;> rfl
  | tickOnce =>
    have hresult : (tickOnce.runOn machine).1 = (tick.runOn machine).1 := rfl
    rw [← hresult, Step.perform, runOn_bind]
    rcases tickOnce.runOn machine with ⟨fault | outcome, changed⟩ <;> rfl

/-- The ledger behind a run in which failures were met: the errors are counted by their number,
and each is told twice. -/
structure Tallied (before : Ledger) (met : List Failure) (after : Ledger) : Prop where
  name : after.name = before.name
  capacity : after.recorder.capacity = before.recorder.capacity
  errorCount : ∃ count : Int, before.errorCount = .int count ∧
    after.errorCount = .int (count + met.length)
  events : ∃ told, after.recorder.events = before.recorder.events ++ told ∧
    told.length = 2 * met.length

theorem Tallied.entered {before middle after : Ledger} {met : List Failure}
    {failure : Option Failure} (h : Tallied before met middle)
    (hentered : middle.Entered failure after) :
    Tallied before (met ++ failure.toList) after := by
  obtain ⟨count, hbefore, hmiddle⟩ := h.errorCount
  obtain ⟨told, htold, hlength⟩ := h.events
  cases hentered with
  | none => simpa using h
  | @some failure _ shown first second hcount _ =>
    rw [hmiddle] at hcount
    obtain rfl := Value.int.inj hcount
    refine ⟨h.name, h.capacity, ⟨count, hbefore, ?_⟩,
      told ++ middle.events failure shown first second, ?_, ?_⟩
    · simp [Int.add_assoc]
    · simp [Recorder.holding, htold]
    · simp [Ledger.events, hlength]
      omega

def RoomFor (start : Machine) (met : List Failure) : Prop :=
  start.site.trail.recorder.HasRoom (2 * met.length)

/-- Where there was room for all failures, there is room for the last one behind the others. -/
theorem RoomFor.behind {met : List Failure} {failure : Option Failure}
    (hroom : start.RoomFor (met ++ failure.toList))
    (h : Tallied start.site.ledger met machine.site.ledger) :
    failure.isSome → machine.site.trail.recorder.HasRoom 2 := by
  intro hsome capacity hcapacity
  obtain ⟨told, htold, hlength⟩ := h.events
  have hstart : start.site.trail.recorder.capacity = some capacity :=
    h.capacity.symm.trans hcapacity
  have hbound := hroom capacity hstart
  have hevents : machine.site.trail.recorder.events.length =
      start.site.trail.recorder.events.length + 2 * met.length := by
    have hcount := congrArg List.length htold
    rw [List.length_append, hlength] at hcount
    exact hcount
  obtain ⟨met', rfl⟩ := Option.isSome_iff_exists.mp hsome
  simp only [List.length_append, Option.toList_some, List.length_singleton] at hbound
  omega

/-- What a whole run enters. -/
theorem tallied_run (h : start.Accountable)
    (hrun : Run (fun _ step => step.SparesLedger) start steps machine)
    (hroom : start.RoomFor (failures start steps)) :
    machine.Accountable ∧
      Tallied start.site.ledger (failures start steps) machine.site.ledger := by
  induction hrun with
  | nil =>
    obtain ⟨count, hcount⟩ := h.ledger.errorCount
    refine ⟨h, rfl, rfl, ⟨count, hcount, ?_⟩, [], ?_, rfl⟩
    · simpa [failures] using hcount
    · simp
  | @snoc steps machine run step allowed ih =>
    rw [failures_snoc run] at hroom ⊢
    -- room for the events of the longer run is room for those of the shorter one
    have hbefore : start.RoomFor (failures start steps) := by
      intro capacity hcapacity
      have hbound := hroom capacity hcapacity
      rw [List.length_append] at hbound
      omega
    obtain ⟨haccountable, htallied⟩ := ih hbefore
    obtain ⟨hafter, hentered⟩ := entered_after haccountable allowed (hroom.behind htallied)
    exact ⟨hafter, htallied.entered hentered⟩

/-- Terminal failures, the count of the errors and the audit trail agree. Along every run in
which the credentials are judged as usual, the actions leave the record alone and the trail is
in memory with room for what is told, the errors have grown by the number of failures met and
the trail by twice that number. The next pass ends fatally in the failure that it meets, which
is a changed credential of a provisioned host or one that cannot be used, and enters it: its
class, its message, one more error and two warnings about this host, both with the message as
it is shown. A pass that meets none leaves all of this as it is, and no pass writes the name of
the host, its marker or its image. -/
theorem failures_accounted (h : start.Accountable)
    (hrun : Run (fun _ step => step.SparesLedger) start steps machine)
    (hroom : start.RoomFor (failures start steps)) :
    Tallied start.site.ledger (failures start steps) machine.site.ledger ∧
    ∀ step : Step, step.IsPass → start.RoomFor (failures start (steps ++ [step])) →
      (∀ failure, machine.sight.failure? = some failure →
        (step.perform.runOn machine).1 = .ok (.ended failure.outcome) ∧
        failure.outcome.isFatal = true ∧ machine.Meets failure) ∧
      machine.site.ledger.Entered machine.sight.failure? (machine.after step).site.ledger ∧
      (machine.after step).site.host.name = machine.site.host.name ∧
      (machine.after step).site.host.deletionRequested = machine.site.host.deletionRequested ∧
      (machine.after step).site.host.installImage = machine.site.host.installImage := by
  obtain ⟨haccountable, htallied⟩ := tallied_run h hrun hroom
  refine ⟨htallied, fun step hpass hnext => ?_⟩
  have hmet := Step.met_of_isPass hpass machine
  rw [failures_snoc hrun, hmet] at hnext
  have hdue : (machine.site.due machine.site.host.state).LeavesRecord :=
    haccountable.actions.due (fun _ => rfl) _
  obtain ⟨hshows, hentered⟩ := booked_tick haccountable.judgement haccountable.ledger hdue
    (hnext.behind htallied)
  rw [after_pass_site hpass]
  refine ⟨fun failure hfailure => ⟨?_, rfl, ?_⟩, hentered, marks_tick hdue⟩
  · rw [result_of_isPass hpass, hshows failure hfailure]
    rfl
  · exact meets_of_sight hfailure

/-- A provisioned host whose credential has changed fails once in a pass, and this is told
twice. -/
theorem failures_accounted_provisioned :
    let seen : SecretStatus := ⟨.str "old", .object []⟩
    let start := fresh { HostRecord.new (.str "host") with
      state := .provisioned, sshStatus := .known ⟨some seen, none⟩ }
    let offered := start.after (.offer fun _ => ⟨some ⟨.str "new", .object []⟩, none, none⟩)
    (Step.perform .tick |>.runOn offered).1 = .ok (.ended Failure.rotation.outcome) ∧
      (offered.after .tick).site.host.errorCount = .int 1 ∧
      (offered.after .tick).site.trail.recorder.events.length = 2 := by
  intro seen start offered
  have hstart : start.Accountable :=
    ⟨fun _ => rfl, ⟨rfl, ⟨0, rfl⟩, rfl, rfl⟩, fun _ _ h => absurd h List.not_mem_nil⟩
  have hoffered : Run (fun _ step => step.SparesLedger) start
      [.offer fun _ => ⟨some ⟨.str "new", .object []⟩, none, none⟩] offered :=
    Run.nil.snoc _ (.offer _)
  have hfailures : failures start
      ([.offer fun _ => ⟨some ⟨.str "new", .object []⟩, none, none⟩] ++ [.tick]) =
        [.rotation] := rfl
  have hroom : ∀ met : List Failure, met.length ≤ 1 → start.RoomFor met := by
    intro met hmet capacity hcapacity
    obtain rfl := Option.some.inj hcapacity
    change 0 + 2 * met.length ≤ 500
    omega
  have hresult := ((failures_accounted hstart hoffered (hroom [] (by simp))).2 .tick .tick
    (by rw [hfailures]; exact hroom _ (by simp))).1 .rotation rfl
  have htallied := (failures_accounted hstart (hoffered.snoc .tick (.pass .tick))
    (by rw [hfailures]; exact hroom _ (by simp))).1
  rw [hfailures] at htallied
  obtain ⟨count, hbefore, hafter⟩ := htallied.errorCount
  obtain ⟨told, hevents, hlength⟩ := htallied.events
  obtain rfl : (0 : Int) = count := Value.int.inj hbefore
  refine ⟨hresult.1, hafter, ?_⟩
  have hcount := congrArg List.length hevents
  rw [List.length_append, hlength] at hcount
  exact hcount

end Machine

end HostLifecycle.Reconciliation
