import HostLifecycle.Proofs.Reconciliation.Course

/-!
Which state a pass leaves behind. Several causes may come together in one pass: a
requested deletion, rotated credentials, a withdrawn image and a completed action. The
verdict says which of them decides, and a pass writes the verdict on what it finds.
-/

namespace HostLifecycle.Reconciliation

open Attempt

/-- What a pass finds of everything that decides about the state behind it: whether the
deletion is requested, which rotated credentials it comes to, whether the look at the
credentials completes, whether the image is withdrawn, and whether the action of the state
completes. -/
structure Findings where
  deletionRequested : Bool
  osRotated : Bool
  rescueRotated : Bool
  gateCompletes : Bool
  cancelled : Bool
  actionCompletes : Bool

namespace Findings

/-- Where rotated credentials send a host. That of the rescue system restarts a host whose
image is not installed yet, and one whose image has to be installed again. -/
def redirect (findings : Findings) (start : State) : State :=
  if findings.rescueRotated &&
      (start.isReset || start.isReinstalled && findings.osRotated) then .none
  else if findings.osRotated && start.isReinstalled then .imageInstalling
  else start

/-- The state behind a pass that started in a given state. The first cause that applies
decides. -/
def verdict (findings : Findings) (start : State) : State :=
  if findings.deletionRequested && start != .deprovisioning then
    if start.isActive then .deprovisioning else .deleting
  else if start = .deprovisioning then
    if findings.actionCompletes then .none else start
  else if !findings.gateCompletes then findings.redirect start
  else if findings.cancelled && isCancellable start then .deprovisioning
  else if findings.actionCompletes && findings.redirect start = start then
    start.successor?.getD start
  else findings.redirect start

/-- No redirect leads forward, and none begins a teardown. -/
theorem redirect_ne (findings : Findings) {start : State} (hstart : start ≠ .deprovisioning) :
    start.successor? ≠ some (findings.redirect start) ∧
      findings.redirect start ≠ .deprovisioning := by
  obtain ⟨_, osRotated, rescueRotated, _, _, _⟩ := findings
  cases start with
  | deprovisioning => exact absurd rfl hstart
  | _ =>
    cases osRotated <;> cases rescueRotated <;>
      simp [redirect, State.isReset, State.isReinstalled, State.successor?]

/-- The reactions to both credentials, the second one on what the first one decided, come
to the redirect. -/
theorem redirect_eq (findings : Findings) (start : State) :
    findings.redirect start =
      let behindOs := if findings.osRotated
        then (reaction .os start).target start else start
      if findings.rescueRotated
        then (reaction .rescue behindOs).target behindOs else behindOs := by
  obtain ⟨_, osRotated, rescueRotated, _, _, _⟩ := findings
  cases start <;> cases osRotated <;> cases rescueRotated <;> rfl

theorem verdict_of_diverted {findings : Findings} {start state : State}
    (hrequested : findings.deletionRequested = true)
    (hdiversion : diversion? start = some state) : findings.verdict start = state := by
  have hstart : start ≠ .deprovisioning := by
    rintro rfl
    cases hdiversion
  simp only [diversion?, hstart, if_false] at hdiversion
  simp only [verdict, hrequested, bne_iff_ne.mpr hstart, Bool.and_self, if_true]
  split at hdiversion
  next hactive => rw [if_pos hactive]; exact Option.some.inj hdiversion
  next hidle => rw [if_neg hidle]; exact Option.some.inj hdiversion

theorem verdict_of_tornDown (findings : Findings) : findings.verdict .deprovisioning =
    if findings.actionCompletes then .none else .deprovisioning := by
  simp only [verdict, bne_self_eq_false, Bool.and_false, Bool.false_eq_true, if_false, if_true]

/-- The verdict on a host that is neither diverted nor torn down. -/
theorem verdict_of_kept {findings : Findings} {start : State}
    (hrequested : findings.deletionRequested = false) (hstart : start ≠ .deprovisioning) :
    findings.verdict start =
      if !findings.gateCompletes then findings.redirect start
      else if findings.cancelled && isCancellable start then .deprovisioning
      else if findings.actionCompletes && findings.redirect start = start then
        start.successor?.getD start
      else findings.redirect start := by
  simp only [verdict, hrequested, Bool.false_and, Bool.false_eq_true, if_false, hstart]

end Findings

/-- What a pass over the host of a machine finds. The action of a teardown is called on the
record as it is, and every other action on what the look at the credentials left. -/
def Machine.findings (machine : Machine) : Findings :=
  let pass := Pass.of machine.site
  let gate := Pass.gate machine.service machine.passName machine.site
  let found := if pass.start = .deprovisioning then machine.site.host else gate.2.site.host
  { deletionRequested := machine.site.host.deletionRequested
    osRotated := pass.meetsRotated machine.service machine.passName .os
    rescueRotated := pass.meetsRotated machine.service machine.passName .rescue
    gateCompletes := completes gate.1
    cancelled := machine.site.host.isCancelled
    actionCompletes := completes ((machine.site.due pass.start).result found) }

namespace Pass

/-- Behind the look at the credentials the redirect comes next. -/
theorem next_gate (machine : Machine) (hstate : machine.site.host.state ≠ .deprovisioning) :
    (gate machine.service machine.passName machine.site).2.next =
      machine.findings.redirect machine.site.host.state := by
  rw [Findings.redirect_eq]
  exact (gated_gate machine.service machine.passName hstate).next_eq

end Pass

namespace Machine

variable (machine : Machine)

/-- Behind an action that was called the verdict on its result is written. -/
theorem settledState_of_acted (hleaves : ∀ host,
      ((machine.site.due machine.site.host.state).left host).state = host.state)
    (hrequested : machine.site.host.deletionRequested = false)
    (hstate : machine.site.host.state ≠ .deprovisioning)
    (hgate : completes (Pass.gate machine.service machine.passName machine.site).1 = true)
    (hkept : isCancellable machine.site.host.state = true →
      machine.site.host.isCancelled = false) :
    (Pass.act.runOn
        (Pass.gate machine.service machine.passName machine.site).2).2.settledState =
      machine.findings.verdict machine.site.host.state := by
  have hkeeps := Pass.state_gate machine.service machine.passName hstate
  have hdue := Pass.due_gate machine.service machine.passName hstate
  have hstart : (Pass.gate machine.service machine.passName machine.site).2.start =
      machine.site.host.state := (Pass.gated_gate _ _ hstate).start_eq
  have hcompletes : machine.findings.gateCompletes = true := hgate
  have hstands : (machine.findings.cancelled && isCancellable machine.site.host.state) =
      false := by
    rw [Bool.and_eq_false_iff]
    cases hcancellable : isCancellable machine.site.host.state with
    | false => exact Or.inr rfl
    | true => exact Or.inl (hkept hcancellable)
  have hfound : machine.findings.actionCompletes =
      completes ((machine.site.due machine.site.host.state).result
        (Pass.gate machine.service machine.passName machine.site).2.site.host) := by
    simp only [findings, Pass.of, hstate, if_false]
  rw [Pass.runOn_act, Pass.settledState_acted hkeeps (hdue ▸ hleaves), hdue, Pass.advanced,
    hstart, Pass.next_gate machine hstate, Findings.verdict_of_kept hrequested hstate,
    hcompletes, hstands, ← hfound]
  by_cases hstays : machine.findings.redirect machine.site.host.state = machine.site.host.state
  · simp [hstate, hstays]
  · simp [hstate, hstays]

/-- A pass writes the verdict on what it finds. -/
theorem settledState_eq (hleaves : ∀ host,
      ((machine.site.due machine.site.host.state).left host).state = host.state)
    {run : Except Fault Outcome × Pass}
    (hcourse : Pass.Course machine.service machine.passName machine.site run) :
    run.2.settledState = machine.findings.verdict machine.site.host.state := by
  cases hcourse with
  | diverted state journal hrequested hdiversion =>
    have hverdict : machine.findings.verdict machine.site.host.state = state :=
      Findings.verdict_of_diverted hrequested hdiversion
    rw [hverdict]
    exact Pass.settledState_eq_next rfl
  | tornDown hstate =>
    have hfound : machine.findings.actionCompletes =
        completes ((machine.site.due machine.site.host.state).result machine.site.host) := by
      simp only [findings, Pass.of, hstate, if_true]
    rw [Pass.runOn_act, Pass.settledState_of_tornDown hstate hleaves, ← hfound, hstate,
      Findings.verdict_of_tornDown]
  | suspended hrequested hstate hgate =>
    rw [Pass.settledState_eq_next (Pass.state_gate _ _ hstate), Pass.next_gate machine hstate]
    have hfound : machine.findings.gateCompletes = false := hgate
    rw [Findings.verdict_of_kept hrequested hstate, hfound]
    rfl
  | unhandled outcome journal hrequested hnone hgate =>
    have hstate := ne_deprovisioning_of_none hnone
    have hkeeps := Pass.state_gate machine.service machine.passName hstate
    have hfound : machine.findings.gateCompletes = true := hgate
    have hstays : machine.findings.redirect .none = .none := by
      simp [Findings.redirect, State.isReset, State.isReinstalled]
    refine (Pass.settledState_eq_next hkeeps).trans ?_
    rw [Pass.next_gate machine hstate, Findings.verdict_of_kept hrequested hstate, hfound,
      hnone, hstays]
    simp [isCancellable, State.isForward, State.successor?]
  | cancelled hrequested hcancellable hgate hcancelled =>
    have hstate := ne_deprovisioning_of_isCancellable hcancellable
    have hkeeps := Pass.state_gate machine.service machine.passName hstate
    have hcompletes : machine.findings.gateCompletes = true := hgate
    have hwithdrawn : machine.findings.cancelled = true := hcancelled
    have hverdict : machine.findings.verdict machine.site.host.state = .deprovisioning := by
      rw [Findings.verdict_of_kept hrequested hstate, hcompletes, hwithdrawn, hcancellable]
      rfl
    rw [hverdict]
    exact Pass.settledState_eq_next hkeeps
  | acted hrequested _ hstate hgate hkept =>
    exact settledState_of_acted machine hleaves hrequested hstate hgate hkept

/-- A pass that does not end in a completion moves the host nowhere but to the redirect. -/
theorem settledState_of_incomplete (hleaves : ∀ host,
      ((machine.site.due machine.site.host.state).left host).state = host.state)
    (hstate : machine.site.host.state ≠ .deprovisioning)
    {run : Except Fault Outcome × Pass} (hresult : run.1 ≠ .ok .complete)
    (hcourse : Pass.Course machine.service machine.passName machine.site run) :
    run.2.settledState = machine.findings.redirect machine.site.host.state := by
  have hkeeps := Pass.state_gate machine.service machine.passName hstate
  cases hcourse with
  | diverted => exact absurd rfl hresult
  | tornDown hteardown => exact absurd hteardown hstate
  | cancelled => exact absurd rfl hresult
  | suspended =>
    rw [Pass.settledState_eq_next hkeeps, Pass.next_gate machine hstate]
  | unhandled =>
    refine (Pass.settledState_eq_next hkeeps).trans ?_
    exact Pass.next_gate machine hstate
  | acted =>
    have hdue := Pass.due_gate machine.service machine.passName hstate
    rw [Pass.runOn_act] at hresult ⊢
    rw [Pass.settledState_acted hkeeps (hdue ▸ hleaves), if_neg, Pass.next_gate machine hstate]
    intro hcompletes
    exact hresult ((completes_iff _).mp hcompletes)

/-- A machine whose pass can tell of the host, and whose action leaves the state of the record. -/
structure Settles (machine : Machine) : Prop where
  tells : machine.Tells
  leaves : ∀ host,
    ((machine.site.due machine.site.host.state).left host).state = host.state

/-- The state behind a pass is the verdict on what the pass finds, if the action of the
state leaves it and the host can be told of. Whenever a pass does not end in a completion, and so
also if its look at the credentials does not or if it ends in a fault, the host is where the
redirect sends it, neither in the successor of its state nor in a teardown. And the credential of
the rescue system is only looked at if the look at the other one completes. -/
theorem tick_state (h : machine.Settles) :
    (tick.runOn machine).2.site.host.state =
        machine.findings.verdict machine.site.host.state ∧
    (machine.site.host.state ≠ .deprovisioning → (tick.runOn machine).1 ≠ .ok .complete →
      (tick.runOn machine).2.site.host.state =
        machine.findings.redirect machine.site.host.state ∧
      machine.site.host.state.successor? ≠ some (tick.runOn machine).2.site.host.state ∧
      (tick.runOn machine).2.site.host.state ≠ .deprovisioning) ∧
    (machine.site.host.state ≠ .deprovisioning → ∀ fetched,
      machine.site.answer = .ok fetched →
      completes (Pass.behindOs machine.service machine.passName fetched
        (Pass.of machine.site).behindFetch).1 = false →
      Pass.gate machine.service machine.passName machine.site =
        Pass.behindOs machine.service machine.passName fetched
          (Pass.of machine.site).behindFetch) := by
  obtain ⟨run, journal, -, hcourse, htick⟩ := exists_tick machine
  rw [htick]
  refine ⟨settledState_eq machine h.leaves hcourse, ?_, ?_⟩
  · intro hstate hresult
    have hwritten := settledState_of_incomplete machine h.leaves hstate hresult hcourse
    obtain ⟨hsuccessor, hteardown⟩ := machine.findings.redirect_ne hstate
    rw [← hwritten] at hsuccessor hteardown
    exact ⟨hwritten, hsuccessor, hteardown⟩
  · intro hstate fetched hanswer hsuspended
    rw [Pass.gate, Pass.runOn_checkCredentials_of_answer _ _ (Pass.of machine.site) hstate hanswer,
      Pass.runOn_checkBoth, hsuspended]
    rfl

/-- Both credentials of a host were exchanged while its image was installed, and the action of
the state completes. The one of the operating system would have the image installed again, and
the one of the rescue system restarts the host, which is what is written. -/
theorem tick_state_both_rotated :
    let key (name : Text) : Credential :=
      ⟨.str name, .object [("name", .str name), ("public-key", .str "ssh-rsa AAAA"),
        ("private-key", .str "PRIVATE")]⟩
    let host : HostRecord := { HostRecord.new (.str "host") with
      state := .provisioning
      installImage := .known ⟨.str "image", .null⟩
      sshStatus := .known ⟨some ⟨.str "old-os", .object []⟩, some ⟨.str "old-rescue", .object []⟩⟩ }
    let service : Service :=
      ⟨[.str "name", .str "public-key", .str "private-key"], fun _ => none⟩
    let site := { (fresh host).site with
      source := .provider ⟨some (key "new-os"), some (key "new-rescue"), none⟩ }
    let machine := of site service none
    machine.Settles ∧
      machine.findings.osRotated = true ∧ machine.findings.rescueRotated = true ∧
      (tick.runOn machine).2.site.calls = [.provisioning] ∧
      (tick.runOn machine).2.site.host.state = .none := by
  intro key host service site machine
  have hdue : machine.site.due machine.site.host.state = Behaviour.idle := rfl
  have hleaves : ∀ host, Behaviour.idle.left host = host := fun _ => rfl
  have htells : machine.Tells :=
    tells_of_named ⟨_, rfl⟩ (fun _ hnamed => by rwa [hdue, hleaves]) nofun
  have hsettles : machine.Settles := ⟨htells, fun _ => by rw [hdue, hleaves]⟩
  have hverdict : machine.findings.verdict .provisioning = .none := by decide +kernel
  have hcalls : (tick.runOn machine).2.site.calls = [.provisioning] := by decide +kernel
  refine ⟨hsettles, ?_, ?_, hcalls, (machine.tick_state hsettles).1.trans hverdict⟩
  · decide +kernel
  · decide +kernel

end Machine

end HostLifecycle.Reconciliation
