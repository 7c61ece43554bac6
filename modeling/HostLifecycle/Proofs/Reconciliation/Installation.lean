import HostLifecycle.Proofs.Reconciliation.Precedence
import HostLifecycle.Proofs.Reconciliation.Soundness

/-!
Hosts that run on an image. A host comes to run on one only through a pass that installs it,
and from that pass on it runs on the key that was remembered then: a pass that meets another
key sends the host away from its image or refuses the key, and nothing else writes what is
remembered.
-/

namespace HostLifecycle

open Attempt

/-- Whether the host runs on the image that was installed on it. -/
def State.isInstalled : State → Bool
  | provisioning | ensureProvisioned | provisioned => true
  | _ => false

namespace Reconciliation

namespace Findings

/-- Behind a pass that meets a rotated key no host runs on an image that can be installed
again. -/
theorem osRotated_eq_false {findings : Findings} {start : State}
    (hstart : start.isReinstalled = true) (h : (findings.verdict start).isInstalled = true) :
    findings.osRotated = false := by
  obtain ⟨deletionRequested, osRotated, rescueRotated, gateCompletes, cancelled,
    actionCompletes⟩ := findings
  cases osRotated with
  | false => rfl
  | true =>
    revert deletionRequested rescueRotated gateCompletes cancelled actionCompletes
    cases start with
    | provisioning | ensureProvisioned => decide
    | _ => cases hstart

/-- A rotated key that a host meets on its image, and behind which it is still there, is
refused. -/
theorem reaction_os_of_verdict {findings : Findings} {start : State}
    (hstart : start.isInstalled = true) (h : (findings.verdict start).isInstalled = true)
    (hrotated : findings.osRotated = true) : reaction .os start = .refuse := by
  have hfinal : start.isReinstalled ≠ true := by
    intro hreinstalled
    have hsame := osRotated_eq_false hreinstalled h
    exact absurd (hrotated.symm.trans hsame) nofun
  cases start with
  | provisioned => rfl
  | provisioning | ensureProvisioned => exact absurd rfl hfinal
  | _ => cases hstart

/-- The only way to an installed image is the installation that completes. -/
theorem verdict_entered {findings : Findings} {start : State}
    (hstart : start.isInstalled = false) (h : (findings.verdict start).isInstalled = true) :
    start = .imageInstalling ∧ findings.verdict start = .provisioning ∧
      findings.deletionRequested = false ∧ findings.gateCompletes = true ∧
      findings.cancelled = false ∧ findings.actionCompletes = true := by
  obtain ⟨deletionRequested, osRotated, rescueRotated, gateCompletes, cancelled,
    actionCompletes⟩ := findings
  revert deletionRequested osRotated rescueRotated gateCompletes cancelled actionCompletes
  cases start with
  | provisioning | ensureProvisioned | provisioned => cases hstart
  | _ => decide

/-- A host that runs on its image does not begin to do so anew. -/
theorem eq_provisioning_of_verdict {findings : Findings} {start : State}
    (hstart : start.isInstalled = true) (h : findings.verdict start = .provisioning) :
    start = .provisioning := by
  obtain ⟨deletionRequested, osRotated, rescueRotated, gateCompletes, cancelled,
    actionCompletes⟩ := findings
  revert deletionRequested osRotated rescueRotated gateCompletes cancelled actionCompletes
  cases start with
  | provisioning => exact fun _ _ _ _ _ _ _ => rfl
  | ensureProvisioned | provisioned => decide
  | _ => cases hstart

end Findings

namespace Pass

/-- A pass whose action leaves the record forgets a key that was seen only for a rotation
that is not refused. -/
theorem Course.remembered_os {service : Service} {logger : Text} {site : Site}
    {run : Except Fault Outcome × Pass}
    (h : Course service logger site run)
    (hleaves : (site.due site.host.state).LeavesRecord)
    (hseen : site.host.remembered .os ≠ .ok none)
    (hkept : meetsRotated service logger (Pass.of site) .os = true →
      reaction .os site.host.state = .refuse) :
    run.2.site.host.remembered .os = site.host.remembered .os := by
  rcases h.host_eq hleaves with ⟨-, hhost⟩ | ⟨-, hstate, hhost⟩ <;> rw [hhost]
  exact (gated_gate service logger hstate).remembered_os hseen hkept

end Pass

/-- An action that completes ended so. -/
theorem Behaviour.ending_of_completes {behaviour : Behaviour} {host : HostRecord}
    (h : completes (behaviour.result host) = true) : behaviour.ending = .ok .complete := by
  have hresult := (completes_iff _).mp h
  unfold Behaviour.result at hresult
  cases hperformed : ((RecordStep.performAll behaviour.effects).runOn host).1 with
  | error fault =>
    rw [hperformed] at hresult
    cases hresult
  | ok _ =>
    rw [hperformed] at hresult
    exact hresult

namespace Machine

variable {machine : Machine}

/-- A step that writes the state of the host from outside only to put it up for preparation:
a pass over the host that is answered with credentials that can be stored, with null or
with a fault, a step of routine, a change of what the provider holds out, or a preparation. -/
inductive Regular (machine : Machine) : Step → Prop where
  | pass {step : Step} (hpass : step.IsPass) (hanswer : machine.site.AnswersStorable) :
    Regular machine step
  | routine {step : Step} (hroutine : step.IsRoutine) : Regular machine step
  | offer (change : Offer → Offer) : Regular machine (.offer change)
  | prepare (hstate : machine.site.host.state = .none) :
    Regular machine (.edit (.assign "provisioning_state" (.str State.preparing.text)))

/-- A pass that installs the image: it calls the action of the installation, which completes,
and with it the host begins to run on the image. -/
structure Installs (machine : Machine) (step : Step) : Prop where
  isPass : step.IsPass
  state_before : machine.site.host.state = .imageInstalling
  state_behind : (machine.after step).site.host.state = .provisioning
  called : (machine.after step).site.calls = machine.site.calls ++ [.imageInstalling]
  completed : (machine.site.due .imageInstalling).ending = .ok .complete

/-- A step over which a host goes on to run on its image, and on the key that was seen. -/
structure Continues (machine : Machine) (step : Step) : Prop where
  installed_before : machine.site.host.state.isInstalled = true
  installed_behind : (machine.after step).site.host.state.isInstalled = true
  entry : (machine.after step).site.host.state = .provisioning →
    machine.site.host.state = .provisioning
  key : ∀ seen, machine.site.host.remembered .os = .ok (some seen) →
    (machine.after step).site.host.remembered .os = .ok (some seen)

theorem sound_prepare (hsound : machine.site.Sound) : (machine.after
    (.edit (.assign "provisioning_state" (.str State.preparing.text)))).site.Sound := by
  rw [after_writeState]
  exact ⟨hsound.record.atState _ _, hsound.actions⟩

theorem sound_after (hsound : machine.site.Sound) {step : Step}
    (hregular : machine.Regular step) : (machine.after step).site.Sound := by
  cases hregular with
  | pass hpass hanswer =>
    rw [after_pass_site hpass]
    exact sound_tick hsound hanswer
  | routine hroutine => exact (kept_of_isRoutine hsound hroutine).2
  | offer change => exact (kept_offer hsound change).2
  | prepare => exact sound_prepare hsound

theorem state_tick (hsound : machine.site.Sound) : (tick.runOn machine).2.site.host.state =
    machine.findings.verdict machine.site.host.state := by
  obtain ⟨run, journal, -, hcourse, htick⟩ := exists_tick machine
  rw [htick]
  apply settledState_eq machine ?_ hcourse
  intro host
  exact congrArg HostRecord.state (hsound.due_leaves machine.site.host.state host)

/-- Over a pass behind which a host still runs on its image it keeps the key that was seen. -/
theorem continues_tick (hsound : machine.site.Sound) {step : Step} (hpass : step.IsPass)
    (hbefore : machine.site.host.state.isInstalled = true)
    (hbehind : (machine.after step).site.host.state.isInstalled = true) :
    machine.Continues step := by
  have hstate := state_tick hsound
  have hverdict : (machine.findings.verdict machine.site.host.state).isInstalled = true := by
    rw [← hstate, ← after_pass_site hpass]
    exact hbehind
  refine ⟨hbefore, hbehind, ?_, ?_⟩
  · intro hprovisioning
    rw [after_pass_site hpass, hstate] at hprovisioning
    exact Findings.eq_provisioning_of_verdict hbefore hprovisioning
  · intro seen hseen
    obtain ⟨run, journal, -, hcourse, htick⟩ := exists_tick machine
    rw [after_pass_site hpass, htick, ← hseen]
    apply hcourse.remembered_os (hsound.due_leaves _)
    · rw [hseen]
      exact nofun
    · exact Findings.reaction_os_of_verdict hbefore hverdict

/-- A pass over which a host comes to run on an image installs it. -/
theorem installs_tick (hsound : machine.site.Sound) {step : Step} (hpass : step.IsPass)
    (hbefore : machine.site.host.state.isInstalled = false)
    (hbehind : (machine.after step).site.host.state.isInstalled = true) :
    machine.Installs step := by
  have hstate := state_tick hsound
  rw [after_pass_site hpass, hstate] at hbehind
  obtain ⟨hinstalling, hverdict, hrequested, hcompletes, hwithdrawn, haction⟩ :=
    Findings.verdict_entered hbefore hbehind
  have hdeprovisioning : machine.site.host.state ≠ .deprovisioning := by
    rw [hinstalling]
    exact nofun
  refine ⟨hpass, hinstalling, ?_, ?_, ?_⟩
  · rw [after_pass_site hpass, hstate, hverdict]
  · obtain ⟨run, journal, -, hcourse, htick⟩ := exists_tick machine
    rw [after_pass_site hpass, htick]
    cases hcourse with
    | diverted _ _ hmarked => exact absurd (hmarked.symm.trans hrequested) nofun
    | tornDown hteardown => exact absurd hteardown hdeprovisioning
    | suspended _ _ hgate => exact absurd (hgate.symm.trans hcompletes) nofun
    | unhandled _ _ _ hnone =>
      rw [hinstalling] at hnone
      cases hnone
    | cancelled _ _ _ hcancelled => exact absurd (hcancelled.symm.trans hwithdrawn) nofun
    | acted =>
      have hcalls := Pass.calls_act_gate machine.service machine.passName hdeprovisioning
      rw [hinstalling] at hcalls
      exact hcalls
  · rw [← hinstalling]
    exact Behaviour.ending_of_completes haction

theorem continues_of_kept {step : Step} (hkept : machine.site.Kept (machine.after step).site)
    (hbehind : (machine.after step).site.host.state.isInstalled = true) :
    machine.Continues step := by
  refine ⟨hkept.state ▸ hbehind, hbehind, ?_, ?_⟩
  · rw [hkept.state]
    exact id
  · intro seen hseen
    exact (hkept.remembered .os).trans hseen

/-- A step behind which a host runs on an image goes on with it or installs it. -/
theorem installed_after (hsound : machine.site.Sound) {step : Step}
    (hregular : machine.Regular step)
    (hbehind : (machine.after step).site.host.state.isInstalled = true) :
    machine.Continues step ∨
      machine.site.host.state.isInstalled = false ∧ machine.Installs step := by
  cases hregular with
  | pass hpass hanswer =>
    cases hbefore : machine.site.host.state.isInstalled with
    | true => exact Or.inl (continues_tick hsound hpass hbefore hbehind)
    | false => exact Or.inr ⟨rfl, installs_tick hsound hpass hbefore hbehind⟩
  | routine hroutine =>
    exact Or.inl (continues_of_kept (kept_of_isRoutine hsound hroutine).1 hbehind)
  | offer change => exact Or.inl (continues_of_kept (kept_offer hsound change).1 hbehind)
  | prepare =>
    rw [after_writeState] at hbehind
    cases hbehind

variable {start : Machine} {steps : List Step}

theorem sound_run (hsound : start.site.Sound) (hrun : Run Regular start steps machine) :
    machine.site.Sound := by
  induction hrun with
  | nil => exact hsound
  | snoc run step allowed ih => exact sound_after ih allowed

/-- A run over which a host goes on to run on its image keeps the key that was seen. -/
theorem key_run
    (hrun : Run (fun machine step => machine.Regular step ∧ machine.Continues step)
      start steps machine) {seen : SecretStatus}
    (hseen : start.site.host.remembered .os = .ok (some seen)) :
    machine.site.host.remembered .os = .ok (some seen) := by
  induction hrun with
  | nil => exact hseen
  | snoc run step allowed ih => exact allowed.2.key seen ih

/-- A host runs on no key but the one that it was installed with. Along every run that starts
off the image, a host that runs on an image was brought to it by a pass that installed it,
and after that pass it has run on the image without beginning anew. The key that was
remembered behind this pass, if there was one, is remembered still. Since a host may be put anew
from its stored record on the way, the names and the keys of its credentials are such as are read
back as they were written, which only a pair that is split into its halves is not. -/
theorem installed_key_kept (hsound : start.site.Sound)
    (hstart : start.site.host.state.isInstalled = false)
    (hrun : Run Regular start steps machine)
    (hinstalled : machine.site.host.state.isInstalled = true) :
    ∃ before pass rest middle, steps = before ++ pass :: rest ∧
      Run Regular start before middle ∧ middle.Installs pass ∧
      Run (fun machine step => machine.Regular step ∧ machine.Continues step)
        (middle.after pass) rest machine ∧
      ∀ seen, (middle.after pass).site.host.remembered .os = .ok (some seen) →
        machine.site.host.remembered .os = .ok (some seen) := by
  suffices hpassed : ∃ before pass rest middle, steps = before ++ pass :: rest ∧
      Run Regular start before middle ∧ middle.Installs pass ∧
      Run (fun machine step => machine.Regular step ∧ machine.Continues step)
        (middle.after pass) rest machine by
    obtain ⟨before, pass, rest, middle, hsteps, hbefore, hinstalls, hrest⟩ := hpassed
    exact ⟨before, pass, rest, middle, hsteps, hbefore, hinstalls, hrest,
      fun _ => key_run hrest⟩
  induction hrun with
  | nil => exact absurd (hstart.symm.trans hinstalled) nofun
  | @snoc steps machine run step allowed ih =>
    rcases installed_after (sound_run hsound run) allowed hinstalled with
      hcontinues | ⟨-, hinstalls⟩
    · obtain ⟨before, pass, rest, middle, hsteps, hbefore, hinstalls, hrest⟩ :=
        ih hcontinues.installed_before
      refine ⟨before, pass, rest ++ [step], middle, ?_, hbefore, hinstalls,
        hrest.snoc step ⟨allowed, hcontinues⟩⟩
      rw [hsteps]
      simp
    · exact ⟨steps, step, [], machine, rfl, run, hinstalls, .nil⟩

/-- A host whose key was seen before its image is installed is made ready in two passes, and
runs on this key behind them. -/
theorem installed_key_kept_ensuring :
    let start := fresh { HostRecord.new (.str "host") with
      state := .imageInstalling
      installImage := .known ⟨.str "image", .null⟩
      sshStatus := .known ⟨some ⟨.str "key", fingerprintValue []⟩, none⟩ }
    let final := (start.after .tick).after .tick
    ∃ before pass rest, ∃ middle : Machine, [Step.tick, .tick] = before ++ pass :: rest ∧
      middle.Installs pass ∧
      ∀ seen, (middle.after pass).site.host.remembered .os = .ok (some seen) →
        final.site.host.remembered .os = .ok (some seen) := by
  intro start final
  have hnew := HostRecord.wellTyped_new "host"
  have hseen : SecretStatus.Storable ⟨.str "key", fingerprintValue []⟩ :=
    SecretStatus.storable_of_prints (Text.unsplit_ofChars _) List.nodup_nil fun _ => nofun
  have hstatus : ∀ kind seen, SshStatus.of kind
      ⟨some ⟨.str "key", fingerprintValue []⟩, none⟩ = some seen → seen.Storable := by
    intro kind seen hof
    cases kind with
    | os =>
      cases hof
      exact hseen
    | rescue => cases hof
  have hsound : start.site.Sound :=
    Site.sound_fresh ⟨hnew.name, Or.inr ⟨_, rfl, ⟨"image", rfl⟩, Or.inl rfl⟩, ⟨_, rfl, hstatus⟩,
      hnew.errorType, hnew.errorMessage, hnew.errorCount⟩
  have hanswer : ∀ machine : Machine, machine.site.answer = .ok (none, none) →
      machine.site.AnswersStorable := by
    intro machine hnull os rescue hsome
    rw [hnull] at hsome
    cases hsome
    exact ⟨fun _ => nofun, fun _ => nofun⟩
  have hrun : Run Regular start [.tick, .tick] final :=
    (Run.nil.snoc .tick (.pass .tick (hanswer start rfl))).snoc .tick
      (.pass .tick (hanswer (start.after .tick) rfl))
  obtain ⟨before, pass, rest, middle, hsteps, -, hinstalls, -, hkey⟩ :=
    installed_key_kept hsound rfl hrun rfl
  exact ⟨before, pass, rest, middle, hsteps, hinstalls, hkey⟩

end Machine

end Reconciliation

end HostLifecycle
