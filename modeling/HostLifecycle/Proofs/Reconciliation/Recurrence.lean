import HostLifecycle.Proofs.Reconciliation.Precedence
import HostLifecycle.Proofs.Reconciliation.Rest
import HostLifecycle.Proofs.Reconciliation.Run

/-!
Rotations are acted on once. While the source answers the same, the first look at the
credentials leaves them at rest: they are recognized from there on, or no later look comes past
them, and then the host stays where it is. So no pass but the first sends a host elsewhere for
a rotation, and what is remembered does not change behind the first look.
-/

namespace HostLifecycle.Reconciliation

open Attempt

abbrev Answer := Except Fault (Option Credential × Option Credential)

/-- Whichever credentials an answer gives out, a later comparison can recognize them. -/
def Answer.Recognizable (answer : Answer) : Prop :=
  ∀ fetched, answer = .ok fetched → AllRecognizable fetched

namespace Pass

variable (service : Service) (logger : Text) {site : Site}

/-- The look at the credentials leaves them at rest. -/
theorem settled_gate (hstate : site.host.state ≠ .deprovisioning)
    (hanswer : Answer.Recognizable site.answer) :
    ∀ fetched, site.answer = .ok fetched → Settled service fetched
      (gate service logger site).2.next (gate service logger site).2.site.host := by
  intro fetched hfetched
  have hrun := runOn_checkCredentials_of_answer service logger (Pass.of site) hstate hfetched
  rw [gate, hrun]
  exact settled_checkBoth service logger (hanswer fetched hfetched) _

/-- Where the credentials are at rest the look at them changes nothing. -/
theorem gate_of_settled (hstate : site.host.state ≠ .deprovisioning)
    (hsettled : ∀ fetched, site.answer = .ok fetched →
      Settled service fetched site.host.state site.host) :
    (gate service logger site).2.site.host.sshStatus = site.host.sshStatus ∧
      (gate service logger site).2.next = site.host.state := by
  cases hanswer : site.answer with
  | error fault =>
    obtain ⟨result, -, hrun⟩ :=
      runOn_checkCredentials_of_fault service logger (Pass.of site) hstate hanswer
    rw [gate, hrun]
    exact ⟨rfl, rfl⟩
  | ok fetched =>
    have hrun := runOn_checkCredentials_of_answer service logger (Pass.of site) hstate hanswer
    rw [gate, hrun]
    exact checkBoth_of_settled service logger (Pass.of site).behindFetch
      (hsettled fetched hanswer)

end Pass

namespace Machine

variable {answer : Answer} {machine : Machine}

/-- A pass over the host comes to a look at the credentials. -/
def Asks (machine : Machine) : Prop :=
  machine.site.host.deletionRequested = false ∧ machine.site.host.state ≠ .deprovisioning

/-- A pass over the host comes to a look at the credentials that sends the host elsewhere. -/
def IsRedirected (machine : Machine) : Prop :=
  machine.Asks ∧
    (Pass.gate machine.service machine.passName machine.site).2.next ≠ machine.site.host.state

/-- A host of which no look at the credentials remembers anything new, as long as the source
answers the same: it is marked for its deletion, or both credentials are cleared, or they are
at rest in the state of the host. -/
inductive Quiet (answer : Answer) (machine : Machine) : Prop where
  | marked (hrequested : machine.site.host.deletionRequested = true) : Quiet answer machine
  | cleared (fetched : Option Credential × Option Credential) (hanswer : answer = .ok fetched)
      (hos : Cleared machine.service .os machine.site.host fetched.1)
      (hrescue : Cleared machine.service .rescue machine.site.host fetched.2) :
    Quiet answer machine
  | settled (hstate : machine.site.host.state ≠ .deprovisioning)
      (hsettled : ∀ fetched, answer = .ok fetched →
        Settled machine.service fetched machine.site.host.state machine.site.host) :
    Quiet answer machine

/-- A host that no look at the credentials sends elsewhere, whatever is remembered of them. -/
def IsOff (machine : Machine) : Prop :=
  machine.site.host.state ∈ [.none, .deprovisioning, .deleting]

theorem Quiet.settled_of_asks (h : machine.Quiet answer) (hanswer : Answer.Recognizable answer)
    (hasks : machine.Asks) : ∀ fetched, answer = .ok fetched →
      Settled machine.service fetched machine.site.host.state machine.site.host := by
  intro fetched hfetched
  cases h with
  | marked hrequested => cases hasks.1.symm.trans hrequested
  | cleared other hother hos hrescue =>
    cases hfetched.symm.trans hother
    exact .of_cleared (hanswer fetched hfetched) hos hrescue _
  | settled _ hsettled => exact hsettled fetched hfetched

theorem not_isRedirected_of_quiet (h : machine.Quiet machine.site.answer)
    (hanswer : Answer.Recognizable machine.site.answer) : ¬ machine.IsRedirected := by
  rintro ⟨hasks, hnext⟩
  have hsettled := h.settled_of_asks hanswer hasks
  exact hnext (Pass.gate_of_settled machine.service machine.passName hasks.2 hsettled).2

theorem not_isRedirected_of_isOff (h : machine.IsOff) : ¬ machine.IsRedirected := by
  rintro ⟨⟨-, hstate⟩, hnext⟩
  apply hnext
  rw [Pass.next_gate machine hstate]
  unfold IsOff at h
  simp only [List.mem_cons, List.not_mem_nil, or_false] at h
  rcases h with hnone | hteardown | hdeleting
  · rw [hnone]
    simp [Findings.redirect, State.isReset, State.isReinstalled]
  · exact absurd hteardown hstate
  · rw [hdeleting]
    simp [Findings.redirect, State.isReset, State.isReinstalled]

/-- A pass that asks for the credentials leaves the host quiet. -/
theorem quiet_of_asks (hleaves : (machine.site.due machine.site.host.state).LeavesRecord)
    (hanswer : Answer.Recognizable machine.site.answer) (hasks : machine.Asks) :
    (tick.runOn machine).2.Quiet machine.site.answer := by
  obtain ⟨run, journal, -, hcourse, htick⟩ := exists_tick machine
  have hgated := Pass.gated_gate machine.service machine.passName hasks.2
  have hhost : run.2.site.host =
      (Pass.gate machine.service machine.passName machine.site).2.site.host := by
    rcases hcourse.host_eq hleaves with ⟨hstate, -⟩ | ⟨-, -, hhost⟩
    · rcases hstate with hrequested | hteardown
      · cases hasks.1.symm.trans hrequested
      · exact absurd hteardown hasks.2
    · exact hhost
  rw [htick]
  cases hcomplete : completes (Pass.gate machine.service machine.passName machine.site).1 with
  | true =>
    obtain ⟨fetched, hfetched, hos, hrescue⟩ := hgated.cleared ((completes_iff _).mp hcomplete)
    rw [← hhost] at hos hrescue
    exact .cleared fetched hfetched (hos.congr rfl) (hrescue.congr rfl)
  | false =>
    have hrun : run = Pass.gate machine.service machine.passName machine.site := by
      cases hcourse with
      | suspended => rfl
      | diverted _ _ hrequested => cases hasks.1.symm.trans hrequested
      | tornDown hteardown => exact absurd hteardown hasks.2
      | unhandled _ _ _ _ hgate | cancelled _ _ hgate | acted _ _ _ hgate =>
        cases hcomplete.symm.trans hgate
    have hwritten : run.2.settledState =
        (Pass.gate machine.service machine.passName machine.site).2.next := by
      rw [hrun]
      exact Pass.settledState_eq_next (Pass.state_gate _ _ hasks.2)
    refine .settled ?_ fun fetched hfetched => ?_
    · change run.2.settledState ≠ _
      rw [hwritten, Pass.next_gate machine hasks.2]
      exact (machine.findings.redirect_ne hasks.2).2
    · change Settled machine.service fetched run.2.settledState _
      have hsettled :=
        Pass.settled_gate machine.service machine.passName hasks.2 hanswer fetched hfetched
      rw [← hhost, ← hwritten] at hsettled
      exact hsettled.congr rfl rfl

/-- A pass over a host that is quiet remembers nothing new. -/
theorem sshStatus_of_quiet (hleaves : (machine.site.due machine.site.host.state).LeavesRecord)
    (hanswer : Answer.Recognizable machine.site.answer)
    (h : machine.Quiet machine.site.answer) :
    (tick.runOn machine).2.site.host.sshStatus = machine.site.host.sshStatus := by
  obtain ⟨run, journal, -, hcourse, htick⟩ := exists_tick machine
  rw [htick]
  change run.2.site.host.sshStatus = _
  rcases hcourse.host_eq hleaves with ⟨-, hhost⟩ | ⟨hrequested, hstate, hhost⟩
  · rw [hhost]
  · have hsettled := h.settled_of_asks hanswer ⟨hrequested, hstate⟩
    have hgate := (Pass.gate_of_settled machine.service machine.passName hstate hsettled).1
    exact (congrArg HostRecord.sshStatus hhost).trans hgate

/-- A pass that does not ask for the credentials writes at most a state. -/
theorem host_of_not_asks (hleaves : (machine.site.due machine.site.host.state).LeavesRecord)
    (hasks : ¬ machine.Asks) : (tick.runOn machine).2.site.host = { machine.site.host with
      state := (tick.runOn machine).2.site.host.state } := by
  obtain ⟨run, journal, -, hcourse, htick⟩ := exists_tick machine
  rw [htick]
  rcases hcourse.host_eq hleaves with ⟨-, hhost⟩ | ⟨hrequested, hstate, -⟩
  · change { run.2.site.host with state := run.2.settledState } =
      { machine.site.host with state := run.2.settledState }
    rw [hhost]
  · exact absurd ⟨hrequested, hstate⟩ hasks

/-- Every pass leaves the host quiet or off. -/
theorem quiet_or_isOff_tick
    (hleaves : (machine.site.due machine.site.host.state).LeavesRecord)
    (hanswer : Answer.Recognizable machine.site.answer) :
    (tick.runOn machine).2.Quiet machine.site.answer ∨ (tick.runOn machine).2.IsOff := by
  by_cases hasks : machine.Asks
  · exact Or.inl (quiet_of_asks hleaves hanswer hasks)
  cases hrequested : machine.site.host.deletionRequested with
  | true =>
    refine Or.inl (.marked ?_)
    rw [host_of_not_asks hleaves hasks]
    exact hrequested
  | false =>
    have hteardown : machine.site.host.state = .deprovisioning :=
      Classical.byContradiction fun hstate => hasks ⟨hrequested, hstate⟩
    obtain ⟨run, journal, -, hcourse, htick⟩ := exists_tick machine
    have hwritten := settledState_eq machine
      (fun host => congrArg HostRecord.state (hleaves host)) hcourse
    rw [hteardown, Findings.verdict_of_tornDown] at hwritten
    right
    rw [htick]
    change run.2.settledState ∈ _
    rw [hwritten]
    split <;> decide

/-- A pass over a quiet host leaves it quiet. -/
theorem quiet_tick (hleaves : (machine.site.due machine.site.host.state).LeavesRecord)
    (hanswer : Answer.Recognizable machine.site.answer)
    (h : machine.Quiet machine.site.answer) :
    (tick.runOn machine).2.Quiet machine.site.answer := by
  by_cases hasks : machine.Asks
  · exact quiet_of_asks hleaves hanswer hasks
  have hhost := host_of_not_asks hleaves hasks
  have hstatus : (tick.runOn machine).2.site.host.sshStatus = machine.site.host.sshStatus := by
    rw [hhost]
  cases h with
  | marked hrequested =>
    refine .marked ?_
    rw [hhost]
    exact hrequested
  | cleared fetched hfetched hos hrescue =>
    exact .cleared fetched hfetched (hos.congr hstatus) (hrescue.congr hstatus)
  | settled hstate =>
    have hrequested : machine.site.host.deletionRequested = true := by
      rw [← Bool.not_eq_false]
      exact fun hkept => hasks ⟨hkept, hstate⟩
    refine .marked ?_
    rw [hhost]
    exact hrequested

/-- A step while the source answers the same: a pass over the host that is answered so, or
between two passes a change of what the actions do, of the image, or of the surroundings of
the source, and the request of the deletion. -/
inductive Steady (answer : Answer) (machine : Machine) : Step → Prop where
  | pass {step : Step} (hpass : step.IsPass) (hanswer : machine.site.answer = answer) :
    Steady answer machine step
  | script (state : State) (behaviours : List Behaviour)
      (hleaves : ∀ behaviour ∈ behaviours, behaviour.LeavesRecord) :
    Steady answer machine (.script state behaviours)
  | offer (change : Offer → Offer) : Steady answer machine (.offer change)
  | setVariables (change : Settings.Environment → Settings.Environment) :
    Steady answer machine (.setVariables change)
  | requestDeletion : Steady answer machine (.edit .requestDeletion)
  | setImage (value : Value) : Steady answer machine (.edit (.assign "install_image" value))

variable {step : Step}

theorem Steady.scripted (h : machine.Steady answer step)
    (hactions : machine.site.Scripted Behaviour.LeavesRecord) :
    (machine.after step).site.Scripted Behaviour.LeavesRecord := by
  cases h with
  | pass hpass => exact scripted_pass hactions hpass
  | script state behaviours hleaves => exact scripted_script hactions state hleaves
  | offer change =>
    obtain ⟨source, hafter⟩ := after_offer machine change
    rw [hafter]
    exact hactions
  | setVariables => exact hactions
  | requestDeletion =>
    obtain ⟨marker, -, hafter⟩ := after_requestDeletion machine
    rw [hafter]
    exact hactions
  | setImage value =>
    obtain ⟨image, -, hafter⟩ := after_setImage machine value
    rw [hafter]
    exact hactions

/-- Between two passes only the mark and the image of the record change. -/
theorem Steady.host_eq (h : machine.Steady answer step) (hpass : ¬ step.IsPass) :
    ∃ marker image, (machine.site.host.deletionRequested = true → marker = true) ∧
      (machine.after step).site.host =
        { machine.site.host with deletionRequested := marker, installImage := image } ∧
      (machine.after step).service = machine.service := by
  have hsame := fun hrequested : machine.site.host.deletionRequested = true => hrequested
  cases h with
  | pass hstep => exact absurd hstep hpass
  | script | setVariables => exact ⟨_, _, hsame, rfl, rfl⟩
  | offer change =>
    obtain ⟨source, hafter⟩ := after_offer machine change
    rw [hafter]
    exact ⟨_, _, hsame, rfl, rfl⟩
  | requestDeletion =>
    obtain ⟨marker, hmarker, hafter⟩ := after_requestDeletion machine
    rw [hafter]
    exact ⟨marker, _, hmarker, rfl, rfl⟩
  | setImage value =>
    obtain ⟨image, -, hafter⟩ := after_setImage machine value
    rw [hafter]
    exact ⟨_, image, hsame, rfl, rfl⟩

theorem Quiet.of_marks {after : Machine} (h : machine.Quiet answer) {marker : Bool}
    {image : Held InstallImage}
    (hmarker : machine.site.host.deletionRequested = true → marker = true)
    (hhost : after.site.host =
      { machine.site.host with deletionRequested := marker, installImage := image })
    (hservice : after.service = machine.service) : after.Quiet answer := by
  have hstatus : after.site.host.sshStatus = machine.site.host.sshStatus := by
    rw [hhost]
  have hstate : after.site.host.state = machine.site.host.state := by
    rw [hhost]
  cases h with
  | marked hrequested =>
    refine .marked ?_
    rw [hhost]
    exact hmarker hrequested
  | cleared fetched hfetched hos hrescue =>
    rw [← hservice] at hos hrescue
    exact .cleared fetched hfetched (hos.congr hstatus) (hrescue.congr hstatus)
  | settled hteardown hsettled =>
    refine .settled (hstate ▸ hteardown) fun fetched hfetched => ?_
    rw [hservice, hstate]
    exact (hsettled fetched hfetched).congr hstatus (by rw [hhost])

/-- A step keeps a host quiet, and remembers nothing new of it. -/
theorem Steady.quiet (h : machine.Steady answer step) (hanswer : answer.Recognizable)
    (hactions : machine.site.Scripted Behaviour.LeavesRecord) (hquiet : machine.Quiet answer) :
    (machine.after step).Quiet answer ∧
      (machine.after step).site.host.sshStatus = machine.site.host.sshStatus := by
  by_cases hpass : step.IsPass
  · have hanswered : machine.site.answer = answer := by
      cases h with
      | pass _ hanswered => exact hanswered
      | _ => cases hpass
    subst hanswered
    have hleaves := hactions.due (fun _ => rfl) machine.site.host.state
    have hsite := after_pass_site hpass machine
    constructor
    · exact (quiet_tick hleaves hanswer hquiet).of_marks id (by rw [hsite])
        (after_pass_service hpass machine)
    · rw [hsite]
      exact sshStatus_of_quiet hleaves hanswer hquiet
  · obtain ⟨marker, image, hmarker, hhost, hservice⟩ := h.host_eq hpass
    refine ⟨hquiet.of_marks hmarker hhost hservice, ?_⟩
    rw [hhost]

/-- Behind a pass a host is quiet or off, and it stays so. -/
theorem Steady.quiet_or_isOff (h : machine.Steady answer step) (hanswer : answer.Recognizable)
    (hactions : machine.site.Scripted Behaviour.LeavesRecord)
    (hbefore : step.IsPass ∨ machine.Quiet answer ∨ machine.IsOff) :
    (machine.after step).Quiet answer ∨ (machine.after step).IsOff := by
  by_cases hpass : step.IsPass
  · have hanswered : machine.site.answer = answer := by
      cases h with
      | pass _ hanswered => exact hanswered
      | _ => cases hpass
    subst hanswered
    have hsite := after_pass_site hpass machine
    have hleaves := hactions.due (fun _ => rfl) machine.site.host.state
    rcases quiet_or_isOff_tick hleaves hanswer with hquiet | hoff
    · exact Or.inl (hquiet.of_marks id (by rw [hsite]) (after_pass_service hpass machine))
    · right
      rw [IsOff, hsite]
      exact hoff
  · rcases hbefore with hstep | hquiet | hoff
    · exact absurd hstep hpass
    · exact Or.inl (h.quiet hanswer hactions hquiet).1
    · obtain ⟨marker, image, -, hhost, -⟩ := h.host_eq hpass
      right
      rw [IsOff, hhost]
      exact hoff

/-- Only a pass that comes to a look at the credentials asks the source for them. -/
theorem asks_of_fetches (h : (tick.runOn machine).2.site.fetches ≠ machine.site.fetches) :
    machine.Asks := by
  obtain ⟨run, journal, -, hcourse, htick⟩ := exists_tick machine
  rw [htick] at h
  change run.2.site.fetches ≠ _ at h
  cases hcourse with
  | diverted => exact absurd rfl h
  | tornDown =>
    rw [Pass.runOn_act] at h
    exact absurd rfl h
  | suspended hrequested hstate => exact ⟨hrequested, hstate⟩
  | unhandled _ _ hrequested hnone => exact ⟨hrequested, ne_deprovisioning_of_none hnone⟩
  | cancelled hrequested hcancellable =>
    exact ⟨hrequested, ne_deprovisioning_of_isCancellable hcancellable⟩
  | acted hrequested _ hstate => exact ⟨hrequested, hstate⟩

variable {start : Machine} {steps : List Step}

theorem scripted_run (hactions : start.site.Scripted Behaviour.LeavesRecord)
    (hrun : Run (Steady answer) start steps machine) :
    machine.site.Scripted Behaviour.LeavesRecord := by
  induction hrun with
  | nil => exact hactions
  | snoc run step allowed ih => exact allowed.scripted ih

/-- While the source answers the same nothing new is remembered of a quiet host. -/
theorem quiet_run (hanswer : answer.Recognizable)
    (hactions : start.site.Scripted Behaviour.LeavesRecord) (hquiet : start.Quiet answer)
    (hrun : Run (Steady answer) start steps machine) : machine.Quiet answer ∧
      machine.site.host.sshStatus = start.site.host.sshStatus := by
  induction hrun with
  | nil => exact ⟨hquiet, rfl⟩
  | snoc run step allowed ih =>
    obtain ⟨hbefore, hstatus⟩ := ih
    obtain ⟨hbehind, hkept⟩ := allowed.quiet hanswer (scripted_run hactions run) hbefore
    exact ⟨hbehind, hkept.trans hstatus⟩

theorem quiet_or_isOff_run (hanswer : answer.Recognizable)
    (hactions : start.site.Scripted Behaviour.LeavesRecord)
    (hrun : Run (Steady answer) start steps machine) (hpassed : ∃ step ∈ steps, step.IsPass) :
    machine.Quiet answer ∨ machine.IsOff := by
  induction hrun with
  | nil =>
    obtain ⟨step, hmember, -⟩ := hpassed
    cases hmember
  | snoc run step allowed ih =>
    apply allowed.quiet_or_isOff hanswer (scripted_run hactions run)
    obtain ⟨other, hmember, hpass⟩ := hpassed
    rcases List.mem_append.mp hmember with hmember | hmember
    · exact Or.inr (ih ⟨other, hmember, hpass⟩)
    · rw [List.mem_singleton.mp hmember] at hpass
      exact Or.inl hpass

/-- A rotation is acted on once. Along every run over which the source answers the same, no pass
but the first sends the host elsewhere for what its look at the credentials finds, and behind
a pass that asked for the credentials nothing new is remembered of them. -/
theorem rotation_acted_once (hanswer : answer.Recognizable)
    (hactions : start.site.Scripted Behaviour.LeavesRecord)
    (hrun : Run (Steady answer) start steps machine) (hanswered : machine.site.answer = answer) :
    ((∃ step ∈ steps, step.IsPass) → ¬ machine.IsRedirected) ∧
    ∀ pass : Step, pass.IsPass → (machine.after pass).site.fetches ≠ machine.site.fetches →
      ∀ rest final, Run (Steady answer) (machine.after pass) rest final →
        final.site.host.sshStatus = (machine.after pass).site.host.sshStatus := by
  subst hanswered
  constructor
  · intro hpassed
    rcases quiet_or_isOff_run hanswer hactions hrun hpassed with hquiet | hoff
    · exact not_isRedirected_of_quiet hquiet hanswer
    · exact not_isRedirected_of_isOff hoff
  · intro pass hpass hfetches rest final hrest
    have hsite := after_pass_site hpass machine
    rw [hsite] at hfetches
    have hscripted := scripted_run hactions hrun
    have hquiet := quiet_of_asks (hscripted.due (fun _ => rfl) _) hanswer
      (asks_of_fetches hfetches)
    exact (quiet_run hanswer (scripted_pass hscripted hpass)
      (hquiet.of_marks id (by rw [hsite]) (after_pass_service hpass machine)) hrest).2

/-- A host that is made ready under a key whose credential has lost its data is sent back to the
installation of its image once. The credential cannot be remembered, and yet the next pass
leaves the host where it is. -/
theorem rotation_acted_once_provisioning :
    let lost : Credential := ⟨.str "key", .object []⟩
    let host := { HostRecord.new (.str "host") with
      state := .provisioning
      sshStatus := .known ⟨some ⟨.str "other", fingerprintValue []⟩, none⟩ }
    let new := fresh host
    let start := { new with site := { new.site with source := .provider ⟨some lost, none, none⟩ } }
    let behind := start.after .tick
    start.IsRedirected ∧ behind.site.host.state = .imageInstalling ∧ ¬ behind.IsRedirected ∧
      (behind.after .tick).site.host.sshStatus = behind.site.host.sshStatus := by
  intro lost host new start behind
  have hlost : lost.Recognizable := by
    refine ⟨Value.equal_str "key", fun fields hfields => ?_, fun _ => nofun⟩
    cases hfields
    exact List.nodup_nil
  have hrecognizable : Answer.Recognizable start.site.answer := by
    intro fetched hfetched
    cases hfetched
    constructor
    · rintro credential ⟨⟩
      exact hlost
    · exact fun _ => nofun
  have hactions : start.site.Scripted Behaviour.LeavesRecord := fun _ _ => nofun
  have hnext : (Pass.gate start.service start.passName start.site).2.next = .imageInstalling := rfl
  have hredirected : start.IsRedirected := by
    refine ⟨⟨rfl, nofun⟩, ?_⟩
    rw [hnext]
    exact nofun
  have hrun : Run (Steady start.site.answer) start [.tick] behind :=
    Run.nil.snoc .tick (.pass .tick rfl)
  have hrest : Run (Steady start.site.answer) behind [.tick] (behind.after .tick) :=
    Run.nil.snoc .tick (.pass .tick rfl)
  have hfirst := rotation_acted_once hrecognizable hactions .nil rfl
  have hsecond := rotation_acted_once hrecognizable hactions hrun rfl
  have hfetches : behind.site.fetches ≠ start.site.fetches := by
    change (1 : Nat) ≠ 0
    decide
  exact ⟨hredirected, rfl, hsecond.1 ⟨.tick, List.mem_singleton_self _, .tick⟩,
    hfirst.2 .tick .tick hfetches [.tick] _ hrest⟩

end Machine

end HostLifecycle.Reconciliation
