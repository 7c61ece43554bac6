import HostLifecycle.Proofs.Reconciliation.Clearance
import HostLifecycle.Reconciliation.Machine

/-!
The course of a pass. A pass goes one of six ways, and each says under which conditions
it is gone and what is behind it. Every property of a pass is read off from these ways,
and none of them opens the pass itself.
-/

namespace HostLifecycle

def HostRecord.IsNamed (host : HostRecord) : Prop := ∃ name, host.name = .str name

theorem HostRecord.IsNamed.untold {host : HostRecord} (h : host.IsNamed) :
    host.name.untold? = none := by
  obtain ⟨name, hname⟩ := h
  rw [hname, Value.untold?_str]

def RecordStep.Writes (name : Text) : RecordStep → Prop
  | assign field _ => field = name
  | write field _ => field = name
  | _ => False

namespace Reconciliation

open Attempt

theorem ne_deprovisioning_of_none {state : State} (h : state = .none) :
    state ≠ .deprovisioning := by
  rw [h]
  exact nofun

theorem ne_deprovisioning_of_isCancellable {state : State} (h : isCancellable state = true) :
    state ≠ .deprovisioning := by
  rintro rfl
  cases h

/-- What a behaviour comes to on a record: how it ends, unless an effect of it fails. -/
def Behaviour.result (behaviour : Behaviour) (host : HostRecord) : Except Fault Outcome :=
  ((RecordStep.performAll behaviour.effects).runOn host).1.bind fun _ => behaviour.ending

def Behaviour.left (behaviour : Behaviour) (host : HostRecord) : HostRecord :=
  ((RecordStep.performAll behaviour.effects).runOn host).2

def Behaviour.Writes (name : Text) (behaviour : Behaviour) : Prop :=
  ∃ access ∈ behaviour.effects, access.Writes name

namespace Site

def due (site : Site) (state : State) : Behaviour := (Behaviour.taken (site.actions state)).1

/-- The surroundings behind the call of the action of a state. -/
def acted (site : Site) (state : State) : Site :=
  { site with
    host := (site.due state).left site.host
    calls := site.calls ++ [state]
    actions := fun other =>
      if other = state then (Behaviour.taken (site.actions state)).2 else site.actions other }

theorem runOn_act (state : State) (site : Site) :
    (act state).runOn site = ((site.due state).result site.host, site.acted state) := by
  have htake : (takeAction state).runOn site = (.ok (site.due state),
      { site with
        calls := site.calls ++ [state]
        actions := fun other => if other = state then
          (Behaviour.taken (site.actions state)).2 else site.actions other }) := rfl
  rw [act, runOn_bind_ok htake, runOn_bind, onHost, runOn_within]
  simp only [Behaviour.result, acted, Behaviour.left]
  rcases (RecordStep.performAll (site.due state).effects).runOn site.host with ⟨fault | _, host⟩
  · rfl
  · rfl

end Site

namespace Pass

/-- The pass behind the call of the action of the state in which it started. -/
def acted (pass : Pass) : Pass :=
  { pass with
    site := pass.site.acted pass.start
    next := if completes ((pass.site.due pass.start).result pass.site.host) then pass.advanced
      else pass.next }

theorem runOn_act (pass : Pass) :
    act.runOn pass =
      ((pass.site.due pass.start).result pass.site.host, pass.acted) := by
  have hsite : (onSite (Site.act pass.start)).runOn pass =
      ((pass.site.due pass.start).result pass.site.host,
        { pass with site := pass.site.acted pass.start }) := by
    rw [runOn_onSite, Site.runOn_act]
  rw [act, runOn_bind, runOn_get, acted]
  simp only
  generalize (pass.site.due pass.start).result pass.site.host = result at hsite
  cases result with
  | error fault => rw [runOn_bind_error hsite]; rfl
  | ok outcome =>
    rw [runOn_bind_ok hsite]
    cases outcome <;> rfl

theorem runOn_log (logger : Text) (severity : Logging.Severity) (message : Text)
    (extras : Fields Value) (pass : Pass) : ∃ journal,
    (log logger severity message extras).runOn pass =
      (.ok (), { pass with site := pass.site.withJournal journal }) :=
  ⟨_, rfl⟩

theorem diversion?_eq_none {next : State} (h : diversion? next = none) :
    next = .deprovisioning := by
  unfold diversion? at h
  split at h
  next heq => exact heq
  next => split at h <;> cases h

/-- A pass is diverted exactly if the deletion is requested and the host is not being
torn down. -/
theorem runOn_divert (pass : Pass) :
    (pass.site.host.deletionRequested = true ∧ ∃ state journal,
      diversion? pass.next = some state ∧ divert.runOn pass =
        (.ok true, { pass with site := pass.site.withJournal journal, next := state })) ∨
    ((pass.site.host.deletionRequested = true → pass.next = .deprovisioning) ∧
      divert.runOn pass = (.ok false, pass)) := by
  rw [divert, runOn_bind, runOn_get]
  cases hrequested : pass.site.host.deletionRequested with
  | false =>
    refine Or.inr ⟨nofun, ?_⟩
    simp only [hrequested, Bool.false_eq_true, if_false, runOn_pure]
  | true =>
    simp only [hrequested, if_true]
    cases hdiversion : diversion? pass.next with
    | none => exact Or.inr ⟨fun _ => diversion?_eq_none hdiversion, rfl⟩
    | some state => exact Or.inl ⟨trivial, state, _, rfl, rfl⟩

theorem runOn_handle_of_none (logger : Text) {pass : Pass} (hstart : pass.start = .none) :
    ∃ outcome journal, outcome ≠ .complete ∧ (handle logger).runOn pass =
      (.ok outcome, { pass with site := pass.site.withJournal journal }) := by
  obtain ⟨journal, hlog⟩ := runOn_log logger .warning
    ("No handler found for state " ++ pass.start.text) (pass.hostAt pass.start) pass
  refine ⟨.failed (.lifecycle (.unknownState (.str pass.start.text))), journal, nofun, ?_⟩
  have hhandled : pass.start.isHandled = false := by
    rw [hstart]
    rfl
  rw [handle, runOn_bind, runOn_get]
  simp only [hhandled, Bool.not_false, if_true]
  rw [reportUnhandled, runOn_bind, runOn_get]
  exact runOn_bind_ok hlog

theorem runOn_handle_of_cancelled (logger : Text) {pass : Pass}
    (hcancellable : isCancellable pass.start = true)
    (hcancelled : pass.site.host.isCancelled = true) :
    (handle logger).runOn pass = (.ok .complete, { pass with next := .deprovisioning }) := by
  have hhandled : pass.start.isHandled = true := by
    cases hstart : pass.start <;> simp [hstart, isCancellable, State.isForward, State.isHandled]
      at hcancellable ⊢
  rw [handle, runOn_bind, runOn_get]
  simp only [hhandled, hcancellable, hcancelled, Bool.not_true, Bool.false_eq_true, if_false,
    Bool.and_self, if_true]
  rfl

theorem runOn_handle_of_act (logger : Text) {pass : Pass} (hstart : pass.start ≠ .none)
    (hkept : isCancellable pass.start = true → pass.site.host.isCancelled = false) :
    (handle logger).runOn pass = act.runOn pass := by
  have hhandled : pass.start.isHandled = true := by
    simpa [State.isHandled] using hstart
  have hgoes : (isCancellable pass.start && pass.site.host.isCancelled) = false := by
    cases hcancellable : isCancellable pass.start with
    | false => rfl
    | true => rw [hkept hcancellable]; rfl
  rw [handle, runOn_bind, runOn_get]
  simp only [hhandled, hgoes, Bool.not_true, Bool.false_eq_true, if_false]

/-- The run of the look at the credentials with which a pass begins. -/
def gate (service : Service) (logger : Text) (site : Site) : Except Fault Outcome × Pass :=
  (checkCredentials service logger).runOn (Pass.of site)

/-- The six ways that a pass goes before it is committed. A requested deletion diverts it; a
teardown goes on without a look at the credentials; and in every other state the look
comes first, and only if it completes the state is handled. -/
inductive Course (service : Service) (logger : Text) (site : Site) :
    Except Fault Outcome × Pass → Prop where
  | diverted (state : State) (journal : List Logging.LogEntry)
      (hrequested : site.host.deletionRequested = true)
      (hdiversion : diversion? site.host.state = some state) :
    Course service logger site
      (.ok .complete, ⟨site.withJournal journal, site.host.state, state⟩)
  | tornDown (hstate : site.host.state = .deprovisioning) :
    Course service logger site (act.runOn (Pass.of site))
  | suspended (hrequested : site.host.deletionRequested = false)
      (hstate : site.host.state ≠ .deprovisioning)
      (hgate : completes (gate service logger site).1 = false) :
    Course service logger site (gate service logger site)
  | unhandled (outcome : Outcome) (journal : List Logging.LogEntry)
      (hrequested : site.host.deletionRequested = false)
      (hstate : site.host.state = .none)
      (hgate : completes (gate service logger site).1 = true)
      (houtcome : outcome ≠ .complete) :
    Course service logger site
      (.ok outcome, { (gate service logger site).2 with
        site := (gate service logger site).2.site.withJournal journal })
  | cancelled (hrequested : site.host.deletionRequested = false)
      (hstate : isCancellable site.host.state = true)
      (hgate : completes (gate service logger site).1 = true)
      (hcancelled : site.host.isCancelled = true) :
    Course service logger site
      (.ok .complete, { (gate service logger site).2 with next := .deprovisioning })
  | acted (hrequested : site.host.deletionRequested = false)
      (hnone : site.host.state ≠ .none)
      (hstate : site.host.state ≠ .deprovisioning)
      (hgate : completes (gate service logger site).1 = true)
      (hkept : isCancellable site.host.state = true → site.host.isCancelled = false) :
    Course service logger site (act.runOn (gate service logger site).2)

theorem gated_gate (service : Service) (logger : Text) {site : Site}
    (hstate : site.host.state ≠ .deprovisioning) :
    Gated service logger (Pass.of site) (gate service logger site) :=
  gated_checkCredentials service logger (Pass.of site) hstate

/-- Behind the look at the credentials the same behaviour of the action is due. -/
theorem due_gate (service : Service) (logger : Text) {site : Site}
    (hstate : site.host.state ≠ .deprovisioning) :
    (gate service logger site).2.site.due (gate service logger site).2.start =
      site.due site.host.state := by
  have hgated := gated_gate service logger hstate
  have hactions : (gate service logger site).2.site.actions = site.actions :=
    congrArg Setting.actions hgated.setting_eq
  have hstart : (gate service logger site).2.start = site.host.state := hgated.start_eq
  rw [Site.due, hactions, hstart]
  rfl

/-- Behind a look that does not complete the pass ends where the look left it. -/
theorem runOn_gated (service : Service) (logger : Text) (site : Site) :
    (do
      let outcome ← checkCredentials service logger
      if outcome.isComplete then handle logger else pure outcome).runOn (Pass.of site) =
      if completes (gate service logger site).1 then
        (handle logger).runOn (gate service logger site).2
      else gate service logger site := by
  unfold gate
  rw [runOn_bind]
  generalize (checkCredentials service logger).runOn (Pass.of site) = run
  obtain ⟨fault | outcome, behind⟩ := run
  · simp [completes]
  · cases outcome <;> simp [completes, Outcome.isComplete]

/-- Behind the look at the credentials the record is still in the state in which the pass
started. -/
theorem state_gate (service : Service) (logger : Text) {site : Site}
    (hstate : site.host.state ≠ .deprovisioning) :
    (gate service logger site).2.site.host.state = (gate service logger site).2.start := by
  have hgated := gated_gate service logger hstate
  have hkeeps : (gate service logger site).2.site.host.state = site.host.state :=
    congrArg Setting.state hgated.setting_eq
  exact hkeeps.trans hgated.start_eq.symm

/-- The calls behind an action that is called behind the look at the credentials. -/
theorem calls_act_gate (service : Service) (logger : Text) {site : Site}
    (hstate : site.host.state ≠ .deprovisioning) :
    (act.runOn (gate service logger site).2).2.site.calls =
      site.calls ++ [site.host.state] := by
  have hgated := gated_gate service logger hstate
  have hstart : (gate service logger site).2.start = site.host.state := hgated.start_eq
  have hcalls : (gate service logger site).2.site.calls = site.calls :=
    congrArg Setting.calls hgated.setting_eq
  rw [runOn_act, ← hcalls, ← hstart]
  rfl

/-- No look at the credentials withdraws the image. -/
theorem isCancelled_gate (service : Service) (logger : Text) {site : Site}
    (hstate : site.host.state ≠ .deprovisioning) :
    (gate service logger site).2.site.host.isCancelled = site.host.isCancelled :=
  congrArg (fun setting : Setting =>
    { site.host with installImage := setting.installImage }.isCancelled)
    (gated_gate service logger hstate).setting_eq

/-- Behind a look at the credentials that completes the state is handled: it has no action, or
the image was withdrawn, or the action is called. -/
theorem course_handle (service : Service) (logger : Text) {site : Site}
    (hrequested : site.host.deletionRequested = false)
    (hstate : site.host.state ≠ .deprovisioning)
    (hgate : completes (gate service logger site).1 = true) :
    Course service logger site ((handle logger).runOn (gate service logger site).2) := by
  have hgated := gated_gate service logger hstate
  have hstart : (gate service logger site).2.start = site.host.state := hgated.start_eq
  have himage := isCancelled_gate service logger hstate
  by_cases hnone : site.host.state = .none
  · obtain ⟨outcome, journal, houtcome, hrun⟩ :=
      runOn_handle_of_none logger (hstart.trans hnone)
    rw [hrun]
    exact .unhandled outcome journal hrequested hnone hgate houtcome
  by_cases hends : isCancellable site.host.state = true ∧ site.host.isCancelled = true
  · obtain ⟨hcancellable, hcancelled⟩ := hends
    rw [runOn_handle_of_cancelled logger (hstart ▸ hcancellable) (himage.trans hcancelled)]
    exact .cancelled hrequested hcancellable hgate hcancelled
  · have hkept : isCancellable site.host.state = true → site.host.isCancelled = false := by
      intro hcancellable
      cases hcancelled : site.host.isCancelled with
      | false => rfl
      | true => exact absurd ⟨hcancellable, hcancelled⟩ hends
    have hact : (handle logger).runOn (gate service logger site).2 =
        act.runOn (gate service logger site).2 :=
      runOn_handle_of_act logger (hstart ▸ hnone) fun hcancellable =>
        himage.trans (hkept (hstart ▸ hcancellable))
    rw [hact]
    exact .acted hrequested hnone hstate hgate hkept

theorem course_decide (service : Service) (logger : Text) (site : Site) :
    Course service logger site ((decide service logger).runOn (Pass.of site)) := by
  rw [decide]
  rcases runOn_divert (Pass.of site) with
    ⟨hrequested, state, journal, hdiversion, hrun⟩ | ⟨hleft, hrun⟩
  · rw [runOn_bind_ok hrun]
    exact .diverted state _ hrequested hdiversion
  rw [runOn_bind_ok hrun]
  simp only [Bool.false_eq_true, if_false]
  by_cases hstate : site.host.state = .deprovisioning
  · rw [runOn_bind_ok (runOn_checkCredentials_of_deprovisioning service logger _ hstate)]
    have hact : (handle logger).runOn (Pass.of site) = act.runOn (Pass.of site) := by
      apply runOn_handle_of_act logger
      · rw [Pass.of, hstate]
        exact nofun
      · intro hcancellable
        rw [Pass.of, hstate] at hcancellable
        cases hcancellable
    simp only [Outcome.isComplete, if_true, hact]
    exact .tornDown hstate
  have hrequested : site.host.deletionRequested = false := by
    cases hmarked : site.host.deletionRequested with
    | false => rfl
    | true => exact absurd (hleft hmarked) hstate
  rw [runOn_gated]
  cases hgate : completes (gate service logger site).1 with
  | false => exact .suspended hrequested hstate hgate
  | true =>
    simp only [if_true]
    exact course_handle service logger hrequested hstate hgate

/-- Behind an action that leaves the record alone the record is as the pass found it, or as
the look at the credentials left it. -/
theorem Course.host_eq {service : Service} {logger : Text} {site : Site}
    {run : Except Fault Outcome × Pass} (h : Course service logger site run)
    (hleaves : ∀ host, (site.due site.host.state).left host = host) :
    (site.host.deletionRequested = true ∨ site.host.state = .deprovisioning) ∧
      run.2.site.host = site.host ∨
    site.host.deletionRequested = false ∧ site.host.state ≠ .deprovisioning ∧
      run.2.site.host = (gate service logger site).2.site.host := by
  cases h with
  | diverted _ _ hrequested => exact Or.inl ⟨Or.inl hrequested, rfl⟩
  | tornDown hstate =>
    rw [runOn_act]
    exact Or.inl ⟨Or.inr hstate, hleaves site.host⟩
  | suspended hrequested hstate => exact Or.inr ⟨hrequested, hstate, rfl⟩
  | unhandled _ _ hrequested hnone =>
    exact Or.inr ⟨hrequested, ne_deprovisioning_of_none hnone, rfl⟩
  | cancelled hrequested hcancellable =>
    exact Or.inr ⟨hrequested, ne_deprovisioning_of_isCancellable hcancellable, rfl⟩
  | acted hrequested _ hstate =>
    have hdue := due_gate service logger hstate
    rw [runOn_act]
    refine Or.inr ⟨hrequested, hstate, ?_⟩
    change ((gate service logger site).2.site.due (gate service logger site).2.start).left _ = _
    rw [hdue]
    exact hleaves _

/-- An action that leaves the record alone was called on the record that is behind the pass. -/
theorem Course.called {service : Service} {logger : Text} {site : Site}
    {run : Except Fault Outcome × Pass} (h : Course service logger site run)
    (hleaves : ∀ host, (site.due site.host.state).left host = host) :
    run.2.site.calls = site.calls ∨
    ∃ before : Pass, run = act.runOn before ∧ before.site.calls = site.calls ∧
      run.2.site.calls = site.calls ++ [before.start] ∧ run.2.site.host = before.site.host := by
  cases h with
  | diverted => exact Or.inl rfl
  | suspended _ hstate =>
    exact Or.inl (congrArg Setting.calls (gated_gate service logger hstate).setting_eq)
  | unhandled _ _ _ hnone =>
    have hgated := gated_gate service logger (ne_deprovisioning_of_none hnone)
    exact Or.inl (congrArg Setting.calls hgated.setting_eq)
  | cancelled _ hcancellable =>
    have hgated := gated_gate service logger (ne_deprovisioning_of_isCancellable hcancellable)
    exact Or.inl (congrArg Setting.calls hgated.setting_eq)
  | tornDown =>
    refine Or.inr ⟨Pass.of site, rfl, rfl, ?_, ?_⟩ <;> rw [runOn_act]
    · rfl
    · exact hleaves site.host
  | acted _ _ hstate =>
    have hgated := gated_gate service logger hstate
    have hcalls : (gate service logger site).2.site.calls = site.calls :=
      congrArg Setting.calls hgated.setting_eq
    have hdue := due_gate service logger hstate
    refine Or.inr ⟨(gate service logger site).2, rfl, hcalls, ?_, ?_⟩ <;> rw [runOn_act]
    · rw [← hcalls]
      rfl
    · change ((gate service logger site).2.site.due (gate service logger site).2.start).left _ = _
      rw [hdue]
      exact hleaves _

/-- What holds of the surroundings at the start of a pass holds behind it, if it holds behind
the look at the credentials, and neither a message nor the call of the action ends it. -/
theorem Course.holds {service : Service} {logger : Text} {site : Site}
    {run : Except Fault Outcome × Pass} (h : Course service logger site run)
    (property : Site → Prop) (hsite : property site)
    (hjournal : ∀ found journal, property found → property (found.withJournal journal))
    (hgate : site.host.deletionRequested = false → site.host.state ≠ .deprovisioning →
      property (gate service logger site).2.site)
    (hacted : ∀ found : Site, found.due site.host.state = site.due site.host.state →
      property found → property (found.acted site.host.state)) :
    property run.2.site := by
  cases h with
  | diverted => exact hjournal site _ hsite
  | tornDown =>
    rw [runOn_act]
    exact hacted site rfl hsite
  | suspended hrequested hstate => exact hgate hrequested hstate
  | unhandled _ _ hrequested hnone =>
    exact hjournal _ _ (hgate hrequested (ne_deprovisioning_of_none hnone))
  | cancelled hrequested hcancellable =>
    exact hgate hrequested (ne_deprovisioning_of_isCancellable hcancellable)
  | acted hrequested _ hstate =>
    have hgated := gated_gate service logger hstate
    have hstart : (gate service logger site).2.start = site.host.state := hgated.start_eq
    have hdue := due_gate service logger hstate
    rw [hstart] at hdue
    rw [runOn_act, Pass.acted, hstart]
    exact hacted _ hdue (hgate hrequested hstate)

/-- The state that is written behind a pass: the one that was decided on, unless it is the
one in which the pass started. -/
def settledState (pass : Pass) : State :=
  if pass.next = pass.start then pass.site.host.state else pass.next

/-- Unless the state of the record was changed meanwhile, what was decided on is written. -/
theorem settledState_eq_next {pass : Pass} (h : pass.site.host.state = pass.start) :
    pass.settledState = pass.next := by
  unfold settledState
  split
  next hnext => exact h.trans hnext.symm
  next => rfl

/-- The state that is written behind an action that leaves the state of the record. -/
theorem settledState_acted {pass : Pass} (hhost : pass.site.host.state = pass.start)
    (hleaves : ∀ host, ((pass.site.due pass.start).left host).state = host.state) :
    pass.acted.settledState =
      if completes ((pass.site.due pass.start).result pass.site.host) then pass.advanced
      else pass.next := by
  have hkeeps : pass.acted.site.host.state = pass.start := (hleaves _).trans hhost
  exact settledState_eq_next hkeeps

/-- The state that is written behind a teardown. -/
theorem settledState_of_tornDown {site : Site} (hstate : site.host.state = .deprovisioning)
    (hleaves : ∀ host, ((site.due site.host.state).left host).state = host.state) :
    (Pass.of site).acted.settledState =
      if completes ((site.due site.host.state).result site.host) then .none
      else .deprovisioning := by
  have hkeeps : (Pass.of site).site.host.state = (Pass.of site).start := rfl
  rw [settledState_acted hkeeps hleaves, advanced, Pass.of, hstate]
  rfl

/-- What surrounds the host once a pass is committed. -/
def settled (journal : List Logging.LogEntry) (pass : Pass) : Site :=
  { pass.site.withJournal journal with
    host := { pass.site.host with state := pass.settledState } }

theorem committed_eq (logger : Text) (pass : Pass) :
    ∃ journal, committed logger pass = { pass with site := pass.settled journal } := by
  unfold committed
  by_cases hnext : pass.next = pass.start
  · refine ⟨pass.site.journal, ?_⟩
    have hsame : pass.settledState = pass.site.host.state := if_pos hnext
    have hchanged : pass.isChanged = false := by
      simpa [isChanged] using hnext
    rw [hchanged, settled, hsame]
    rfl
  · have hchanged : pass.isChanged = true := by
      simpa [isChanged] using hnext
    obtain ⟨journal, hlog⟩ := runOn_log logger .info pass.changeMessage pass.changeExtras pass
    refine ⟨journal, ?_⟩
    rw [if_pos hchanged, writeState, runOn_bind, runOn_get]
    simp only
    rw [runOn_bind_ok hlog, runOn_modify]
    simp only [settled, settledState, hnext, if_false]
    rfl

end Pass

namespace Machine

/-- The pass over the host of a machine before it is committed, and its result. -/
def decided (machine : Machine) : Except Fault Outcome × Pass :=
  (Pass.decide machine.service machine.passName).runOn (Pass.of machine.site)

/-- A machine whose pass can tell of the host wherever it has to: by its name at the start, and by
the name that the pass leaves to it if the state changes. What the action writes, it writes to the
fields of the record and not in the place of them all. -/
structure Tells (machine : Machine) : Prop where
  start : machine.site.host.name.untold? = none
  change : machine.decided.2.next ≠ machine.site.host.state →
    machine.decided.2.site.host.name.untold? = none
  fields : ¬ (machine.site.due machine.site.host.state).Writes "__dict__"

/-- A pass over the host of a machine goes one of the six ways and is committed. -/
theorem exists_tick (machine : Machine) : ∃ run journal,
    (Pass.decide machine.service machine.passName).runOn (Pass.of machine.site) = run ∧
    Pass.Course machine.service machine.passName machine.site run ∧
    tick.runOn machine =
      (run.1, { machine with site := run.2.settled journal, latest := run.2.next }) := by
  have hcourse := Pass.course_decide machine.service machine.passName machine.site
  obtain ⟨journal, hcommitted⟩ := Pass.committed_eq machine.passName
    ((Pass.decide machine.service machine.passName).runOn (Pass.of machine.site)).2
  refine ⟨_, journal, rfl, hcourse, ?_⟩
  have htick : tick.runOn machine =
      (((Pass.reconcile machine.service machine.passName).runOn (Pass.of machine.site)).1,
        { machine with
          site := ((Pass.reconcile machine.service machine.passName).runOn
            (Pass.of machine.site)).2.site
          latest := ((Pass.reconcile machine.service machine.passName).runOn
            (Pass.of machine.site)).2.next }) := rfl
  rw [htick, Pass.reconcile, runOn_andFinally, hcommitted]

/-- A host that is named by a text can be told of, if the action of its state leaves it one. -/
theorem tells_of_named {machine : Machine} (hnamed : machine.site.host.IsNamed)
    (hleaves : ∀ host : HostRecord, host.IsNamed →
      ((machine.site.due machine.site.host.state).left host).IsNamed)
    (hfields : ¬ (machine.site.due machine.site.host.state).Writes "__dict__") :
    machine.Tells := by
  obtain ⟨run, -, hrun, hcourse, -⟩ := exists_tick machine
  have hleft : run.2.site.host.IsNamed := by
    apply hcourse.holds (·.host.IsNamed) hnamed
    · exact fun _ _ hfound => hfound
    · intro _ hstate
      obtain ⟨name, hname⟩ := hnamed
      exact ⟨name, (congrArg Setting.name (Pass.gated_gate _ _ hstate).setting_eq).trans hname⟩
    · intro found hdue hfound
      change ((found.due machine.site.host.state).left found.host).IsNamed
      rw [hdue]
      exact hleaves _ hfound
  refine ⟨hnamed.untold, fun _ => ?_, hfields⟩
  rw [decided, hrun]
  exact hleft.untold

/-- The machine of a host around which nothing has happened yet. -/
def fresh (host : HostRecord) : Machine :=
  let recorder := Audit.Recorder.new none (some Audit.defaultCapacity) true
  let site : Site :=
    { host := host
      trail := ⟨recorder, ⟨Storage.Disk.empty, Audit.Clock.still, []⟩⟩
      source := .provider Offer.empty
      environment := []
      actions := fun _ => []
      calls := []
      fetches := 0 }
  of site ⟨[], fun _ => none⟩ none

/-- A pass that leaves no trace in the machine does the same to the host. -/
theorem tickOnce_site (machine : Machine) :
    (tickOnce.runOn machine).2.site = (tick.runOn machine).2.site := rfl

end Machine

end Reconciliation

end HostLifecycle
