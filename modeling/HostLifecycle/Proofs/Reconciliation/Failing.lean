import HostLifecycle.Proofs.Audit.Taking
import HostLifecycle.Proofs.Reconciliation.Course

/-!
Terminal failures of a pass. Which failure a pass meets is told from the record, the answer of
the source and the required keys alone: the changed credential of a provisioned host, or a
credential that cannot be used. A failure is entered once in the record and twice in the audit
trail, and a pass that meets none leaves both as they are.
-/

namespace HostLifecycle.Reconciliation

open Attempt Audit

/-- A terminal failure: the reason that is told ahead of it, its class and its message. -/
structure Failure where
  reason : Text
  errorType : ErrorType
  message : Text

namespace Failure

/-- The credential of a provisioned host has changed. -/
def rotation : Failure :=
  ⟨"SSHSecretUnexpectedlyModified", .registration, refusalMessage⟩

def invalid (kind : CredentialKind) (credential : Credential) (problem : CredentialProblem) :
    Failure :=
  ⟨"SSHKeyInvalid", .preparation, problemMessage kind credential problem⟩

def outcome (failure : Failure) : Outcome :=
  .failed (.lifecycle (.terminal failure.errorType (.str failure.message)))

end Failure

/-- What terminal failures are entered in, and the name that they are entered under. -/
structure Ledger where
  name : Value
  errorType : Held ErrorType
  errorMessage : Value
  errorCount : Value
  hidden : List Operation
  recorder : Recorder

def Site.ledger (site : Site) : Ledger where
  name := site.host.name
  errorType := site.host.errorType
  errorMessage := site.host.errorMessage
  errorCount := site.host.errorCount
  hidden := site.host.hidden
  recorder := site.trail.recorder

namespace Ledger

def events (ledger : Ledger) (failure : Failure) (shown : Value) (first second : Text) :
    List Value :=
  [eventOf first ledger.name (.str failure.reason) shown (.str Trail.warningClass),
    eventOf second ledger.name (.str failure.errorType.reason) shown (.str Trail.warningClass)]

/-- The ledger behind what a pass meets: a failure is entered with its class and its message,
counted once, and told in two warnings. -/
inductive Entered (ledger : Ledger) : Option Failure → Ledger → Prop where
  | none : Entered ledger none ledger
  | some {failure : Failure} {count : Int} {shown : Value} (first second : Text)
      (hcount : ledger.errorCount = .int count)
      (hshown : redactMessage ledger.recorder.redacts (.str failure.message) = .ok shown) :
    Entered ledger (some failure) { ledger with
      errorType := .known failure.errorType
      errorMessage := .str failure.message
      errorCount := .int (count + 1)
      recorder := ledger.recorder.holding
        (ledger.recorder.events ++ ledger.events failure shown first second) }

theorem Entered.eq_of_none {ledger after : Ledger} (h : ledger.Entered Option.none after) :
    after = ledger := by
  cases h
  rfl

/-- Failures can be entered: the host can be told of by its name, the errors are counted by a
number, nothing hides the operation that counts them, and the events are kept in memory only. -/
structure TakesFailures (ledger : Ledger) : Prop where
  name : ledger.name.untold? = Option.none
  errorCount : ∃ count, ledger.errorCount = .int count
  setError : ledger.hidden.contains .setError = false
  inMemory : ledger.recorder.logFile = Option.none

theorem Entered.takesFailures {ledger after : Ledger} {failure : Option Failure}
    (h : ledger.Entered failure after) (htakes : ledger.TakesFailures) : after.TakesFailures := by
  cases h with
  | none => exact htakes
  | some => exact ⟨htakes.name, ⟨_, rfl⟩, htakes.setError, htakes.inMemory⟩

end Ledger

namespace Site

variable {site : Site}

def enter (failure : Failure) : Attempt Site Outcome := do
  warn failure.reason (.str failure.message)
  recordFailure failure.errorType (.str failure.message)

theorem runOn_warn_of_record {reason : Text} {message event : Value} {behind : Trail}
    (hrecord : (Trail.record site.host.name (.str reason) message
      (.str Trail.warningClass)).runOn site.trail = (.ok event, behind)) :
    (warn reason message).runOn site = (.ok (), { site with trail := behind }) := by
  rw [warn, runOn_bind, runOn_get]
  simp only
  rw [runOn_bind, onTrail, runOn_within, hrecord]
  rfl

theorem runOn_warn (site : Site) (hfile : site.trail.recorder.logFile = none)
    (hroom : site.trail.recorder.HasRoom 1) {message shown : Value}
    (hshown : redactMessage site.trail.recorder.redacts message = .ok shown) (reason : Text) :
    ∃ time behind, (warn reason message).runOn site = (.ok (), { site with trail := behind }) ∧
      behind.recorder = site.trail.recorder.holding (site.trail.recorder.events ++
        [eventOf time site.host.name (.str reason) shown (.str Trail.warningClass)]) := by
  obtain ⟨behind, hrecord, hrecorder⟩ := Trail.runOn_record_of_none hfile hroom
    site.host.name (.str reason) (.str Trail.warningClass) hshown
  exact ⟨_, behind, runOn_warn_of_record hrecord, hrecorder⟩

theorem runOn_warn_of_takesEvents (h : site.trail.TakesEvents) (reason message : Text) :
    ∃ behind, (warn reason (.str message)).runOn site = (.ok (), { site with trail := behind }) ∧
      behind.TakesEvents ∧ behind.recorder.logFile = site.trail.recorder.logFile := by
  obtain ⟨event, behind, hrecord, htakes, hfile⟩ :=
    h.record site.host.name (.str reason) (.str Trail.warningClass) message
  exact ⟨behind, runOn_warn_of_record hrecord, htakes, hfile⟩

theorem runOn_setError {host : HostRecord} (hoffer : host.hidden.contains .setError = false)
    {count : Int} (hcount : host.errorCount = .int count) (errorType : ErrorType)
    (message : Value) :
    (HostRecord.setError errorType message).runOn host =
      (.ok (), { host with
        errorType := .known errorType
        errorMessage := message
        errorCount := .int (count + 1) }) := by
  simp only [runOn, HostRecord.setError, ExceptT.run, HostRecord.offer, hoffer, hcount,
    HostRecord.increased]
  rfl

def noted (failure : Failure) (count : Int) (site : Site) : HostRecord :=
  { site.host with
    errorType := .known failure.errorType
    errorMessage := .str failure.message
    errorCount := .int (count + 1) }

/-- A failure is entered where it can be told ahead of being counted and behind it. -/
theorem runOn_enter_of_warn {failure : Failure} {count : Int} {told twice : Trail}
    (hoffer : site.host.hidden.contains .setError = false)
    (hcount : site.host.errorCount = .int count)
    (hfirst : (warn failure.reason (.str failure.message)).runOn site =
      (.ok (), { site with trail := told }))
    (hsecond : (warn failure.errorType.reason (.str failure.message)).runOn
        { site with trail := told, host := site.noted failure count } =
      (.ok (), { site with trail := twice, host := site.noted failure count })) :
    ∃ journal, (enter failure).runOn site = (.ok failure.outcome,
      { site with trail := twice, host := site.noted failure count }.withJournal journal) := by
  have hnote : (onHost (HostRecord.setError failure.errorType (.str failure.message))).runOn
      { site with trail := told } =
        (.ok (), { site with trail := told, host := site.noted failure count }) := by
    rw [onHost, runOn_within, runOn_setError hoffer hcount]
    rfl
  rw [enter, runOn_bind_ok hfirst, recordFailure, runOn_bind_ok hnote, runOn_bind_ok hsecond]
  exact ⟨_, rfl⟩

/-- Where a failure can be entered, it is. -/
theorem entered_enter (htakes : site.ledger.TakesFailures)
    (hroom : site.trail.recorder.HasRoom 2) (failure : Failure) :
    ((enter failure).runOn site).1 = .ok failure.outcome ∧
      site.ledger.Entered (some failure) ((enter failure).runOn site).2.ledger := by
  obtain ⟨count, hcount⟩ := htakes.errorCount
  obtain ⟨shown, hshown⟩ := redactMessage_str site.trail.recorder.redacts failure.message
  have hroomFirst : site.trail.recorder.HasRoom 1 :=
    fun capacity hcapacity => Nat.le_of_succ_le (hroom capacity hcapacity)
  obtain ⟨first, told, hfirst, hrecorder⟩ :=
    runOn_warn site htakes.inMemory hroomFirst hshown failure.reason
  have hroomSecond : told.recorder.HasRoom 1 := by
    intro capacity hcapacity
    rw [hrecorder] at hcapacity ⊢
    have hboth := hroom capacity hcapacity
    simp only [Recorder.holding, List.length_append, List.length_singleton]
    omega
  have hfile : told.recorder.logFile = none := by
    rw [hrecorder]
    exact htakes.inMemory
  have hshownBehind : redactMessage told.recorder.redacts (.str failure.message) =
      .ok (.str shown) := by
    rw [hrecorder]
    exact hshown
  obtain ⟨second, twice, hsecond, hrecorderTwice⟩ :=
    runOn_warn { site with trail := told, host := site.noted failure count } hfile hroomSecond
      hshownBehind failure.errorType.reason
  obtain ⟨journal, hrun⟩ := runOn_enter_of_warn htakes.setError hcount hfirst hsecond
  rw [hrun]
  refine ⟨rfl, ?_⟩
  have hledger : ({ site with trail := twice, host := site.noted failure count }.withJournal
      journal).ledger = { site.ledger with
        errorType := .known failure.errorType
        errorMessage := .str failure.message
        errorCount := .int (count + 1)
        recorder := twice.recorder } := rfl
  have hevents : twice.recorder = site.ledger.recorder.holding (site.ledger.recorder.events ++
      site.ledger.events failure (.str shown) first second) := by
    rw [hrecorderTwice, hrecorder]
    simp [Recorder.holding, Ledger.events, ledger, noted]
  rw [hledger, hevents]
  exact .some first second hcount hshown

/-- Failures can be told at a host and counted: the errors are counted by a number, nothing hides
the operation that counts them, and every event is recorded. -/
structure TellsFailures (site : Site) : Prop where
  errorCount : ∃ count, site.host.errorCount = .int count
  setError : site.host.hidden.contains .setError = false
  trail : site.trail.TakesEvents

/-- A failure that can be told and counted is the outcome. Of the record it changes the error. -/
theorem TellsFailures.runOn_enter (h : site.TellsFailures) (failure : Failure) :
    ∃ trail count, site.host.errorCount = .int count ∧
      (enter failure).runOn site = (.ok failure.outcome,
        { site with trail := trail, host := site.noted failure count }) ∧
      trail.recorder.logFile = site.trail.recorder.logFile := by
  obtain ⟨count, hcount⟩ := h.errorCount
  obtain ⟨told, hfirst, htakes, hfile⟩ :=
    runOn_warn_of_takesEvents h.trail failure.reason failure.message
  let behind : Site := { site with trail := told, host := site.noted failure count }
  have hbehind : behind.trail.TakesEvents := htakes
  obtain ⟨twice, hsecond, -, hfileTwice⟩ :=
    runOn_warn_of_takesEvents hbehind failure.errorType.reason failure.message
  obtain ⟨journal, hrun⟩ := runOn_enter_of_warn h.setError hcount hfirst hsecond
  exact ⟨_, count, hcount, hrun, hfileTwice.trans hfile⟩

end Site

/-- Only a changed credential of the operating system of a provisioned host is refused. -/
theorem reaction_refuse_iff (kind : CredentialKind) (next : State) :
    reaction kind next = .refuse ↔ kind = .os ∧ next = .provisioned := by
  cases kind <;> cases next <;>
    simp [reaction, State.isReinstalled, State.isReset]

/-- What a look at a credential meets: nothing that keeps the pass from going on, something that
ends it for now, or a terminal failure. -/
inductive Sight where
  | clear
  | blocked
  | failing (failure : Failure)

namespace Sight

def failure? : Sight → Option Failure
  | failing failure => some failure
  | _ => none

/-- The look ends as it has to behind what it meets. -/
def Shows : Sight → Except Fault Outcome → Prop
  | clear, result => result = .ok .complete
  | blocked, result => result ≠ .ok .complete
  | failing failure, result => result = .ok failure.outcome

theorem shows_error (fault : Fault) : blocked.Shows (.error fault) := by
  simp [Shows]

end Sight

namespace Service

def judged (service : Service) (kind : CredentialKind) (credential : Credential) : Sight :=
  match credentialProblem service.requiredKeys credential with
  | .ok none => .clear
  | .ok (some problem) => .failing (.invalid kind credential problem)
  | .error _ => .blocked

/-- What the judgement of a credential meets once the credential is remembered. -/
def renewed (service : Service) (kind : CredentialKind) (host : HostRecord)
    (credential : Credential) : Sight :=
  match host.remember kind credential with
  | .ok _ => service.judged kind credential
  | .error _ => .blocked

/-- What a look at a credential meets if a state comes next. A credential that has changed is a
failure if it is that of the operating system of a provisioned host. -/
def sight (service : Service) (kind : CredentialKind) (next : State) (host : HostRecord) :
    Option Credential → Sight
  | none => .clear
  | some credential =>
    match host.remembered kind with
    | .error _ => .blocked
    | .ok none => service.renewed kind host credential
    | .ok (some seen) =>
      match seen.agrees credential with
      | .error _ => .blocked
      | .ok true => service.judged kind credential
      | .ok false =>
        if kind = .os ∧ next = .provisioned then .failing .rotation
        else service.renewed kind host credential

/-- What the looks at both credentials meet. That of the rescue system is only looked at if
nothing keeps the pass from going on behind the other one. -/
def sightOfBoth (service : Service) (next : State) (host : HostRecord)
    (fetched : Option Credential × Option Credential) : Sight :=
  match service.sight .os next host fetched.1 with
  | .clear => service.sight .rescue next host fetched.2
  | sight => sight

end Service

/-- What a pass over the host meets at its credentials. Nothing is met by a pass that is
diverted or tears the host down, and a source that does not answer only ends it. -/
def Machine.sight (machine : Machine) : Sight :=
  if machine.site.host.deletionRequested || machine.site.host.state = .deprovisioning then .clear
  else
    match machine.site.answer with
    | .error _ => .blocked
    | .ok fetched =>
      machine.service.sightOfBoth machine.site.host.state machine.site.host fetched

section

variable {service : Service} {kind : CredentialKind} {credential : Credential} {failure : Failure}

theorem exists_of_judged (h : (service.judged kind credential).failure? = some failure) :
    ∃ problem, credentialProblem service.requiredKeys credential = .ok (some problem) ∧
      failure = .invalid kind credential problem := by
  simp only [Service.judged] at h
  split at h
  next => cases h
  next problem hproblem => exact ⟨problem, hproblem, (Option.some.inj h).symm⟩
  next => cases h

theorem exists_of_renewed {host : HostRecord}
    (h : (service.renewed kind host credential).failure? = some failure) :
    ∃ problem, credentialProblem service.requiredKeys credential = .ok (some problem) ∧
      failure = .invalid kind credential problem := by
  simp only [Service.renewed] at h
  split at h
  next => exact exists_of_judged h
  next => cases h

/-- What a look meets is a changed credential of a provisioned host, or a credential that cannot
be used. -/
theorem exists_of_sight {next : State} {host : HostRecord} {fetched : Option Credential}
    (h : (service.sight kind next host fetched).failure? = some failure) :
    ∃ credential, fetched = some credential ∧
      (failure = .rotation ∧ kind = .os ∧ next = .provisioned ∧
          host.findsRotated .os fetched = true ∨
        ∃ problem, credentialProblem service.requiredKeys credential = .ok (some problem) ∧
          failure = .invalid kind credential problem) := by
  cases fetched with
  | none => cases h
  | some credential =>
    refine ⟨credential, rfl, ?_⟩
    simp only [Service.sight] at h
    split at h
    next => cases h
    next => exact Or.inr (exists_of_renewed h)
    next seen hremembered =>
      split at h
      next => cases h
      next => exact Or.inr (exists_of_judged h)
      next hagrees =>
        split at h
        next hrefused =>
          obtain ⟨rfl, hnext⟩ := hrefused
          refine Or.inl ⟨(Option.some.inj h).symm, rfl, hnext, ?_⟩
          simp [HostRecord.findsRotated, hremembered, hagrees]
        next => exact Or.inr (exists_of_renewed h)

end

/-- The failures that a pass may meet: the credential of the operating system of a provisioned
host is found to have changed, or a credential that was given out has a problem. -/
inductive Machine.Meets (machine : Machine) : Failure → Prop where
  | rotation {fetched : Option Credential × Option Credential}
      (hanswer : machine.site.answer = .ok fetched)
      (hstate : machine.site.host.state = .provisioned)
      (hrotated : machine.site.host.findsRotated .os fetched.1 = true) :
    Meets machine .rotation
  | invalid {fetched : Option Credential × Option Credential} {kind : CredentialKind}
      {credential : Credential} {problem : CredentialProblem}
      (hanswer : machine.site.answer = .ok fetched)
      (hcredential : fetched.1 = some credential ∧ kind = .os ∨
        fetched.2 = some credential ∧ kind = .rescue)
      (hproblem : credentialProblem machine.service.requiredKeys credential = .ok (some problem)) :
    Meets machine (.invalid kind credential problem)

theorem Machine.meets_of_sight {machine : Machine} {failure : Failure}
    (h : machine.sight.failure? = some failure) : machine.Meets failure := by
  unfold Machine.sight at h
  split at h
  next => cases h
  next =>
    split at h
    next => cases h
    next fetched hanswer =>
      unfold Service.sightOfBoth at h
      split at h
      next =>
        obtain ⟨credential, hfetched, hmet⟩ := exists_of_sight h
        rcases hmet with ⟨-, hkind, -⟩ | ⟨problem, hproblem, rfl⟩
        · cases hkind
        · exact .invalid hanswer (Or.inr ⟨hfetched, rfl⟩) hproblem
      next =>
        obtain ⟨credential, hfetched, hmet⟩ := exists_of_sight h
        rcases hmet with ⟨rfl, -, hstate, hrotated⟩ | ⟨problem, hproblem, rfl⟩
        · exact .rotation hanswer hstate hrotated
        · exact .invalid hanswer (Or.inl ⟨hfetched, rfl⟩) hproblem

/-- A look ends as it has to, and the failure that it meets is entered. -/
structure Booked (sight : Sight) (before : Ledger) (result : Except Fault Outcome)
    (after : Ledger) : Prop where
  shows : sight.Shows result
  entered : before.Entered sight.failure? after

section

variable {service : Service} {kind : CredentialKind} {credential : Credential}

/-- The usual judgement of a credential enters its problem. -/
theorem booked_validate {site : Site} (hreal : service.judgement kind = none)
    (htakes : site.ledger.TakesFailures)
    (hroom : (service.judged kind credential).failure?.isSome → site.trail.recorder.HasRoom 2) :
    Booked (service.judged kind credential) site.ledger
      ((Site.validate service kind (some credential)).runOn site).1
      ((Site.validate service kind (some credential)).runOn site).2.ledger := by
  have hvalidate : Site.validate service kind (some credential) =
      Site.inspect service.requiredKeys kind credential := by
    simp only [Site.validate, hreal]
  rw [hvalidate, Site.inspect, runOn_bind, runOn_ofExcept]
  simp only [Service.judged] at hroom ⊢
  cases hproblem : credentialProblem service.requiredKeys credential with
  | error fault => exact ⟨Sight.shows_error fault, .none⟩
  | ok problem =>
    cases problem with
    | none => exact ⟨rfl, .none⟩
    | some problem =>
      rw [hproblem] at hroom
      obtain ⟨hresult, hentered⟩ :=
        Site.entered_enter htakes (hroom rfl) (.invalid kind credential problem)
      exact ⟨hresult, hentered⟩

/-- Renewing a credential enters its problem if it can be remembered. -/
theorem booked_renew (site : Site) (hreal : service.judgement kind = none)
    (htakes : site.ledger.TakesFailures)
    (hroom : (service.renewed kind site.host credential).failure?.isSome →
      site.trail.recorder.HasRoom 2) :
    Booked (service.renewed kind site.host credential) site.ledger
      ((Site.renew service kind credential).runOn site).1
      ((Site.renew service kind credential).runOn site).2.ledger := by
  simp only [Service.renewed] at hroom ⊢
  rcases Site.runOn_renew service kind credential site with
    ⟨host, hremember, journal, hrun⟩ | ⟨result, hnone, hresult, hrun⟩
  · have hledger : (Site.withJournal journal { site with host := host }).ledger = site.ledger := by
      obtain ⟨status, seen, -, -, rfl⟩ := HostRecord.exists_of_remember hremember
      rfl
    rw [hremember] at hroom ⊢
    rw [hrun, ← hledger]
    exact booked_validate hreal (hledger ▸ htakes) hroom
  · cases hremember : site.host.remember kind credential with
    | ok host => exact absurd hremember (hnone host)
    | error fault =>
      rw [hrun]
      exact ⟨hresult, .none⟩

end

namespace Pass

variable {service : Service} {kind : CredentialKind} {pass : Pass}

/-- The comparison of a credential enters the failure that it meets. -/
theorem Compared.booked {credential : Credential} {run : Except Fault Outcome × Pass}
    (h : Compared service kind credential pass run) (hreal : service.judgement kind = none)
    (htakes : pass.site.ledger.TakesFailures)
    (hroom : (service.sight kind pass.next pass.site.host (some credential)).failure?.isSome →
      pass.site.trail.recorder.HasRoom 2) :
    Booked (service.sight kind pass.next pass.site.host (some credential)) pass.site.ledger run.1
      run.2.site.ledger := by
  cases h with
  | unreadable fault hremembered =>
    simp only [Service.sight, hremembered]
    exact ⟨Sight.shows_error fault, .none⟩
  | incomparable seen fault hremembered hagrees =>
    simp only [Service.sight, hremembered, hagrees]
    exact ⟨Sight.shows_error fault, .none⟩
  | unseen hremembered =>
    simp only [Service.sight, hremembered] at hroom ⊢
    exact booked_renew pass.site hreal htakes hroom
  | same seen hremembered hagrees =>
    simp only [Service.sight, hremembered, hagrees] at hroom ⊢
    exact booked_validate hreal htakes hroom
  | accepted seen hremembered hagrees hreaction =>
    have hnot : ¬ (kind = .os ∧ pass.next = .provisioned) := by
      rw [← reaction_refuse_iff, hreaction]
      simp
    simp only [Service.sight, hremembered, hagrees, hnot, if_false] at hroom ⊢
    exact booked_renew pass.site hreal htakes hroom
  | redirected seen state journal hremembered hagrees hreaction =>
    have hnot : ¬ (kind = .os ∧ pass.next = .provisioned) := by
      rw [← reaction_refuse_iff, hreaction]
      simp
    simp only [Service.sight, hremembered, hagrees, hnot, if_false] at hroom ⊢
    exact booked_renew (pass.site.withJournal journal) hreal htakes hroom
  | refused seen hremembered hagrees hreaction =>
    obtain ⟨rfl, hnext⟩ := (reaction_refuse_iff _ _).mp hreaction
    simp only [Service.sight, hremembered, hagrees, hnext, and_self, if_true] at hroom ⊢
    obtain ⟨hresult, hentered⟩ := Site.entered_enter htakes (hroom rfl) .rotation
    exact ⟨hresult, hentered⟩

theorem booked_checkFetched (logger : Text) (hreal : service.judgement kind = none) (pass : Pass)
    (htakes : pass.site.ledger.TakesFailures) {fetched : Option Credential}
    (hroom : (service.sight kind pass.next pass.site.host fetched).failure?.isSome →
      pass.site.trail.recorder.HasRoom 2) :
    Booked (service.sight kind pass.next pass.site.host fetched) pass.site.ledger
      ((checkFetched service logger kind fetched).runOn pass).1
      ((checkFetched service logger kind fetched).runOn pass).2.site.ledger := by
  cases fetched with
  | none => exact ⟨rfl, .none⟩
  | some credential =>
    exact (compared_checkCredential service logger kind credential pass).booked hreal htakes hroom

theorem renewed_congr {a b : HostRecord} (hremembered : a.remembered kind = b.remembered kind)
    (hhidden : a.hidden = b.hidden) (credential : Credential) :
    service.renewed kind a credential = service.renewed kind b credential := by
  have hoffer : a.offer (.remember kind) = b.offer (.remember kind) := by
    rw [HostRecord.offer, HostRecord.offer, hhidden]
  simp only [Service.renewed, HostRecord.remember, hoffer]
  simp only [HostRecord.remembered] at hremembered
  cases b.offer (.remember kind) with
  | error fault => rfl
  | ok _ =>
    cases SecretStatus.ofCredential credential with
    | error fault => rfl
    | ok seen =>
      cases ha : a.credentialStatus with
      | error fault =>
        cases hb : b.credentialStatus with
        | error fault' => rfl
        | ok status' => simp [ha, hb, Except.map] at hremembered
      | ok status =>
        cases hb : b.credentialStatus with
        | error fault' => simp [ha, hb, Except.map] at hremembered
        | ok status' => rfl

/-- What comes next does not matter for the credential of the rescue system. -/
theorem sight_rescue_congr {a b : HostRecord}
    (hremembered : a.remembered .rescue = b.remembered .rescue) (hhidden : a.hidden = b.hidden)
    (next next' : State) (fetched : Option Credential) :
    service.sight .rescue next a fetched = service.sight .rescue next' b fetched := by
  cases fetched with
  | none => rfl
  | some credential =>
    simp only [Service.sight, hremembered, renewed_congr hremembered hhidden, reduceCtorEq,
      false_and, if_false]

/-- The looks at both credentials enter the failure that they meet. -/
theorem booked_checkBoth (logger : Text) (hreal : ∀ kind, service.judgement kind = none)
    (pass : Pass) (htakes : pass.site.ledger.TakesFailures)
    {fetched : Option Credential × Option Credential}
    (hroom : (service.sightOfBoth pass.next pass.site.host fetched).failure?.isSome →
      pass.site.trail.recorder.HasRoom 2) :
    Booked (service.sightOfBoth pass.next pass.site.host fetched) pass.site.ledger
      ((checkBoth service logger fetched).runOn pass).1
      ((checkBoth service logger fetched).runOn pass).2.site.ledger := by
  have hlooked := looked_checkFetched service logger .os fetched.1 pass
  rw [runOn_checkBoth]
  simp only [Service.sightOfBoth] at hroom ⊢
  have hos : (service.sight .os pass.next pass.site.host fetched.1).failure?.isSome →
      pass.site.trail.recorder.HasRoom 2 := by
    intro hfailing
    apply hroom
    cases hsight : service.sight .os pass.next pass.site.host fetched.1 with
    | clear => rw [hsight] at hfailing; cases hfailing
    | blocked => rw [hsight] at hfailing; cases hfailing
    | failing failure => rfl
  have hbooked := booked_checkFetched logger (hreal .os) pass htakes hos
  cases hsight : service.sight .os pass.next pass.site.host fetched.1 with
  | clear =>
    rw [hsight] at hbooked hroom
    have hcompletes : completes (behindOs service logger fetched pass).1 = true :=
      (completes_iff _).mpr hbooked.shows
    have hledger : (behindOs service logger fetched pass).2.site.ledger = pass.site.ledger :=
      hbooked.entered.eq_of_none
    have hrecorder : (behindOs service logger fetched pass).2.site.trail.recorder =
        pass.site.trail.recorder := congrArg Ledger.recorder hledger
    have hsame : service.sight .rescue (behindOs service logger fetched pass).2.next
        (behindOs service logger fetched pass).2.site.host fetched.2 =
        service.sight .rescue pass.next pass.site.host fetched.2 :=
      sight_rescue_congr (hlooked.remembered_other .rescue (by simp))
        (congrArg Ledger.hidden hledger) _ _ fetched.2
    rw [if_pos hcompletes, ← hsame, ← hledger]
    apply booked_checkFetched logger (hreal .rescue) _ (hledger ▸ htakes)
    rw [hsame, hrecorder]
    exact hroom
  | blocked =>
    rw [hsight] at hbooked
    have hincomplete : ¬ completes (behindOs service logger fetched pass).1 = true :=
      fun hcompletes => hbooked.shows ((completes_iff _).mp hcompletes)
    rw [if_neg hincomplete]
    exact hbooked
  | failing failure =>
    rw [hsight] at hbooked
    have hincomplete : ¬ completes (behindOs service logger fetched pass).1 = true := by
      rw [completes_iff, behindOs, hbooked.shows]
      simp [Failure.outcome]
    rw [if_neg hincomplete]
    exact hbooked

end Pass

end HostLifecycle.Reconciliation
