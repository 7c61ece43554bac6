import HostLifecycle.Proofs.Attempt
import HostLifecycle.Reconciliation.Rotation

/-!
What the parts of a pass leave alone. Messages, events and terminal failures reach
neither what decides about the course of a host nor what is remembered of its
credentials. Remembering a credential changes what is remembered of its kind and nothing
else of the record.
-/

namespace HostLifecycle

open Audit Logging Settings Attempt

variable {ν : Type}

namespace HostRecord

theorem runOn_replaced (change : HostRecord → Except Fault HostRecord) (host : HostRecord) :
    (replaced change).runOn host =
      match change host with
      | .ok changed => (.ok .null, changed)
      | .error fault => (.error fault, host) := rfl

theorem keeps_replaced {view : HostRecord → ν} {change : HostRecord → Except Fault HostRecord}
    (hview : ∀ host after, change host = .ok after → view after = view host) :
    Keeps view (replaced change) := by
  intro host
  rw [runOn_replaced]
  cases hchanged : change host with
  | error fault => rfl
  | ok after => exact hview host after hchanged

/-- A terminal error is kept in three fields of the record, and in no other. -/
theorem keeps_setError {view : HostRecord → ν}
    (hview : ∀ host errorType message count, view { host with
      errorType := errorType, errorMessage := message, errorCount := count } = view host)
    (errorType : ErrorType) (message : Value) : Keeps view (setError errorType message) := by
  intro host
  simp only [runOn, setError, ExceptT.run]
  cases host.offer .setError with
  | error fault => rfl
  | ok _ =>
    cases increased host.errorCount with
    | error fault => exact hview host _ _ host.errorCount
    | ok count => exact hview host _ _ count

theorem remembered_congr {a b : HostRecord} (h : b.sshStatus = a.sshStatus)
    (kind : CredentialKind) : b.remembered kind = a.remembered kind := by
  rw [remembered, remembered, credentialStatus, credentialStatus, h]

theorem exists_of_remember {kind : CredentialKind} {credential : Credential}
    {host after : HostRecord} (h : host.remember kind credential = .ok after) :
    ∃ status seen, host.credentialStatus = .ok status ∧
      SecretStatus.ofCredential credential = .ok seen ∧
      after = { host with sshStatus := .known (status.remember kind seen) } := by
  simp only [remember, bind, Except.bind, pure, Except.pure] at h
  cases hoffer : host.offer (.remember kind) with
  | error fault => simp [hoffer] at h
  | ok _ =>
    cases hseen : SecretStatus.ofCredential credential with
    | error fault => simp [hoffer, hseen] at h
    | ok seen =>
      cases hstatus : host.credentialStatus with
      | error fault => simp [hoffer, hseen, hstatus] at h
      | ok status =>
        simp only [hoffer, hseen, hstatus, Except.ok.injEq] at h
        exact ⟨status, seen, rfl, rfl, h.symm⟩

/-- What is remembered of a kind once a credential of that kind was remembered. -/
theorem remembered_of_remember {kind : CredentialKind} {credential : Credential}
    {host after : HostRecord} (h : host.remember kind credential = .ok after) :
    ∃ seen, SecretStatus.ofCredential credential = .ok seen ∧
      after.remembered kind = .ok (some seen) := by
  obtain ⟨status, seen, -, hseen, rfl⟩ := exists_of_remember h
  refine ⟨seen, hseen, ?_⟩
  cases kind <;> rfl

/-- Remembering a credential leaves what is remembered of the other kind. -/
theorem remembered_of_remember_ne {kind other : CredentialKind} {credential : Credential}
    {host after : HostRecord} (h : host.remember kind credential = .ok after)
    (hother : other ≠ kind) : after.remembered other = host.remembered other := by
  obtain ⟨status, seen, hstatus, -, rfl⟩ := exists_of_remember h
  rw [remembered, remembered, hstatus]
  cases kind with
  | os =>
    cases other with
    | os => exact absurd rfl hother
    | rescue => rfl
  | rescue =>
    cases other with
    | os => rfl
    | rescue => exact absurd rfl hother

end HostRecord

namespace Reconciliation

/-- What decides about the course of a pass, and what a pass has done: everything that
no look at a credential touches. -/
structure Setting where
  name : Value
  state : State
  deletionRequested : Bool
  installImage : Held InstallImage
  hidden : List Operation
  environment : Environment
  actions : State → List Behaviour
  calls : List State
  fetches : Nat

namespace Site

def setting (site : Site) : Setting where
  name := site.host.name
  state := site.host.state
  deletionRequested := site.host.deletionRequested
  installImage := site.host.installImage
  hidden := site.host.hidden
  environment := site.environment
  actions := site.actions
  calls := site.calls
  fetches := site.fetches

def withJournal (journal : List LogEntry) (site : Site) : Site :=
  { site with
    trail := { site.trail with around := { site.trail.around with journal := journal } } }

/-- A message reaches the journal and nothing else. -/
theorem runOn_log (logger : Text) (severity : Severity) (message : Text)
    (extras : Fields Value) (site : Site) : ∃ journal,
    (log logger severity message extras).runOn site = (.ok (), site.withJournal journal) :=
  ⟨_, rfl⟩

/-- A view that shows neither the audit trail nor the terminal errors of the record. -/
def Unconcerned (view : Site → ν) : Prop :=
  ∀ (site : Site) trail errorType message count, view { site with
    trail := trail
    host := { site.host with
      errorType := errorType, errorMessage := message, errorCount := count } } = view site

theorem unconcerned_setting : Unconcerned setting :=
  fun _ _ _ _ _ => rfl

theorem unconcerned_remembered (kind : CredentialKind) :
    Unconcerned (·.host.remembered kind) :=
  fun _ _ _ _ _ => rfl

variable {view : Site → ν}

theorem keeps_onTrail (hview : Unconcerned view) {α : Type} (action : Attempt Trail α) :
    Keeps view (onTrail action) :=
  keeps_within action fun trail site =>
    hview site trail site.host.errorType site.host.errorMessage site.host.errorCount

theorem keeps_log (hview : Unconcerned view) (logger : Text) (severity : Severity)
    (message : Text) (extras : Fields Value) : Keeps view (log logger severity message extras) :=
  keeps_get.bind fun _ => keeps_onTrail hview _

theorem keeps_warn (hview : Unconcerned view) (reason : Text) (message : Value) :
    Keeps view (warn reason message) :=
  keeps_get.bind fun _ => (keeps_onTrail hview _).bind fun _ => keeps_pure ()

theorem keeps_recordFailure (hview : Unconcerned view) (errorType : ErrorType)
    (message : Value) : Keeps view (recordFailure errorType message) := by
  have herror : Keeps view (onHost (HostRecord.setError errorType message)) := by
    intro site
    have hfields : Keeps (fun host => view { site with host := host })
        (HostRecord.setError errorType message) :=
      HostRecord.keeps_setError
        (fun host _ _ _ => hview { site with host := host } site.trail _ _ _) errorType message
    exact hfields site.host
  exact herror.bind fun _ => (keeps_warn hview _ _).bind fun _ =>
    keeps_get.bind fun _ => (keeps_log hview _ _ _ _).bind fun _ => keeps_pure _

theorem keeps_rejectCredential (hview : Unconcerned view) (message : Text) :
    Keeps view (rejectCredential message) :=
  (keeps_warn hview _ _).bind fun _ => keeps_recordFailure hview _ _

theorem keeps_refuseRotation (hview : Unconcerned view) : Keeps view refuseRotation :=
  (keeps_warn hview _ _).bind fun _ => keeps_recordFailure hview _ _

/-- Judging a credential touches only the audit trail and the terminal errors. -/
theorem keeps_validate (hview : Unconcerned view) (service : Service)
    (kind : CredentialKind) (credential : Option Credential) :
    Keeps view (validate service kind credential) := by
  unfold validate
  split
  · exact keeps_ofExcept _
  · refine (keeps_ofExcept _).bind fun problem => ?_
    cases problem with
    | none => exact keeps_pure _
    | some problem => exact keeps_rejectCredential hview _
  · exact keeps_fail _

end Site

end Reconciliation

end HostLifecycle
