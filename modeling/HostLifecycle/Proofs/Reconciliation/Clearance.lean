import HostLifecycle.Proofs.Reconciliation.Rotation

/-!
What the look at both credentials comes to. The credential of the rescue system is
looked at only behind that of the operating system, on the state that the first look
left behind. A pass is cleared only if both credentials that were given out are accepted
and recognized where the looks end.
-/

namespace HostLifecycle.Reconciliation

open Attempt

def completes : Except Fault Outcome → Bool
  | .ok outcome => outcome.isComplete
  | .error _ => false

theorem completes_iff (result : Except Fault Outcome) :
    completes result = true ↔ result = .ok .complete := by
  rcases result with fault | _ | _ | _ <;> simp [completes, Outcome.isComplete]

/-- A credential that a store gave out is accepted by the provider, and recognized in the
record if a comparison can recognize it at all. -/
def Cleared (service : Service) (kind : CredentialKind) (host : HostRecord)
    (fetched : Option Credential) : Prop :=
  ∀ credential, fetched = some credential →
    service.Accepts kind credential ∧
      (credential.Recognizable → host.Recognizes kind credential)

namespace Pass

def nextBehind (kind : CredentialKind) (fetched : Option Credential) (host : HostRecord)
    (next : State) : State :=
  if host.findsRotated kind fetched then (reaction kind next).target next else next

/-- What the look at a credential comes to, whether one was given out or not. -/
structure Looked (service : Service) (kind : CredentialKind) (fetched : Option Credential)
    (pass : Pass) (run : Except Fault Outcome × Pass) : Prop where
  start_eq : run.2.start = pass.start
  setting_eq : run.2.site.setting = pass.site.setting
  next_eq : run.2.next = nextBehind kind fetched pass.site.host pass.next
  remembered_other : ∀ other, other ≠ kind →
    run.2.site.host.remembered other = pass.site.host.remembered other
  remembered_eq : pass.site.host.remembered kind ≠ .ok none →
    (pass.site.host.findsRotated kind fetched = true → reaction kind pass.next = .refuse) →
    run.2.site.host.remembered kind = pass.site.host.remembered kind
  cleared : run.1 = .ok .complete → Cleared service kind run.2.site.host fetched

theorem looked_checkFetched (service : Service) (logger : Text) (kind : CredentialKind)
    (fetched : Option Credential) (pass : Pass) :
    Looked service kind fetched pass
      ((checkFetched service logger kind fetched).runOn pass) := by
  cases fetched with
  | none =>
    refine ⟨rfl, rfl, ?_, fun _ _ => rfl, fun _ _ => rfl, fun _ => nofun⟩
    simp [checkFetched, nextBehind, HostRecord.findsRotated]
  | some credential =>
    have hcompared := compared_checkCredential service logger kind credential pass
    refine ⟨hcompared.start_eq, hcompared.setting_eq, hcompared.next_eq,
      fun _ => hcompared.remembered_other, hcompared.remembered_eq, ?_⟩
    intro hcomplete other hother
    cases hother
    exact hcompared.cleared hcomplete

theorem findsRotated_congr {kind : CredentialKind} {a b : HostRecord}
    (h : a.remembered kind = b.remembered kind) (fetched : Option Credential) :
    a.findsRotated kind fetched = b.findsRotated kind fetched := by
  simp only [HostRecord.findsRotated, h]

section

variable (service : Service) (logger : Text) (fetched : Option Credential × Option Credential)
  (pass : Pass)

/-- The pass behind the look at the credential of the operating system. -/
def behindOs : Except Fault Outcome × Pass :=
  (checkFetched service logger .os fetched.1).runOn pass

theorem runOn_checkBoth :
    (checkBoth service logger fetched).runOn pass =
      if completes (behindOs service logger fetched pass).1 then
        (checkFetched service logger .rescue fetched.2).runOn
          (behindOs service logger fetched pass).2
      else behindOs service logger fetched pass := by
  unfold checkBoth behindOs
  rw [runOn_bind]
  generalize (checkFetched service logger .os fetched.1).runOn pass = run
  obtain ⟨fault | outcome, behind⟩ := run
  · simp [completes]
  · cases outcome <;> simp [completes, Outcome.isComplete]

theorem checkBoth_start :
    ((checkBoth service logger fetched).runOn pass).2.start = pass.start := by
  have hos := looked_checkFetched service logger .os fetched.1 pass
  rw [runOn_checkBoth]
  split
  · have hrescue := looked_checkFetched service logger .rescue fetched.2
      (behindOs service logger fetched pass).2
    exact hrescue.start_eq.trans hos.start_eq
  · exact hos.start_eq

theorem checkBoth_setting :
    ((checkBoth service logger fetched).runOn pass).2.site.setting = pass.site.setting := by
  have hos := looked_checkFetched service logger .os fetched.1 pass
  rw [runOn_checkBoth]
  split
  · have hrescue := looked_checkFetched service logger .rescue fetched.2
      (behindOs service logger fetched pass).2
    exact hrescue.setting_eq.trans hos.setting_eq
  · exact hos.setting_eq

/-- Each look decides on what the one before it left, and the record that it is held
against is the one at the start. -/
theorem checkBoth_next :
    ((checkBoth service logger fetched).runOn pass).2.next =
      if completes (behindOs service logger fetched pass).1 then
        nextBehind .rescue fetched.2 pass.site.host
          (nextBehind .os fetched.1 pass.site.host pass.next)
      else nextBehind .os fetched.1 pass.site.host pass.next := by
  have hos := looked_checkFetched service logger .os fetched.1 pass
  rw [runOn_checkBoth]
  split
  · have hrescue := looked_checkFetched service logger .rescue fetched.2
      (behindOs service logger fetched pass).2
    have hrecord := findsRotated_congr (hos.remembered_other .rescue nofun) fetched.2
    rw [hrescue.next_eq, behindOs, hos.next_eq, nextBehind, hrecord]
    rfl
  · exact hos.next_eq

theorem checkBoth_cleared
    (hcomplete : ((checkBoth service logger fetched).runOn pass).1 = .ok .complete) :
    Cleared service .os ((checkBoth service logger fetched).runOn pass).2.site.host fetched.1 ∧
      Cleared service .rescue
        ((checkBoth service logger fetched).runOn pass).2.site.host fetched.2 := by
  have hos := looked_checkFetched service logger .os fetched.1 pass
  rw [runOn_checkBoth] at hcomplete ⊢
  split at hcomplete
  next hfirst =>
    rw [if_pos hfirst]
    have hrescue := looked_checkFetched service logger .rescue fetched.2
      (behindOs service logger fetched pass).2
    refine ⟨?_, hrescue.cleared hcomplete⟩
    intro credential hcredential
    obtain ⟨haccepts, hrecognizes⟩ :=
      hos.cleared ((completes_iff _).mp hfirst) credential hcredential
    refine ⟨haccepts, fun hsound => ?_⟩
    obtain ⟨seen, hseen, hagrees⟩ := hrecognizes hsound
    exact ⟨seen, (hrescue.remembered_other .os nofun).trans hseen, hagrees⟩
  next hfirst => exact absurd ((completes_iff _).mpr hcomplete) hfirst

/-- What was seen of the operating system is forgotten only for a rotation that is not
refused. -/
theorem checkBoth_remembered_os (hseen : pass.site.host.remembered .os ≠ .ok none)
    (hkept : pass.site.host.findsRotated .os fetched.1 = true →
      reaction .os pass.next = .refuse) :
    ((checkBoth service logger fetched).runOn pass).2.site.host.remembered .os =
      pass.site.host.remembered .os := by
  have hos := looked_checkFetched service logger .os fetched.1 pass
  rw [runOn_checkBoth]
  split
  · have hrescue := looked_checkFetched service logger .rescue fetched.2
      (behindOs service logger fetched pass).2
    exact (hrescue.remembered_other .os nofun).trans (hos.remembered_eq hseen hkept)
  · exact hos.remembered_eq hseen hkept

/-- What was seen of the rescue system is forgotten only for a rotation that is come to. -/
theorem checkBoth_remembered_rescue (hseen : pass.site.host.remembered .rescue ≠ .ok none)
    (hkept : (completes (behindOs service logger fetched pass).1 &&
      pass.site.host.findsRotated .rescue fetched.2) = false) :
    ((checkBoth service logger fetched).runOn pass).2.site.host.remembered .rescue =
      pass.site.host.remembered .rescue := by
  have hos := looked_checkFetched service logger .os fetched.1 pass
  have hsame : (behindOs service logger fetched pass).2.site.host.remembered .rescue =
      pass.site.host.remembered .rescue := hos.remembered_other .rescue nofun
  rw [runOn_checkBoth]
  split
  next hfirst =>
    have hrescue := looked_checkFetched service logger .rescue fetched.2
      (behindOs service logger fetched pass).2
    have hfound : (behindOs service logger fetched pass).2.site.host.findsRotated .rescue
        fetched.2 = false := by
      rw [findsRotated_congr hsame]
      rw [hfirst, Bool.true_and] at hkept
      exact hkept
    have hlooked := hrescue.remembered_eq (hsame ▸ hseen) fun hrotated =>
      absurd (hfound.symm.trans hrotated) nofun
    exact hlooked.trans hsame
  next => exact hsame

end

end Pass

namespace Site

/-- Fetching the credentials is counted, and it reaches neither the record nor what
decides about the course of the host. -/
theorem fetch_setting (site : Site) :
    (fetch.runOn site).2.setting = { site.setting with fetches := site.fetches + 1 } := rfl

/-- What the source answers a pass over the host. -/
def answer (site : Site) : Except Fault (Option Credential × Option Credential) :=
  (fetch.runOn site).1

end Site

namespace Pass

def behindFetch (pass : Pass) : Pass := { pass with site := (Site.fetch.runOn pass.site).2 }

variable (service : Service) (logger : Text) (pass : Pass)

theorem runOn_checkCredentials_of_answer (hstate : pass.site.host.state ≠ .deprovisioning)
    {fetched : Option Credential × Option Credential} (hanswer : pass.site.answer = .ok fetched) :
    (checkCredentials service logger).runOn pass =
      (checkBoth service logger fetched).runOn pass.behindFetch := by
  have hfetch : (onSite Site.fetch).runOn pass = (.ok fetched, pass.behindFetch) := by
    rw [runOn_onSite, ← hanswer]
    rfl
  rw [checkCredentials, runOn_bind, runOn_get]
  simp only [hstate, if_false]
  exact runOn_bind_ok (runOn_caught_ok hfetch)

/-- A source that does not answer ends the pass where it is. -/
theorem runOn_checkCredentials_of_fault (hstate : pass.site.host.state ≠ .deprovisioning)
    {fault : Fault} (hanswer : pass.site.answer = .error fault) :
    ∃ result, result ≠ .ok .complete ∧
      (checkCredentials service logger).runOn pass = (result, pass.behindFetch) := by
  have hfetch : (onSite Site.fetch).runOn pass = (.error fault, pass.behindFetch) := by
    rw [runOn_onSite, ← hanswer]
    rfl
  rw [checkCredentials, runOn_bind, runOn_get]
  simp only [hstate, if_false]
  rcases runOn_caught_bind_error hfetch with ⟨error, hbehind⟩ | hbehind
  · exact ⟨.ok (.failed (.lifecycle error)), nofun, hbehind⟩
  · exact ⟨.error fault, nofun, hbehind⟩

/-- A host that is torn down needs no credentials. -/
theorem runOn_checkCredentials_of_deprovisioning
    (hstate : pass.site.host.state = .deprovisioning) :
    (checkCredentials service logger).runOn pass = (.ok .complete, pass) := by
  rw [checkCredentials, runOn_bind, runOn_get]
  simp only [hstate, if_true]
  rfl

/-- Whether a pass over the host comes to a rotated credential of a kind. That of the
rescue system is looked at only if the other one lets the pass go on. -/
def meetsRotated (kind : CredentialKind) : Bool :=
  match pass.site.answer with
  | .error _ => false
  | .ok fetched =>
    match kind with
    | .os => pass.site.host.findsRotated .os fetched.1
    | .rescue => completes (behindOs service logger fetched pass.behindFetch).1 &&
      pass.site.host.findsRotated .rescue fetched.2

/-- What the look at both credentials comes to in a host that is not torn down. -/
structure Gated (run : Except Fault Outcome × Pass) : Prop where
  start_eq : run.2.start = pass.start
  setting_eq : run.2.site.setting =
    { pass.site.setting with fetches := pass.site.fetches + 1 }
  next_eq : run.2.next =
    let behindOs := if meetsRotated service logger pass .os
      then (reaction .os pass.next).target pass.next else pass.next
    if meetsRotated service logger pass .rescue
      then (reaction .rescue behindOs).target behindOs else behindOs
  remembered_os : pass.site.host.remembered .os ≠ .ok none →
    (meetsRotated service logger pass .os = true → reaction .os pass.next = .refuse) →
    run.2.site.host.remembered .os = pass.site.host.remembered .os
  cleared : run.1 = .ok .complete → ∃ fetched, pass.site.answer = .ok fetched ∧
    Cleared service .os run.2.site.host fetched.1 ∧
    Cleared service .rescue run.2.site.host fetched.2

theorem gated_checkCredentials (hstate : pass.site.host.state ≠ .deprovisioning) :
    Gated service logger pass ((checkCredentials service logger).runOn pass) := by
  cases hanswer : pass.site.answer with
  | error fault =>
    obtain ⟨result, hresult, hrun⟩ :=
      runOn_checkCredentials_of_fault service logger pass hstate hanswer
    rw [hrun]
    refine ⟨rfl, Site.fetch_setting pass.site, ?_, fun _ _ => rfl, fun h => absurd h hresult⟩
    simp [meetsRotated, hanswer, behindFetch]
  | ok fetched =>
    rw [runOn_checkCredentials_of_answer service logger pass hstate hanswer]
    refine ⟨checkBoth_start service logger fetched _, ?_, ?_, ?_, ?_⟩
    · exact (checkBoth_setting service logger fetched _).trans (Site.fetch_setting pass.site)
    · rw [checkBoth_next]
      simp only [meetsRotated, hanswer, nextBehind]
      cases completes (behindOs service logger fetched pass.behindFetch).1 <;> rfl
    · intro hseen hkept
      apply checkBoth_remembered_os service logger fetched pass.behindFetch hseen
      intro hrotated
      apply hkept
      simp only [meetsRotated, hanswer]
      exact hrotated
    · intro hcomplete
      exact ⟨fetched, hanswer, checkBoth_cleared service logger fetched _ hcomplete⟩

theorem remembered_rescue_checkCredentials (hseen : pass.site.host.remembered .rescue ≠ .ok none)
    (hstate : pass.site.host.state ≠ .deprovisioning)
    (hkept : meetsRotated service logger pass .rescue = false) :
    ((checkCredentials service logger).runOn pass).2.site.host.remembered .rescue =
      pass.site.host.remembered .rescue := by
  cases hanswer : pass.site.answer with
  | error fault =>
    obtain ⟨result, -, hrun⟩ :=
      runOn_checkCredentials_of_fault service logger pass hstate hanswer
    rw [hrun]
    rfl
  | ok fetched =>
    rw [runOn_checkCredentials_of_answer service logger pass hstate hanswer]
    simp only [meetsRotated, hanswer] at hkept
    exact checkBoth_remembered_rescue service logger fetched pass.behindFetch hseen hkept

end Pass

end HostLifecycle.Reconciliation
