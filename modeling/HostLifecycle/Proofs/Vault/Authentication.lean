import HostLifecycle.Proofs.Attempt
import HostLifecycle.Vault.Client

/-!
How a client is let in. An attempt to authenticate connects anew, presents the token of the
settings or else their role, and ends as the server decides. What it presents is never empty
if the settings passed their check, and how it ends is told from the answers to its own
calls, so attempts that begin behind equally many calls end alike. The calls to a server are
refused attempts, and then perhaps one that is let in with only reads behind it.
-/

namespace HostLifecycle.Vault

open Settings Logging

/-- Every fault of the server is a refusal of it or a failure to reach it. -/
structure Server.IsRemote (server : Server) : Prop where
  login {n : Nat} {fault : Fault} (h : server.login n = .error fault) :
    ∃ error, fault = .remote error
  check {n : Nat} {fault : Fault} (h : server.check n = .error fault) :
    ∃ error, fault = .remote error
  read {n : Nat} {path : Value} {fault : Fault} (h : server.read n path = .error fault) :
    ∃ error, fault = .remote error

theorem presentable_of_check {settings : VaultSettings}
    (hcheck : settings.check = .ok settings) (henabled : settings.enabled = true)
    (htoken : settings.token = "") : settings.roleId ≠ "" ∧ settings.secretId ≠ "" := by
  have hcan : settings.canAuthenticate = true := by
    cases hcan : settings.canAuthenticate with
    | true => rfl
    | false => simp [VaultSettings.check, henabled, hcan] at hcheck
  simpa [VaultSettings.canAuthenticate, htoken] using hcan

theorem Session.runOn_ask {α : Type} (call : Call) (answer : Server → Nat → Except Fault α)
    (session : Session) :
    (Session.ask call answer).runOn session =
      (answer session.server session.calls.length,
        { session with calls := session.calls ++ [call] }) := rfl

theorem Session.runOn_letIn (session : Session) :
    Session.letIn.runOn session = (.ok (), { session with isOpen := true }) := rfl

namespace Call

def Connects : Call → Prop
  | connect _ _ => True
  | _ => False

def Reads : Call → Prop
  | read _ _ => True
  | _ => False

end Call

variable {settings : VaultSettings} {server : Server} {earlier : Nat}

/-- What a client presents behind a number of earlier calls, and what the server answers to
the last of it. -/
inductive Presented (settings : VaultSettings) (server : Server) (earlier : Nat) :
    List Call → Except Fault Value → Prop where
  | token {answer : Except Fault Value} (htoken : settings.token ≠ "")
      (hcheck : server.check earlier = answer) :
    Presented settings server earlier [.check (some settings.token)] answer
  | unknownRole {fault : Fault} (htoken : settings.token = "")
      (hrole : settings.roleId ≠ "" ∧ settings.secretId ≠ "")
      (hlogin : server.login earlier = .error fault) :
    Presented settings server earlier [.login settings.roleId settings.secretId] (.error fault)
  | role {answer : Except Fault Value} (htoken : settings.token = "")
      (hrole : settings.roleId ≠ "" ∧ settings.secretId ≠ "")
      (hlogin : server.login earlier = .ok ()) (hcheck : server.check (earlier + 1) = answer) :
    Presented settings server earlier [.login settings.roleId settings.secretId, .check none]
      answer

def opening (settings : VaultSettings) : Call :=
  .connect settings.addr (if settings.space == "" then none else some settings.space)

/-- The calls of an attempt to authenticate behind a number of earlier calls, and how it
ends. -/
inductive Authentication (settings : VaultSettings) (server : Server) (earlier : Nat) :
    List Call → Except FetchCause Unit → Prop where
  | letIn {presented : List Call} {isIn : Value}
      (hpresented : Presented settings server (earlier + 1) presented (.ok isIn))
      (hisIn : isIn.isTruthy = true) :
    Authentication settings server earlier (opening settings :: presented) (.ok ())
  | turnedAway {presented : List Call} {isIn : Value}
      (hpresented : Presented settings server (earlier + 1) presented (.ok isIn))
      (hisIn : isIn.isTruthy = false) :
    Authentication settings server earlier (opening settings :: presented)
      (.error .unauthenticated)
  | refused {presented : List Call} {error : RemoteError}
      (hpresented : Presented settings server (earlier + 1) presented (.error (.remote error))) :
    Authentication settings server earlier (opening settings :: presented)
      (.error (.authentication error))

namespace Presented

theorem unique {presented presented' : List Call} {answer answer' : Except Fault Value}
    (h : Presented settings server earlier presented answer)
    (h' : Presented settings server earlier presented' answer') :
    presented = presented' ∧ answer = answer' := by
  cases h <;> cases h' <;> simp_all

theorem not_connects {presented : List Call} {answer : Except Fault Value}
    (h : Presented settings server earlier presented answer) :
    ∀ call ∈ presented, ¬ call.Connects := by
  cases h <;> simp [Call.Connects]

theorem not_reads {presented : List Call} {answer : Except Fault Value}
    (h : Presented settings server earlier presented answer) :
    ∀ call ∈ presented, ¬ call.Reads := by
  cases h <;> simp [Call.Reads]

end Presented

theorem Presented.isRemote {presented : List Call} {fault : Fault}
    (h : Presented settings server earlier presented (.error fault)) (hremote : server.IsRemote) :
    ∃ error, fault = .remote error := by
  cases h with
  | token _ hcheck => exact hremote.check hcheck
  | unknownRole _ _ hlogin => exact hremote.login hlogin
  | role _ _ _ hcheck => exact hremote.check hcheck

theorem presented_present (session : Session)
    (hrole : settings.token = "" → settings.roleId ≠ "" ∧ settings.secretId ≠ "") :
    ∃ presented answer,
      Presented settings session.server session.calls.length presented answer ∧
        (Client.present settings).runOn session =
          (answer, { session with calls := session.calls ++ presented }) := by
  by_cases htoken : settings.token = ""
  · cases hlogin : session.server.login session.calls.length with
    | error fault =>
      refine ⟨_, _, .unknownRole htoken (hrole htoken) hlogin, ?_⟩
      simp [Client.present, htoken, Session.runOn_ask, hlogin]
    | ok _ =>
      refine ⟨_, _, .role htoken (hrole htoken) hlogin rfl, ?_⟩
      simp [Client.present, htoken, Session.runOn_ask, hlogin]
  · refine ⟨_, _, .token htoken rfl, ?_⟩
    simp [Client.present, htoken, Session.runOn_ask]

namespace Authentication

variable {attempt attempt' : List Call} {result result' : Except FetchCause Unit}

theorem exists_presented (h : Authentication settings server earlier attempt result) :
    ∃ presented answer, attempt = opening settings :: presented ∧
      Presented settings server (earlier + 1) presented answer := by
  cases h with
  | letIn hpresented _ => exact ⟨_, _, rfl, hpresented⟩
  | turnedAway hpresented _ => exact ⟨_, _, rfl, hpresented⟩
  | refused hpresented => exact ⟨_, _, rfl, hpresented⟩

theorem not_reads (h : Authentication settings server earlier attempt result) :
    ∀ call ∈ attempt, ¬ call.Reads := by
  obtain ⟨presented, answer, rfl, hpresented⟩ := h.exists_presented
  intro call hcall
  rcases List.mem_cons.mp hcall with rfl | hcall
  · exact id
  · exact hpresented.not_reads call hcall

/-- An attempt builds a client in its first call only. -/
theorem eq_nil_of_connects {before after : List Call} {call : Call}
    (h : Authentication settings server earlier (before ++ call :: after) result)
    (hconnects : call.Connects) : before = [] := by
  obtain ⟨presented, answer, hattempt, hpresented⟩ := h.exists_presented
  cases before with
  | nil => rfl
  | cons first rest =>
    obtain ⟨-, rfl⟩ := List.cons.inj hattempt
    exact absurd hconnects (hpresented.not_connects call (by simp))

theorem unique (h : Authentication settings server earlier attempt result)
    (h' : Authentication settings server earlier attempt' result') :
    attempt = attempt' ∧ result = result' := by
  rcases h with ⟨hpresented, _⟩ | ⟨hpresented, _⟩ | ⟨hpresented⟩ <;>
    rcases h' with ⟨hpresented', _⟩ | ⟨hpresented', _⟩ | ⟨hpresented'⟩ <;>
    obtain ⟨rfl, hanswer⟩ := hpresented.unique hpresented' <;>
    simp_all

end Authentication

/-- A cause as the fault that ends a fetch. -/
def fetchFault (cause : FetchCause) : Fault :=
  .lifecycle (.credentialFetch cause)

def ended : Except FetchCause Unit → Except Fault Unit
  | .ok _ => .ok ()
  | .error cause => .error (fetchFault cause)

/-- An attempt begins with a new client and leaves the session open exactly if the server
lets it in. What else ends it is an error of the fetch. -/
theorem runOn_authenticate (session : Session) (hremote : session.server.IsRemote)
    (hrole : settings.token = "" → settings.roleId ≠ "" ∧ settings.secretId ≠ "") :
    ∃ attempt result,
      Authentication settings session.server session.calls.length attempt result ∧
        (Client.authenticate settings).runOn session =
          (ended result, { session with
            calls := session.calls ++ attempt
            isOpen := session.isOpen || result.toBool }) := by
  let connected : Session := { session with calls := session.calls ++ [opening settings] }
  obtain ⟨presented, answer, hpresented, hrun⟩ := presented_present connected hrole
  have hlength : connected.calls.length = session.calls.length + 1 := by simp [connected]
  rw [hlength] at hpresented
  have hauthenticate : (Client.authenticate settings).runOn session =
      (Attempt.ofExcept (refusedAs .authentication answer) >>= fun isIn =>
        if isIn.isTruthy then Session.letIn
        else Attempt.fail (fetchFault .unauthenticated)).runOn
          { connected with calls := connected.calls ++ presented } := by
    have hsettled := Attempt.runOn_settled (Client.present settings) connected
    rw [hrun] at hsettled
    have hconnected : (Session.ask (opening settings) fun _ _ => .ok ()).runOn session =
      (.ok (), connected) := rfl
    exact (Attempt.runOn_bind_ok hconnected).trans (Attempt.runOn_bind_ok hsettled)
  rw [hauthenticate, Attempt.runOn_bind, Attempt.runOn_ofExcept]
  cases answer with
  | ok isIn =>
    cases hisIn : isIn.isTruthy with
    | true =>
      refine ⟨_, _, .letIn hpresented hisIn, ?_⟩
      simp [refusedAs, hisIn, Session.runOn_letIn, connected, Except.toBool, ended]
    | false =>
      refine ⟨_, _, .turnedAway hpresented hisIn, ?_⟩
      simp [refusedAs, hisIn, connected, Except.toBool, ended, fetchFault]
  | error fault =>
    obtain ⟨error, rfl⟩ := hpresented.isRemote hremote
    refine ⟨_, _, .refused hpresented, ?_⟩
    simp [refusedAs, connected, Except.toBool, ended, fetchFault]

/-- Refused attempts, one after the other. -/
inductive Refused (settings : VaultSettings) (server : Server) : List Call → Prop where
  | nil : Refused settings server []
  | snoc {calls attempt : List Call} {cause : FetchCause} (h : Refused settings server calls)
      (hattempt : Authentication settings server calls.length attempt (.error cause)) :
    Refused settings server (calls ++ attempt)

/-- The calls to a server, and whether the session is open behind them: refused attempts,
and then perhaps one that was let in with only reads behind it. -/
inductive History (settings : VaultSettings) (server : Server) : List Call → Bool → Prop where
  | closed {calls : List Call} (h : Refused settings server calls) :
    History settings server calls false
  | opened {calls attempt reads : List Call} (h : Refused settings server calls)
      (hattempt : Authentication settings server calls.length attempt (.ok ()))
      (hreads : ∀ call ∈ reads, call.Reads) :
    History settings server (calls ++ attempt ++ reads) true

namespace Refused

variable {calls before after : List Call} {call : Call}

theorem not_reads (h : Refused settings server calls) : ∀ call ∈ calls, ¬ call.Reads := by
  induction h with
  | nil => simp
  | snoc _ hattempt ih =>
    intro call hcall
    rcases List.mem_append.mp hcall with hcall | hcall
    · exact ih call hcall
    · exact hattempt.not_reads call hcall

/-- Where a client is built among refused attempts, one of them begins. -/
theorem exists_attempt (h : Refused settings server (before ++ call :: after))
    (hconnects : call.Connects) :
    ∃ attempt cause, Authentication settings server before.length attempt (.error cause) := by
  generalize hcalls : before ++ call :: after = calls at h
  induction h generalizing after with
  | nil => simp at hcalls
  | @snoc calls attempt cause _ hattempt ih =>
    rcases List.append_eq_append_iff.mp hcalls with ⟨inside, rfl, hinside⟩ | ⟨inside, rfl, rfl⟩
    · cases inside with
      | nil => exact ⟨attempt, cause, by simpa using hattempt⟩
      | cons first rest =>
        obtain ⟨rfl, -⟩ := List.cons.inj hinside
        exact ih rfl
    · obtain rfl := hattempt.eq_nil_of_connects hconnects
      exact ⟨_, cause, by simpa using hattempt⟩

end Refused

namespace History

variable {calls attempt reads before after : List Call} {call : Call} {isOpen : Bool}

/-- A secret is only read behind an attempt that was let in, and between the two there are
only reads, so the client is still the same. -/
theorem exists_letIn (h : History settings server (before ++ call :: after) isOpen)
    (hreads : call.Reads) :
    ∃ refused attempt reads, before = refused ++ attempt ++ reads ∧
      Authentication settings server refused.length attempt (.ok ()) ∧
        ∀ call ∈ reads, call.Reads := by
  generalize hcalls : before ++ call :: after = calls at h
  cases h with
  | closed hrefused => exact absurd hreads (hrefused.not_reads call (by simp [← hcalls]))
  | @opened refused attempt reads hrefused hattempt hbehind =>
    rcases List.append_eq_append_iff.mp hcalls with ⟨inside, hsplit, hinside⟩ | ⟨inside, rfl, rfl⟩
    · cases inside with
      | nil => exact ⟨refused, attempt, [], by simpa using hsplit.symm, hattempt, by simp⟩
      | cons first rest =>
        obtain ⟨rfl, -⟩ := List.cons.inj hinside
        have hmem : call ∈ refused ++ attempt := by simp [hsplit]
        rcases List.mem_append.mp hmem with hmem | hmem
        · exact absurd hreads (hrefused.not_reads call hmem)
        · exact absurd hreads (hattempt.not_reads call hmem)
    · exact ⟨refused, attempt, inside, rfl, hattempt,
        fun call hmem => hbehind call (by simp [hmem])⟩

/-- Where a client is built, an attempt was refused or that one begins which was let in. -/
theorem eq_of_connects (hrefused : Refused settings server calls)
    (hattempt : Authentication settings server calls.length attempt (.ok ()))
    (hreads : ∀ call ∈ reads, call.Reads) (hconnects : call.Connects)
    (hcalls : before ++ call :: after = calls ++ (attempt ++ reads)) :
    before = calls ∨
      ∃ attempt cause, Authentication settings server before.length attempt (.error cause) := by
  have hnotReads : ¬ call.Reads := by
    cases call <;> simp_all [Call.Connects, Call.Reads]
  rcases List.append_eq_append_iff.mp hcalls with ⟨inside, rfl, hinside⟩ | ⟨inside, rfl, hinside⟩
  · cases inside with
    | nil => simp
    | cons first rest =>
      obtain ⟨rfl, -⟩ := List.cons.inj hinside
      exact Or.inr (hrefused.exists_attempt hconnects)
  · rcases List.append_eq_append_iff.mp hinside with ⟨deeper, rfl, rfl⟩ | ⟨deeper, rfl, hdeeper⟩
    · exact absurd (hreads call (by simp)) hnotReads
    · cases deeper with
      | nil =>
        simp only [List.nil_append] at hdeeper
        exact absurd (hreads call (by simp [← hdeeper])) hnotReads
      | cons first rest =>
        obtain ⟨rfl, -⟩ := List.cons.inj hdeeper
        obtain rfl := hattempt.eq_nil_of_connects hconnects
        simp

/-- Behind an attempt that was let in there are only reads. -/
theorem reads_of_letIn (h : History settings server (before ++ attempt ++ after) isOpen)
    (hattempt : Authentication settings server before.length attempt (.ok ())) :
    isOpen = true ∧ ∀ call ∈ after, call.Reads := by
  obtain ⟨presented, answer, hopening, -⟩ := hattempt.exists_presented
  generalize hcalls : before ++ attempt ++ after = calls at h
  have hnotRefused : ¬ ∃ attempt cause,
      Authentication settings server before.length attempt (.error cause) := by
    rintro ⟨_, cause, hrefused⟩
    exact absurd (hattempt.unique hrefused).2 (by simp)
  have hconnects : (opening settings).Connects := trivial
  cases h with
  | closed hrefused =>
    rw [← hcalls, hopening, List.append_assoc, List.cons_append] at hrefused
    exact absurd (hrefused.exists_attempt hconnects) hnotRefused
  | opened hrefused hletIn hreads =>
    rw [List.append_assoc, List.append_assoc] at hcalls
    have hbegin := hcalls
    rw [hopening, List.cons_append] at hbegin
    obtain rfl := (eq_of_connects hrefused hletIn hreads hconnects hbegin).resolve_right
      hnotRefused
    obtain ⟨rfl, -⟩ := hattempt.unique hletIn
    obtain rfl := List.append_cancel_left (List.append_cancel_left hcalls)
    exact ⟨rfl, hreads⟩

/-- The session is open exactly behind an attempt that was let in. -/
theorem isOpen_iff (h : History settings server calls isOpen) :
    isOpen = true ↔ ∃ before attempt after, calls = before ++ attempt ++ after ∧
      Authentication settings server before.length attempt (.ok ()) := by
  constructor
  · rintro rfl
    cases h with
    | opened _ hattempt _ => exact ⟨_, _, _, rfl, hattempt⟩
  · rintro ⟨before, attempt, after, rfl, hattempt⟩
    exact (h.reads_of_letIn hattempt).1

end History

end HostLifecycle.Vault
