import HostLifecycle.Proofs.Vault.Authentication
import HostLifecycle.Vault.SecretStore

/-!
What a store of credentials asks of the server. A fetch that finds the session open only
reads; one that finds it closed authenticates first, unless no path is configured, and ends
there if it is turned away. The rescue credential is only read behind an answer for the
operating system. Along a run of fetches nothing is read before the server let the client
in, and nothing is presented to it afterwards.
-/

namespace HostLifecycle.Vault

open Settings Logging

/-- The secret in an answer to a read, null if nothing is stored at the path. Whatever else the
server refuses is an error of the fetch. -/
def secretIn (path : Value) : Except Fault Value → Except Fault Value
  | .ok response => Client.secretOf response
  | .error (.remote e) =>
    if e.isInvalidPath then .ok .null else .error (fetchFault (.reading path e))
  | .error fault => .error fault

def stored (path : Value) : Value → Except Fault (Option Credential)
  | .null => .ok none
  | secret => secret.toMapping.map fun data => some ⟨path, data⟩

theorem runOn_connect_open {settings : VaultSettings} {session : Session}
    (hopen : session.isOpen = true) :
    (Client.connect settings).runOn session = (.ok (), session) := by
  simp [Client.connect, hopen]

theorem runOn_connect_closed {settings : VaultSettings} {session : Session}
    (hclosed : session.isOpen = false) :
    (Client.connect settings).runOn session = (Client.authenticate settings).runOn session := by
  simp [Client.connect, hclosed]

/-- A request makes one call. -/
theorem runOn_request (settings : VaultSettings) (path : Value) (session : Session) :
    ∃ journal, (Client.request settings path).runOn session =
      (secretIn path (session.server.read session.calls.length path),
        { session with
          calls := session.calls ++ [.read path settings.mountPath]
          journal := journal }) := by
  have hasked := Attempt.runOn_settled
    (Session.ask (.read path settings.mountPath) fun s n => s.read n path) session
  rw [Session.runOn_ask] at hasked
  rw [Client.request, Attempt.runOn_bind_ok hasked]
  cases session.server.read session.calls.length path with
  | ok response => exact ⟨session.journal, rfl⟩
  | error fault =>
    cases fault with
    | remote error =>
      cases hinvalid : error.isInvalidPath with
      | true => exact ⟨_, by simp only [hinvalid, secretIn]; rfl⟩
      | false => exact ⟨session.journal, by simp only [hinvalid, secretIn]; rfl⟩
    | _ => exact ⟨session.journal, rfl⟩

namespace SecretStore

variable {store : SecretStore} {session : Session}

theorem readPath_eq (store : SecretStore) (path : Text) :
    store.readPath path = Client.connect store.vault >>= fun _ =>
      Client.request store.vault (.str path) >>= fun secret =>
        Attempt.ofExcept (stored (.str path) secret) := by
  have hpure : ∀ (result : Except Fault Value) (f : Value → Option Credential),
      (Attempt.ofExcept result >>= fun data => pure (f data) :
        Attempt Session (Option Credential)) = Attempt.ofExcept (result.map f) := by
    intro result f
    funext session
    cases result <;> rfl
  rw [readPath, Client.read, bind_assoc]
  refine bind_congr fun _ => bind_congr fun secret => ?_
  cases secret with
  | null => rfl
  | _ => exact hpure _ _

/-- The calls that read a credential. -/
def reads (store : SecretStore) (kind : CredentialKind) : List Call :=
  if store.path kind = "" then [] else [.read (.str (store.path kind)) store.vault.mountPath]

/-- The credential that a read behind a number of earlier calls answers, none if no path is
configured. -/
def credentialAt (store : SecretStore) (server : Server) (kind : CredentialKind) (earlier : Nat) :
    Except Fault (Option Credential) :=
  if store.path kind = "" then .ok none
  else secretIn (.str (store.path kind)) (server.read earlier (.str (store.path kind))) >>=
    stored (.str (store.path kind))

/-- In an open session a credential is read, and nothing else is asked for. -/
theorem runOn_fetchOne_open (henabled : store.vault.enabled = true) (session : Session)
    (hopen : session.isOpen = true) (environment : Environment) (kind : CredentialKind) :
    ∃ journal, (store.fetchOne environment kind).runOn session =
      (store.credentialAt session.server kind session.calls.length,
        { session with calls := session.calls ++ store.reads kind, journal := journal }) := by
  by_cases hpath : store.path kind = ""
  · refine ⟨session.journal, ?_⟩
    simp [fetchOne, henabled, hpath, credentialAt, reads]
  · obtain ⟨journal, hrequest⟩ :=
      runOn_request store.vault (.str (store.path kind)) session
    refine ⟨journal, ?_⟩
    have hread : store.fetchOne environment kind = store.readPath (store.path kind) := by
      simp [fetchOne, henabled, hpath]
    rw [hread, readPath_eq, Attempt.runOn_bind_ok (runOn_connect_open hopen),
      Attempt.runOn_bind, hrequest]
    simp only [credentialAt, reads, hpath, if_false]
    cases secretIn (.str (store.path kind))
      (session.server.read session.calls.length (.str (store.path kind))) <;> rfl

/-- What a fetch in an open session calls behind a number of earlier calls, and its result:
the rescue credential is read behind an answer for the operating system only. -/
inductive Told (store : SecretStore) (server : Server) (earlier : Nat) :
    List Call → Except Fault (Option Credential × Option Credential) → Prop where
  | both {os : Option Credential} (hos : store.credentialAt server .os earlier = .ok os) :
    Told store server earlier (store.reads .os ++ store.reads .rescue)
      ((store.credentialAt server .rescue (earlier + (store.reads .os).length)).map fun rescue =>
        (os, rescue))
  | halted {fault : Fault} (hos : store.credentialAt server .os earlier = .error fault) :
    Told store server earlier (store.reads .os) (.error fault)

theorem told_fetch (henabled : store.vault.enabled = true) (session : Session)
    (hopen : session.isOpen = true) (environment : Environment) :
    ∃ calls result journal, Told store session.server session.calls.length calls result ∧
      (store.fetch environment).runOn session =
        (result, { session with calls := session.calls ++ calls, journal := journal }) := by
  obtain ⟨journal, hos⟩ := runOn_fetchOne_open henabled session hopen environment .os
  cases hcredential : store.credentialAt session.server .os session.calls.length with
  | error fault =>
    rw [hcredential] at hos
    exact ⟨_, _, journal, .halted hcredential, Attempt.runOn_bind_error hos⟩
  | ok os =>
    rw [hcredential] at hos
    obtain ⟨journal', hrescue⟩ := runOn_fetchOne_open henabled { session with
      calls := session.calls ++ store.reads .os, journal := journal } hopen environment .rescue
    refine ⟨_, _, journal', .both hcredential, ?_⟩
    rw [fetch, Attempt.runOn_bind_ok hos, Attempt.runOn_bind, hrescue]
    simp only [List.length_append, List.append_assoc]
    cases store.credentialAt session.server .rescue
      (session.calls.length + (store.reads .os).length) <;> rfl

theorem fetchOne_of_path (henabled : store.vault.enabled = true) {kind : CredentialKind}
    (hpath : store.path kind ≠ "") (environment : Environment) :
    store.fetchOne environment kind = Client.connect store.vault >>= fun _ =>
      Client.request store.vault (.str (store.path kind)) >>= fun secret =>
        Attempt.ofExcept (stored (.str (store.path kind)) secret) := by
  rw [← readPath_eq]
  simp [fetchOne, henabled, hpath]

theorem fetchOne_of_no_path (henabled : store.vault.enabled = true) {kind : CredentialKind}
    (hpath : store.path kind = "") (environment : Environment) :
    store.fetchOne environment kind = pure none := by
  simp [fetchOne, henabled, hpath]

variable {changed : Session} (henabled : store.vault.enabled = true)
  (hclosed : session.isOpen = false)

include henabled hclosed

/-- A fetch in a closed session ends where the client is turned away. -/
theorem runOn_fetch_of_error (hpath : ∃ kind, store.path kind ≠ "") {fault : Fault}
    (hauthenticate : (Client.authenticate store.vault).runOn session = (.error fault, changed))
    (environment : Environment) : (store.fetch environment).runOn session =
      (.error fault, changed) := by
  rw [← runOn_connect_closed hclosed] at hauthenticate
  have hread : ∀ kind, store.path kind ≠ "" →
      (store.fetchOne environment kind).runOn session = (.error fault, changed) := by
    intro kind hpath
    rw [fetchOne_of_path henabled hpath]
    exact Attempt.runOn_bind_error hauthenticate
  by_cases hos : store.path .os = ""
  · rw [fetch, fetchOne_of_no_path henabled hos, pure_bind]
    obtain ⟨kind, hpath⟩ := hpath
    cases kind with
    | os => exact absurd hos hpath
    | rescue => exact Attempt.runOn_bind_error (hread .rescue hpath)
  · exact Attempt.runOn_bind_error (hread .os hos)

/-- A fetch in a closed session goes on as in the open one once the client is let in. -/
theorem runOn_fetch_of_ok (hpath : ∃ kind, store.path kind ≠ "")
    (hauthenticate : (Client.authenticate store.vault).runOn session = (.ok (), changed))
    (hopen : changed.isOpen = true) (environment : Environment) :
    (store.fetch environment).runOn session = (store.fetch environment).runOn changed := by
  rw [← runOn_connect_closed hclosed] at hauthenticate
  have hread : ∀ kind, store.path kind ≠ "" → (store.fetchOne environment kind).runOn session =
      (store.fetchOne environment kind).runOn changed := by
    intro kind hpath
    rw [fetchOne_of_path henabled hpath, Attempt.runOn_bind_ok hauthenticate,
      Attempt.runOn_bind_ok (runOn_connect_open hopen)]
  by_cases hos : store.path .os = ""
  · rw [fetch, fetchOne_of_no_path henabled hos, pure_bind, Attempt.runOn_bind,
      Attempt.runOn_bind]
    obtain ⟨kind, hpath⟩ := hpath
    cases kind with
    | os => exact absurd hos hpath
    | rescue => rw [hread .rescue hpath]
  · rw [fetch, Attempt.runOn_bind, Attempt.runOn_bind, hread .os hos]

omit henabled hclosed

/-- What a fetch calls behind a number of earlier calls, with its result and whether it leaves
the session open. -/
inductive Fetched (store : SecretStore) (server : Server) (earlier : Nat) :
    Bool → List Call → Except Fault (Option Credential × Option Credential) → Bool → Prop where
  | idle (hpaths : ∀ kind, store.path kind = "") :
    Fetched store server earlier false [] (.ok (none, none)) false
  | turnedAway {attempt : List Call} {cause : FetchCause}
      (hpath : ∃ kind, store.path kind ≠ "")
      (hattempt : Authentication store.vault server earlier attempt (.error cause)) :
    Fetched store server earlier false attempt (.error (fetchFault cause)) false
  | letIn {attempt calls : List Call}
      {result : Except Fault (Option Credential × Option Credential)}
      (hpath : ∃ kind, store.path kind ≠ "")
      (hattempt : Authentication store.vault server earlier attempt (.ok ()))
      (htold : store.Told server (earlier + attempt.length) calls result) :
    Fetched store server earlier false (attempt ++ calls) result true
  | reading {calls : List Call}
      {result : Except Fault (Option Credential × Option Credential)}
      (htold : store.Told server earlier calls result) :
    Fetched store server earlier true calls result true

/-- Every fetch is of this kind. -/
theorem fetched_fetch (hcheck : store.vault.check = .ok store.vault)
    (henabled : store.vault.enabled = true) (hremote : session.server.IsRemote)
    (environment : Environment) :
    ∃ calls result isOpen journal,
      store.Fetched session.server session.calls.length session.isOpen calls result isOpen ∧
        (store.fetch environment).runOn session =
          (result, { session with
            isOpen := isOpen, calls := session.calls ++ calls, journal := journal }) := by
  cases hopen : session.isOpen with
  | true =>
    obtain ⟨calls, result, journal, htold, hrun⟩ := told_fetch henabled session hopen environment
    refine ⟨calls, result, true, journal, .reading htold, ?_⟩
    rw [hrun, hopen]
  | false =>
    by_cases hpath : ∃ kind, store.path kind ≠ ""
    · obtain ⟨attempt, result, hattempt, hauthenticate⟩ :=
        runOn_authenticate session hremote (presentable_of_check hcheck henabled)
      cases result with
      | error cause =>
        refine ⟨_, _, _, session.journal, .turnedAway hpath hattempt, ?_⟩
        rw [runOn_fetch_of_error henabled hopen hpath hauthenticate, hopen]
        rfl
      | ok _ =>
        have hletIn : (Client.authenticate store.vault).runOn session =
            (.ok (), { session with calls := session.calls ++ attempt, isOpen := true }) := by
          simpa [hopen, ended, Except.toBool] using hauthenticate
        obtain ⟨calls, result, journal, htold, hrun⟩ :=
          told_fetch henabled { session with calls := session.calls ++ attempt, isOpen := true }
            rfl environment
        rw [List.length_append] at htold
        refine ⟨_, _, _, journal, .letIn hpath hattempt htold, ?_⟩
        rw [runOn_fetch_of_ok henabled hopen hpath hletIn rfl, hrun]
        simp
    · have hpaths : ∀ kind, store.path kind = "" := by simpa using hpath
      refine ⟨[], _, false, session.journal, .idle hpaths, ?_⟩
      rw [fetch, fetchOne_of_no_path henabled (hpaths .os),
        fetchOne_of_no_path henabled (hpaths .rescue)]
      simp [← hopen]

theorem Told.reads {server : Server} {earlier : Nat} {calls : List Call}
    {result : Except Fault (Option Credential × Option Credential)}
    (h : store.Told server earlier calls result) : ∀ call ∈ calls, call.Reads := by
  have hreads : ∀ kind, ∀ call ∈ store.reads kind, call.Reads := by
    intro kind call hcall
    by_cases hpath : store.path kind = ""
    · simp [SecretStore.reads, hpath] at hcall
    · simp only [SecretStore.reads, hpath, if_false, List.mem_singleton] at hcall
      subst hcall
      trivial
  cases h with
  | both _ =>
    intro call hcall
    rcases List.mem_append.mp hcall with hcall | hcall
    · exact hreads .os call hcall
    · exact hreads .rescue call hcall
  | halted _ => exact hreads .os

/-- A fetch goes on with the history of the calls. -/
theorem Fetched.history {server : Server} {calls behind : List Call} {isOpen isOpen' : Bool}
    {result : Except Fault (Option Credential × Option Credential)}
    (hbefore : History store.vault server calls isOpen)
    (h : store.Fetched server calls.length isOpen behind result isOpen') :
    History store.vault server (calls ++ behind) isOpen' := by
  cases h with
  | idle _ => simpa using hbefore
  | turnedAway _ hattempt =>
    cases hbefore with
    | closed hrefused => exact .closed (hrefused.snoc hattempt)
  | letIn _ hattempt htold =>
    cases hbefore with
    | closed hrefused =>
      rw [← List.append_assoc]
      exact .opened hrefused hattempt htold.reads
  | reading htold =>
    cases hbefore with
    | opened hrefused hattempt hreads =>
      rw [List.append_assoc]
      refine .opened hrefused hattempt fun call hcall => ?_
      rcases List.mem_append.mp hcall with hcall | hcall
      · exact hreads call hcall
      · exact htold.reads call hcall

/-- Sessions that a run of fetches comes to, whatever the variables of the process are at each
of them. -/
inductive Fetches (store : SecretStore) (start : Session) : Session → Prop where
  | start : Fetches store start start
  | snoc {session : Session} (h : Fetches store start session) (environment : Environment) :
    Fetches store start ((store.fetch environment).runOn session).2

theorem history_fetches {server : Server} (hcheck : store.vault.check = .ok store.vault)
    (henabled : store.vault.enabled = true) (hremote : server.IsRemote)
    (hrun : store.Fetches (Session.start server) session) :
    session.server = server ∧ History store.vault server session.calls session.isOpen := by
  induction hrun with
  | start => exact ⟨rfl, .closed .nil⟩
  | @snoc session hrun environment ih =>
    obtain ⟨rfl, hhistory⟩ := ih
    obtain ⟨calls, result, isOpen, journal, hfetched, hfetch⟩ :=
      fetched_fetch hcheck henabled hremote environment
    rw [hfetch]
    exact ⟨rfl, hfetched.history hhistory⟩

/-- Access to the secrets fails closed, and is never answered from memory. Along every run of
fetches of a store whose settings passed their check, a secret is only read by a client that
presented what the settings name and was let in; once one is let in nothing else is called but
reads; and the session is open exactly from then on, so that a refused attempt is not
remembered. The next fetch, whatever came before it, is as told: a closed session
authenticates with a new client if a path is configured, each refusal is an error of the fetch,
and each configured path is read once, that of the rescue system behind an answer for the
operating system only. -/
theorem fetches_fail_closed {server : Server} (hcheck : store.vault.check = .ok store.vault)
    (henabled : store.vault.enabled = true) (hremote : server.IsRemote)
    (hrun : store.Fetches (Session.start server) session) :
    (∀ before path mountPath after,
      session.calls = before ++ Call.read path mountPath :: after →
      ∃ refused attempt reads, before = refused ++ attempt ++ reads ∧
        Authentication store.vault server refused.length attempt (.ok ()) ∧
          ∀ call ∈ reads, call.Reads) ∧
    (∀ before attempt after, session.calls = before ++ attempt ++ after →
      Authentication store.vault server before.length attempt (.ok ()) →
        ∀ call ∈ after, call.Reads) ∧
    (session.isOpen = true ↔ ∃ before attempt after,
      session.calls = before ++ attempt ++ after ∧
        Authentication store.vault server before.length attempt (.ok ())) ∧
    ∀ environment, ∃ calls result isOpen journal,
      store.Fetched server session.calls.length session.isOpen calls result isOpen ∧
        (store.fetch environment).runOn session =
          (result, { session with
            isOpen := isOpen, calls := session.calls ++ calls, journal := journal }) := by
  obtain ⟨hserver, hhistory⟩ := history_fetches hcheck henabled hremote hrun
  refine ⟨?_, ?_, hhistory.isOpen_iff, ?_⟩
  · intro before path mountPath after hcalls
    rw [hcalls] at hhistory
    exact hhistory.exists_letIn trivial
  · intro before attempt after hcalls hattempt
    rw [hcalls] at hhistory
    exact (hhistory.reads_of_letIn hattempt).2
  · intro environment
    subst hserver
    exact fetched_fetch hcheck henabled hremote environment

/-- A store that reads the credential of the operating system with a token. -/
def ofToken (token osPath : Text) : SecretStore where
  vault := ⟨true, "http://localhost:8200", token, "", "", "secret", ""⟩
  ssh := ⟨osPath, "", "name", "public-key", "private-key"⟩

/-- Two fetches with a token authenticate once. -/
theorem fetches_fail_closed_twice :
    let store := ofToken "token" "os"
    let once := ((store.fetch []).runOn (Session.start Server.empty)).2
    ∀ call ∈ ((store.fetch []).runOn once).2.calls.drop 2, call.Reads := by
  have hremote : Server.empty.IsRemote := by
    constructor
    · intro n fault h
      cases h
    · intro n fault h
      cases h
    · intro n path fault h
      cases h
      exact ⟨_, rfl⟩
  have hattempt : Authentication (ofToken "token" "os").vault Server.empty 0
      [opening (ofToken "token" "os").vault, .check (some "token")] (.ok ()) :=
    .letIn (.token (by decide) rfl) rfl
  exact (fetches_fail_closed rfl rfl hremote ((Fetches.start.snoc []).snoc [])).2.1 [] _ _ rfl
    hattempt

end SecretStore

end HostLifecycle.Vault
