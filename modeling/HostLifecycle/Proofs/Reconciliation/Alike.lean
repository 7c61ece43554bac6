import HostLifecycle.Proofs.Reconciliation.Run
import HostLifecycle.Proofs.Record.Access

/-!
Passes over two hosts that differ only in the digests they hold. Whatever a pass does with a
credential in one of them, it does with the same credential in disguise in the other one: it
judges them alike, tells the same of them, and decides on the same state.
-/

namespace HostLifecycle

open Attempt Audit Logging

namespace Disguise

variable (disguise : Disguise)

/-- The behaviour in place of a behaviour: what its effects are given is in disguise. -/
def behaviour (behaviour : Reconciliation.Behaviour) : Reconciliation.Behaviour :=
  ⟨behaviour.effects.map disguise.step, behaviour.ending⟩

def CoversBehaviour (behaviour : Reconciliation.Behaviour) : Prop :=
  ∀ step ∈ behaviour.effects, disguise.CoversStep step

end Disguise

namespace Reconciliation

variable {disguise : Disguise}

section

variable {data : Fields Value}

theorem get?_fields (key : Text) :
    Fields.get? (disguise.fields data) key = (data.get? key).map disguise.value :=
  Fields.get?_map disguise.value data key

/-- The same keys are missing in disguise. -/
theorem missingKeys_fields (h : disguise.Covers data) (keys : List Value) :
    missingKeys (.object (disguise.fields data)) keys = missingKeys (.object data) keys := by
  induction keys with
  | nil => rfl
  | cons key rest ih =>
    cases key with
    | str key =>
      have htruthy : ((Fields.get? (disguise.fields data) key).getD .null).isTruthy =
          ((data.get? key).getD .null).isTruthy := by
        rw [get?_fields]
        cases hfound : data.get? key with
        | none => rfl
        | some value =>
          obtain ⟨field, hfield, rfl⟩ := Fields.exists_of_get? hfound
          exact Disguise.isTruthy_value (h field hfield)
      rw [missingKeys, missingKeys, ih, Value.under?_str, Value.under?_str]
      simp only [bind, Except.bind, htruthy]
    | _ => rw [missingKeys, missingKeys, ih]; rfl

theorem publicKeyOf_fields (h : disguise.Covers data) (keys : List Value) :
    Paired (fun text text' => PublicKey.accepts text' = PublicKey.accepts text)
      (publicKeyOf (.object data) keys) (publicKeyOf (.object (disguise.fields data)) keys) := by
  rcases keys with _ | ⟨_, _ | ⟨key, _⟩⟩
  · exact .error _
  · exact .error _
  cases key with
  | str key =>
    rw [publicKeyOf, publicKeyOf, Value.under?_str, Value.under?_str, get?_fields]
    cases hfound : data.get? key with
    | none => exact .error _
    | some value =>
      obtain ⟨field, hfield, rfl⟩ := Fields.exists_of_get? hfound
      cases hvalue : field.2 with
      | str text => exact .ok (disguise.accepts_map (h field hfield text hvalue))
      | _ => exact .error _
  | _ => exact .error _

end

variable {credential : Credential}

/-- A credential has the same problem in disguise. -/
theorem credentialProblem_credential (h : disguise.CoversCredential credential)
    (keys : List Value) :
    credentialProblem keys (disguise.credential credential) =
      credentialProblem keys credential := by
  obtain ⟨name, data⟩ := credential
  cases data with
  | object fields =>
    have hcovers := h.fields fields rfl
    rw [credentialProblem, credentialProblem, Disguise.credential, missingKeys_fields hcovers]
    congr 1
    funext missing
    cases missing with
    | nil =>
      symm
      apply Paired.eq
      apply (publicKeyOf_fields hcovers keys).bind
      intro text text' haccepts
      rw [haccepts]
      exact .ok rfl
    | cons key rest => rfl
  | _ => rfl

theorem taken_map_behaviour (behaviours : List Behaviour) :
    Behaviour.taken (behaviours.map disguise.behaviour) =
      (disguise.behaviour (Behaviour.taken behaviours).1,
        (Behaviour.taken behaviours).2.map disguise.behaviour) := by
  match behaviours with
  | [] => rfl
  | [last] => rfl
  | first :: second :: rest => rfl

namespace Site

/-- Two hosts that differ only in the digests in their records. The actions are given the
same, but in disguise, and nothing is said of the sources. -/
structure Alike (disguise : Disguise) (site site' : Site) : Prop where
  host : HostRecord.Alike disguise site.host site'.host
  trail : site.trail = site'.trail
  scripted : site.Scripted disguise.CoversBehaviour
  actions : ∀ state, site'.actions state = (site.actions state).map disguise.behaviour
  calls : site.calls = site'.calls
  fetches : site.fetches = site'.fetches

variable {site site' : Site}

theorem Alike.about (h : Alike disguise site site') (message : Text) :
    site'.about message = site.about message := by
  obtain ⟨status, -, hhost⟩ := h.host
  rw [Site.about, Site.about, hhost]

theorem twin_onHost {α β : Type} {results : α → β → Prop} {action : Attempt HostRecord α}
    {action' : Attempt HostRecord β}
    (h : Twin (HostRecord.Alike disguise) results action action') :
    Twin (Alike disguise) results (onHost action) (onHost action') := by
  apply h.within
  · exact fun _ _ halike => halike.host
  · intro _ _ _ _ halike hhost
    exact { halike with host := hhost }

theorem twin_onTrail {α : Type} (action : Attempt Trail α) :
    Twin (Alike disguise) Eq (onTrail action) (onTrail action) := by
  apply (twin_refl action).within
  · exact fun _ _ halike => halike.trail
  · intro _ _ _ _ halike htrail
    exact { halike with trail := htrail }

theorem twin_log (logger : Text) (severity : Severity) (message : Text) (extras : Fields Value) :
    Twin (Alike disguise) Eq (log logger severity message extras)
      (log logger severity message extras) := by
  apply twin_get_bind
  intro site site' halike
  rw [halike.about]
  exact twin_onTrail _

theorem twin_warn (reason : Text) (message : Value) :
    Twin (Alike disguise) Eq (warn reason message) (warn reason message) := by
  apply twin_get_bind
  intro site site' halike
  obtain ⟨status, -, hhost⟩ := halike.host
  rw [hhost]
  exact (twin_onTrail _).then fun _ => twin_pure rfl

theorem twin_recordFailure (errorType : ErrorType) (message : Value) :
    Twin (Alike disguise) Eq (recordFailure errorType message)
      (recordFailure errorType message) := by
  apply (twin_onHost (HostRecord.twin_setError errorType message)).then
  intro _
  apply (twin_warn _ message).then
  intro _
  apply twin_get_bind
  intro site site' halike
  obtain ⟨status, -, hhost⟩ := halike.host
  rw [hhost]
  exact (twin_log _ _ _ _).then fun _ => twin_pure rfl

theorem twin_refuseRotation : Twin (Alike disguise) Eq refuseRotation refuseRotation :=
  (twin_warn _ _).then fun _ => twin_recordFailure _ _

/-- A credential is judged in disguise as it is judged itself. -/
theorem twin_validate (hcovers : disguise.CoversCredential credential) (service : Service)
    (kind : CredentialKind) :
    Twin (Alike disguise) Eq (validate service kind (some credential))
      (validate service kind (some (disguise.credential credential))) := by
  simp only [validate]
  cases service.judgement kind with
  | some outcome => exact twin_ofExcept (paired_eq outcome)
  | none =>
    simp only [inspect, credentialProblem_credential hcovers, problemMessage,
      Disguise.credential_name]
    apply (twin_ofExcept (paired_eq _)).then
    intro problem
    cases problem with
    | none => exact twin_pure rfl
    | some problem => exact (twin_warn _ _).then fun _ => twin_recordFailure _ _

theorem twin_remember (hcovers : disguise.CoversCredential credential) (kind : CredentialKind) :
    Twin (Alike disguise) Eq (remember kind (some credential))
      (remember kind (some (disguise.credential credential))) := by
  have hstep : disguise.CoversStep (.update kind (some credential)) := by
    rintro _ ⟨⟩
    exact hcovers
  apply (twin_onHost (RecordStep.twin_perform hstep nofun)).then
  intro _
  simp only [Option.map_some, Disguise.credential_name]
  exact twin_log _ _ _ _

theorem twin_renew (hcovers : disguise.CoversCredential credential) (service : Service)
    (kind : CredentialKind) :
    Twin (Alike disguise) Eq (renew service kind credential)
      (renew service kind (disguise.credential credential)) := by
  apply (twin_remember hcovers kind).caught.bind
  intro result result' hresult
  cases hresult with
  | error fault => exact twin_pure rfl
  | ok _ => exact twin_validate hcovers service kind

theorem twin_takeAction (state : State) :
    Twin (Alike disguise) (fun behaviour behaviour' =>
        disguise.CoversBehaviour behaviour ∧ behaviour' = disguise.behaviour behaviour)
      (takeAction state) (takeAction state) := by
  intro site site' halike
  have htaken : Behaviour.taken (site'.actions state) =
      (disguise.behaviour (site.due state),
        (Behaviour.taken (site.actions state)).2.map disguise.behaviour) := by
    rw [halike.actions, taken_map_behaviour]
    rfl
  constructor
  · exact .ok ⟨halike.scripted.due nofun state, congrArg Prod.fst htaken⟩
  · refine ⟨halike.host, halike.trail, halike.scripted.acted state, ?_,
      congrArg (· ++ [state]) halike.calls, halike.fetches⟩
    intro other
    change (if other = state then (Behaviour.taken (site'.actions state)).2
      else site'.actions other) = List.map disguise.behaviour
        (if other = state then (Behaviour.taken (site.actions state)).2 else site.actions other)
    split
    · exact congrArg Prod.snd htaken
    · exact halike.actions other

theorem twin_act (state : State) : Twin (Alike disguise) Eq (act state) (act state) := by
  apply (twin_takeAction state).bind
  rintro behaviour _ ⟨hcovers, rfl⟩
  apply (twin_onHost (RecordStep.twin_performAll hcovers)).then
  intro _
  exact twin_ofExcept (paired_eq behaviour.ending)

end Site

namespace Pass

/-- Two passes over hosts that are alike, in which the same was decided. -/
structure Alike (disguise : Disguise) (pass pass' : Pass) : Prop where
  site : Site.Alike disguise pass.site pass'.site
  start : pass'.start = pass.start
  next : pass'.next = pass.next

variable {pass pass' : Pass}

theorem Alike.hostAt (h : Alike disguise pass pass') (state : State) :
    pass'.hostAt state = pass.hostAt state := by
  obtain ⟨status, -, hhost⟩ := h.site.host
  rw [Pass.hostAt, Pass.hostAt, hhost]

theorem twin_onSite {α β : Type} {results : α → β → Prop} {action : Attempt Site α}
    {action' : Attempt Site β} (h : Twin (Site.Alike disguise) results action action') :
    Twin (Alike disguise) results (onSite action) (onSite action') := by
  apply h.within
  · exact fun _ _ halike => halike.site
  · intro _ _ _ _ halike hsite
    exact ⟨hsite, halike.start, halike.next⟩

theorem twin_moveTo (state : State) : Twin (Alike disguise) Eq (moveTo state) (moveTo state) :=
  fun _ _ halike => ⟨.ok rfl, halike.site, halike.start, rfl⟩

theorem twin_log (logger : Text) (severity : Severity) (message : Text) (extras : Fields Value) :
    Twin (Alike disguise) Eq (log logger severity message extras)
      (log logger severity message extras) :=
  twin_onSite (Site.twin_log logger severity message extras)

theorem twin_redirect (logger : Text) (kind : CredentialKind) {seen seen' : SecretStatus}
    (hseen : SecretStatus.Alike disguise seen seen') (state : State) :
    Twin (Alike disguise) Eq (redirect logger kind seen state)
      (redirect logger kind seen' state) := by
  apply twin_get_bind
  intro pass pass' halike
  have hextras : redirectExtras kind seen' = redirectExtras kind seen := by
    cases kind with
    | os => rfl
    | rescue => rw [redirectExtras, redirectExtras, hseen.reference]
  rw [halike.next, halike.hostAt, hextras]
  exact (twin_log _ _ _ _).then fun _ => twin_moveTo state

theorem twin_handleRotation (hcovers : disguise.CoversCredential credential) (service : Service)
    (logger : Text) (kind : CredentialKind) {seen seen' : SecretStatus}
    (hseen : SecretStatus.Alike disguise seen seen') :
    Twin (Alike disguise) Eq (handleRotation service logger kind seen credential)
      (handleRotation service logger kind seen' (disguise.credential credential)) := by
  apply twin_get_bind
  intro pass pass' halike
  rw [halike.next]
  cases reaction kind pass.next with
  | accept => exact twin_onSite (Site.twin_renew hcovers service kind)
  | redirect state =>
    apply (twin_redirect logger kind hseen state).then
    intro _
    exact twin_onSite (Site.twin_renew hcovers service kind)
  | refuse => exact twin_onSite Site.twin_refuseRotation

/-- A credential is compared in disguise as it is compared itself. -/
theorem twin_checkCredential (hcovers : disguise.CoversCredential credential)
    (service : Service) (logger : Text) (kind : CredentialKind) :
    Twin (Alike disguise) Eq (checkCredential service logger kind credential)
      (checkCredential service logger kind (disguise.credential credential)) := by
  apply twin_get_bind
  intro pass pass' halike
  apply (twin_ofExcept (halike.site.host.remembered kind)).bind
  intro seen seen' hseen
  cases hseen with
  | none => exact twin_onSite (Site.twin_renew hcovers service kind)
  | some hseen =>
    apply (twin_ofExcept (Disguise.agrees_credential hcovers hseen)).then
    intro agrees
    cases agrees with
    | true => exact twin_onSite (Site.twin_validate hcovers service kind)
    | false => exact twin_handleRotation hcovers service logger kind hseen

theorem twin_checkFetched {found : Option Credential} (hcovers : disguise.CoversFound found)
    (service : Service) (logger : Text) (kind : CredentialKind) :
    Twin (Alike disguise) Eq (checkFetched service logger kind found)
      (checkFetched service logger kind (found.map disguise.credential)) := by
  cases found with
  | none => exact twin_pure rfl
  | some credential => exact twin_checkCredential (hcovers credential rfl) service logger kind

theorem twin_checkBoth {fetched : Option Credential × Option Credential}
    (hos : disguise.CoversFound fetched.1) (hrescue : disguise.CoversFound fetched.2)
    (service : Service) (logger : Text) :
    Twin (Alike disguise) Eq (checkBoth service logger fetched)
      (checkBoth service logger
        (fetched.1.map disguise.credential, fetched.2.map disguise.credential)) := by
  apply (twin_checkFetched hos service logger .os).then
  intro outcome
  split
  · exact twin_checkFetched hrescue service logger .rescue
  · exact twin_pure rfl

theorem twin_divert : Twin (Alike disguise) Eq divert divert := by
  apply twin_get_bind
  intro pass pass' halike
  obtain ⟨status, -, hhost⟩ := halike.site.host
  rw [hhost, halike.next]
  split
  · cases diversion? pass.next with
    | none => exact twin_pure rfl
    | some state =>
      apply Twin.then
      · apply (twin_moveTo state).then
        intro _
        apply twin_get_bind
        intro moved moved' hmoved
        rw [hmoved.start]
        exact twin_log _ _ _ _
      · exact fun _ => twin_pure rfl
  · exact twin_pure rfl

theorem twin_reportDeletion (logger : Text) :
    Twin (Alike disguise) Eq (reportDeletion logger) (reportDeletion logger) := by
  apply twin_get_bind
  intro pass pass' halike
  rw [halike.start, halike.hostAt]
  exact (twin_log _ _ _ _).then fun _ => twin_pure rfl

theorem twin_act : Twin (Alike disguise) Eq act act := by
  apply twin_get_bind
  intro pass pass' halike
  rw [halike.start]
  apply (twin_onSite (Site.twin_act pass.start)).then
  intro outcome
  split
  · apply twin_get_bind
    intro acted acted' hacted
    have hadvanced : acted'.advanced = acted.advanced := by
      rw [advanced, advanced, hacted.start, hacted.next]
    rw [hadvanced]
    exact (twin_moveTo _).then fun _ => twin_pure rfl
  · exact twin_pure rfl

theorem twin_handle (logger : Text) : Twin (Alike disguise) Eq (handle logger) (handle logger) := by
  apply twin_get_bind
  intro pass pass' halike
  obtain ⟨status, -, hhost⟩ := halike.site.host
  have hcancelled : pass'.site.host.isCancelled = pass.site.host.isCancelled := by
    rw [hhost]
    rfl
  rw [halike.start, hcancelled]
  split
  · apply twin_get_bind
    intro found found' hfound
    rw [hfound.start, hfound.hostAt]
    exact (twin_log _ _ _ _).then fun _ => twin_pure rfl
  · split
    · exact (twin_moveTo _).then fun _ => twin_pure rfl
    · exact twin_act

theorem twin_writeState (logger : Text) :
    Twin (Alike disguise) Eq (writeState logger) (writeState logger) := by
  apply twin_get_bind
  intro pass pass' halike
  obtain ⟨status, -, hhost⟩ := halike.site.host
  have hmessage : pass'.changeMessage = pass.changeMessage := by
    rw [changeMessage, changeMessage, halike.start, halike.next]
  have hextras : pass'.changeExtras = pass.changeExtras := by
    rw [changeExtras, changeExtras, hhost, halike.start, halike.next]
  rw [hmessage, hextras]
  apply (twin_log _ _ _ _).then
  intro _
  apply twin_modify
  rintro logged logged' ⟨hsite, hstart, hnext⟩
  obtain ⟨status, hstatus, hhost⟩ := hsite.host
  refine ⟨{ hsite with host := ⟨status, hstatus, ?_⟩ }, hstart, hnext⟩
  rw [hhost, hnext]

theorem Alike.committed (h : Alike disguise pass pass') (logger : Text) :
    Alike disguise (committed logger pass) (committed logger pass') := by
  have hchanged : pass'.isChanged = pass.isChanged := by
    rw [isChanged, isChanged, h.start, h.next]
  rw [Pass.committed, Pass.committed, hchanged]
  split
  · exact (twin_writeState logger _ _ h).behind
  · exact h

end Pass

end Reconciliation

end HostLifecycle
