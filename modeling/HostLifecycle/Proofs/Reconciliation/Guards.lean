import HostLifecycle.Proofs.Reconciliation.Driving
import HostLifecycle.Proofs.Reconciliation.Removal

/-!
The guarded fields of a record. Whatever is written to a record, by its owner, by a pass or by an
action, its state is one of the known states, its mark is a truth value, and a mark that was set
stays set. A write that the guards refuse leaves everything as it was, and so does remembering a
credential without data.
-/

namespace HostLifecycle

open Attempt

theorem State.text_of_ofText? {text : Text} {state : State} (h : ofText? text = some state) :
    text = state.text := by
  have hfound := List.find?_some h
  exact (beq_iff_eq.mp hfound).symm

/-- A value is the written form of a state, or it is refused and shown, if it can be told. -/
theorem State.ofValue_cases (value : Value) :
    (∃ state : State, value = .str state.text ∧ ofValue value = .ok state) ∨
    (∀ state : State, value ≠ .str state.text) ∧
      ofValue value = .error (.telling value (.invalid (.unlisted .state value))) := by
  by_cases hlisted : ∃ state : State, value = .str state.text
  · obtain ⟨state, rfl⟩ := hlisted
    exact Or.inl ⟨state, rfl, ofValue_text state⟩
  · refine Or.inr ⟨fun state hstate => hlisted ⟨state, hstate⟩, ?_⟩
    cases value with
    | str text =>
      cases hfound : ofText? text with
      | none => simp [ofValue, Value.asStr?, hfound]
      | some state => exact absurd ⟨state, congrArg Value.str (text_of_ofText? hfound)⟩ hlisted
    | _ => rfl

namespace HostRecord

variable {host after : HostRecord} {field : Text} {value : Value}

theorem write_state (host : HostRecord) (value : Value) :
    host.write "provisioning_state" value =
      (State.ofValue value).map fun state => { host with state := state } := by
  rw [write, Text.string?_ofString]
  rfl

theorem write_marker (host : HostRecord) (value : Value) :
    host.write "deletion_requested" value =
      (host.markerOf value).map fun marker => { host with deletionRequested := marker } := by
  rw [write, Text.string?_ofString]
  rfl

/-- No write takes the mark of a record back, whatever it writes and to which field. -/
theorem marked_write (h : host.write field value = .ok after)
    (hrequested : host.deletionRequested = true) : after.deletionRequested = true := by
  by_cases hfield : field.string? = some "provisioning_state"
  · rw [write, hfield] at h
    obtain ⟨state, -, rfl⟩ := exists_of_map_ok h
    exact hrequested
  · exact (spares_write h hfield).marked hrequested

theorem marked_assigned (h : RecordStep.assigned host field value = .ok after)
    (hrequested : host.deletionRequested = true) : after.deletionRequested = true := by
  by_cases himage : field = "install_image"
  · rw [himage, RecordStep.assigned_image] at h
    obtain ⟨image, -, rfl⟩ := exists_of_map_ok h
    exact hrequested
  · rw [RecordStep.assigned_of_ne _ himage] at h
    exact marked_write h hrequested

/-- A write hides no operation but the one under whose name it writes. -/
theorem mem_hidden_of_write {operation : Operation} (h : host.write field value = .ok after)
    (hfield : field ≠ operation.name) (hhidden : operation ∈ after.hidden) :
    operation ∈ host.hidden := by
  unfold write at h
  split at h
  case h_2 | h_3 =>
    obtain ⟨_, -, rfl⟩ := exists_of_map_ok h
    exact hhidden
  case h_9 | h_10 | h_11 | h_12 | h_13 => cases h
  case h_14 =>
    cases h
    rcases List.mem_append.mp hhidden with hbefore | hnew
    · exact hbefore
    · have hname := (List.mem_filter.mp hnew).2
      exact absurd (beq_iff_eq.mp hname).symm hfield
  all_goals
    cases h
    exact hhidden

theorem mem_hidden_of_assigned {operation : Operation}
    (h : RecordStep.assigned host field value = .ok after) (hfield : field ≠ operation.name)
    (hhidden : operation ∈ after.hidden) : operation ∈ host.hidden := by
  by_cases himage : field = "install_image"
  · rw [himage, RecordStep.assigned_image] at h
    obtain ⟨image, -, rfl⟩ := exists_of_map_ok h
    exact hhidden
  · rw [RecordStep.assigned_of_ne _ himage] at h
    exact mem_hidden_of_write h hfield hhidden

theorem hidden_of_ofFields {mapping : Value} {image : Held InstallImage}
    {status : Held SshStatus} {errorType : Held ErrorType}
    (h : ofFields mapping image status errorType = .ok after) : after.hidden = [] := by
  obtain ⟨arguments, -, h⟩ := exists_of_bind_ok h
  obtain ⟨name, -, h⟩ := exists_of_bind_ok h
  simp only at h
  split at h <;>
  · obtain ⟨state, -, h⟩ := exists_of_bind_ok h
    cases h
    rfl

/-- A record that is read back hides nothing. -/
theorem hidden_of_reloaded (h : host.reloaded = .ok after) : after.hidden = [] := by
  obtain ⟨document, -, hread⟩ := exists_of_bind_ok h
  split at hread
  case h_1 =>
    obtain ⟨fields, -, hread⟩ := exists_of_bind_ok hread
    obtain ⟨status, -, hread⟩ := exists_of_bind_ok hread
    obtain ⟨image, -, hread⟩ := exists_of_bind_ok hread
    obtain ⟨errorType, -, hread⟩ := exists_of_bind_ok hread
    exact hidden_of_ofFields hread
  all_goals cases hread

/-- A property of records that is told from the mark and the hidden operations, and that is not
lost where the record is stored and read back. -/
structure OfGuards (property : HostRecord → Prop) : Prop where
  congr : ∀ {host after : HostRecord}, after.deletionRequested = host.deletionRequested →
    after.hidden = host.hidden → property host → property after
  reloaded : ∀ {host after : HostRecord}, property host → host.reloaded = .ok after →
    property after

theorem ofGuards_marked : OfGuards (·.deletionRequested = true) where
  congr hmarker _ h := hmarker.trans h
  reloaded h hreloaded := (state_of_reloaded hreloaded).2.trans h

theorem ofGuards_offered (operation : Operation) : OfGuards (operation ∉ ·.hidden) where
  congr _ hhidden h := hhidden ▸ h
  reloaded _ hreloaded := by
    rw [hidden_of_reloaded hreloaded]
    exact List.not_mem_nil

end HostRecord

namespace RecordStep

/-- No access to a record takes its mark back. -/
theorem marked_perform (step : RecordStep) :
    Preserves (fun host : HostRecord => host.deletionRequested = true) step.perform := by
  cases step with
  | assign field value =>
    apply HostRecord.preserves_replaced
    exact fun host after hrequested hafter => HostRecord.marked_assigned hafter hrequested
  | write field value =>
    apply HostRecord.preserves_replaced
    exact fun host after hrequested hafter => HostRecord.marked_write hafter hrequested
  | _ =>
    refine fun host => (spares_perform ?_ host).marked
    trivial

/-- An access that writes to no field by its name keeps the name of a record and what is hidden
in it. -/
theorem keeps_perform {step : RecordStep} (h : ∀ field, ¬ step.Writes field) :
    Keeps (fun host : HostRecord => (host.name, host.hidden)) step.perform := by
  cases step with
  | assign field value => exact absurd rfl (h field)
  | write field value => exact absurd rfl (h field)
  | requestDeletion =>
    apply HostRecord.keeps_replaced
    intro host after hafter
    obtain ⟨_, -, hmarked⟩ := exists_of_bind_ok hafter
    cases hmarked
    rfl
  | setError errorType message =>
    refine (keeps_ofExcept (ErrorType.ofValue errorType)).bind fun known => ?_
    exact (HostRecord.keeps_setError (fun _ _ _ _ => rfl) known message).bind fun _ =>
      keeps_pure _
  | update kind credential =>
    apply HostRecord.keeps_replaced
    intro host after hafter
    cases credential with
    | none =>
      obtain ⟨_, -, hnone⟩ := exists_of_bind_ok hafter
      cases hnone
    | some found =>
      obtain ⟨status, seen, -, -, rfl⟩ := HostRecord.exists_of_remember hafter
      rfl
  | compare | pending | roundTrip | describe => exact fun _ => rfl

theorem offered_perform {operation : Operation} {step : RecordStep}
    (h : ¬ step.Writes operation.name) :
    Preserves (fun host : HostRecord => operation ∉ host.hidden) step.perform := by
  cases step with
  | assign field value =>
    apply HostRecord.preserves_replaced
    exact fun host after hoffered hafter hhidden =>
      hoffered (HostRecord.mem_hidden_of_assigned hafter h hhidden)
  | write field value =>
    apply HostRecord.preserves_replaced
    exact fun host after hoffered hafter hhidden =>
      hoffered (HostRecord.mem_hidden_of_write hafter h hhidden)
  | _ =>
    refine (keeps_perform fun _ => id).preserves fun host after hkept hoffered => ?_
    exact (Prod.mk.inj hkept).2 ▸ hoffered

/-- What every access preserves is preserved by all of them together. -/
theorem preserves_performAll {property : HostRecord → Prop} {steps : List RecordStep}
    (h : ∀ step ∈ steps, Preserves property step.perform) :
    Preserves property (performAll steps) := by
  induction steps with
  | nil => exact preserves_pure ()
  | cons step rest ih =>
    exact (h step List.mem_cons_self).bind fun _ =>
      ih fun other hother => h other (List.mem_cons_of_mem step hother)

end RecordStep

namespace Reconciliation

open HostRecord

variable {property : HostRecord → Prop}

/-- A step that writes a value under a name, or has an action do so. -/
def Step.Writes (name : Text) : Step → Prop
  | script _ behaviours => ∃ behaviour ∈ behaviours, behaviour.Writes name
  | edit access => access.Writes name
  | _ => False

/-- A step that leaves a property of the record to a record that has it. Only accesses from
outside are asked for it, and the behaviours that are put in a row. -/
def Step.Upholds (property : HostRecord → Prop) : Step → Prop
  | script _ behaviours => ∀ behaviour ∈ behaviours, behaviour.Upholds property
  | edit access => Preserves property access.perform
  | _ => True

theorem Behaviour.upholds_marked (behaviour : Behaviour) :
    behaviour.Upholds (·.deletionRequested = true) :=
  RecordStep.preserves_performAll fun step _ => step.marked_perform

theorem Behaviour.upholds_offered {operation : Operation} {behaviour : Behaviour}
    (h : ¬ behaviour.Writes operation.name) : behaviour.Upholds (operation ∉ ·.hidden) :=
  RecordStep.preserves_performAll fun step hstep =>
    RecordStep.offered_perform fun hwrites => h ⟨step, hstep, hwrites⟩

theorem Step.upholds_marked (step : Step) : step.Upholds (·.deletionRequested = true) := by
  cases step with
  | script => exact fun behaviour _ => behaviour.upholds_marked
  | edit access => exact access.marked_perform
  | _ => trivial

theorem Step.upholds_offered {operation : Operation} {step : Step}
    (h : ¬ step.Writes operation.name) : step.Upholds (operation ∉ ·.hidden) := by
  cases step with
  | script => exact fun behaviour hmember =>
      Behaviour.upholds_offered fun hwrites => h ⟨behaviour, hmember, hwrites⟩
  | edit access => exact RecordStep.offered_perform h
  | _ => trivial

namespace Site

variable {kind : CredentialKind} {credential : Option Credential} {site : Site}

/-- A credential that cannot be remembered leaves everything as it is. -/
theorem runOn_remember_of_error {fault : Fault}
    (h : rememberGiven kind credential site.host = .error fault) :
    (remember kind credential).runOn site = (.error fault, site) := by
  have hupdate : (onHost (RecordStep.update kind credential).perform).runOn site =
      (.error fault, site) := by
    rw [onHost, runOn_within, RecordStep.perform, runOn_replaced]
    simp only [h]
  rw [remember, runOn_bind_error hupdate]

theorem keeps_remember (kind : CredentialKind) (credential : Option Credential) :
    Keeps setting (remember kind credential) := by
  cases credential with
  | none =>
    intro site
    cases hgiven : rememberGiven kind none site.host with
    | error fault => rw [runOn_remember_of_error hgiven]
    | ok after =>
      obtain ⟨_, -, hnone⟩ := exists_of_bind_ok hgiven
      cases hnone
  | some found => exact keeps_remember_setting kind found

end Site

section

variable (hguards : OfGuards property)
include hguards

/-- What decides about the course of a host shows the guarded fields and the actions. -/
theorem Site.Upholds.of_setting {site after : Site} (h : site.Upholds property) {fetches : Nat}
    (hsetting : after.setting = { site.setting with fetches := fetches }) :
    after.Upholds property := by
  have hmarker : after.host.deletionRequested = site.host.deletionRequested :=
    congrArg Setting.deletionRequested hsetting
  have hhidden : after.host.hidden = site.host.hidden := congrArg Setting.hidden hsetting
  have hactions : after.actions = site.actions := congrArg Setting.actions hsetting
  refine ⟨hguards.congr hmarker hhidden h.record, ?_⟩
  rw [Scripted, hactions]
  exact h.actions

theorem Site.upheld_of_keeps {α : Type} {action : Attempt Site α} (haction : Keeps setting action) :
    Preserves (Upholds property) action := by
  intro site h
  exact h.of_setting hguards (haction site)

theorem Pass.upheld_checkCredentials (service : Service) (logger : Text) {pass : Pass}
    (h : pass.site.Upholds property) :
    ((checkCredentials service logger).runOn pass).2.site.Upholds property := by
  by_cases hstate : pass.site.host.state = .deprovisioning
  · rw [runOn_checkCredentials_of_deprovisioning service logger pass hstate]
    exact h
  · exact h.of_setting hguards (gated_checkCredentials service logger pass hstate).setting_eq

namespace Machine

variable {machine : Machine}

theorem upheld_pass (h : machine.site.Upholds property) {step : Step} (hpass : step.IsPass) :
    (machine.after step).site.Upholds property := by
  obtain ⟨run, journal, -, hcourse, htick⟩ := exists_tick machine
  have hrun : run.2.site.Upholds property := by
    apply hcourse.holds (Site.Upholds property) h
    · exact fun found journal hfound => ⟨hfound.record, hfound.actions⟩
    · intro _ _
      have hstart : (Pass.of machine.site).site.Upholds property := h
      exact Pass.upheld_checkCredentials hguards machine.service machine.passName hstart
    · exact fun found _ hfound => hfound.acted _
  rw [after_pass_site hpass, htick]
  refine ⟨hguards.congr ?_ ?_ hrun.record, hrun.actions⟩ <;> rfl

theorem upheld_perform (part : Part) (service : Service) (logger : Text) {pass : Pass}
    (h : pass.site.Upholds property) :
    ((perform part service logger).runOn pass).2.site.Upholds property := by
  cases part with
  | divert =>
    rw [perform, runOn_bind]
    rcases Pass.runOn_divert pass with ⟨-, state, journal, -, hrun⟩ | ⟨-, hrun⟩ <;> rw [hrun]
    · exact ⟨h.record, h.actions⟩
    · exact h
  | checkCredentials =>
    have hlooked := Pass.upheld_checkCredentials hguards service logger h
    rw [perform, runOn_bind]
    generalize (Pass.checkCredentials service logger).runOn pass = run at hlooked ⊢
    rcases run with ⟨fault | outcome, behind⟩ <;> exact hlooked
  | handle =>
    have hhandled := Pass.upholds_handle logger h
    rw [perform, runOn_bind]
    generalize (Pass.handle logger).runOn pass = run at hhandled ⊢
    rcases run with ⟨fault | outcome, behind⟩ <;> exact hhandled

theorem upheld_onSite {α : Type} {action : Attempt Site α} (haction : Keeps Site.setting action) :
    Preserves (fun machine : Machine => machine.site.Upholds property) (onSite action) :=
  fun machine h => Site.upheld_of_keeps hguards haction machine.site h

/-- What is told from the guarded fields outlives every step that leaves it. -/
theorem upheld_after {step : Step} (hstep : step.Upholds property)
    (h : machine.site.Upholds property) : (machine.after step).site.Upholds property := by
  cases step with
  | tick => exact upheld_pass hguards h .tick
  | tickOnce => exact upheld_pass hguards h .tickOnce
  | attempt part next =>
    let pass : Pass := { Pass.of machine.site with next := next.getD machine.site.host.state }
    have hpass : pass.site.Upholds property := h
    exact upheld_perform hguards part machine.service (machine.logger.getD part.logger) hpass
  | script state behaviours => exact ⟨h.record, scripted_script h.actions state hstep⟩
  | offer change =>
    obtain ⟨source, hafter⟩ := after_offer machine change
    rw [hafter]
    exact ⟨h.record, h.actions⟩
  | judge | setVariables => exact ⟨h.record, h.actions⟩
  | require keys =>
    rw [site_require]
    exact h
  | validate kind credential =>
    have hvalidate : Preserves (fun machine : Machine => machine.site.Upholds property)
        (validate kind credential) := by
      refine (preserves_ofExcept (CredentialKind.ofValue kind)).bind fun kind => ?_
      exact fun machine => upheld_onSite hguards
        (Site.keeps_validate Site.unconcerned_setting machine.service kind credential) machine
    exact (hvalidate.bind fun _ => preserves_pure _) machine h
  | fail errorType message =>
    have hfail : Preserves (fun machine : Machine => machine.site.Upholds property)
        (fail errorType message) :=
      (preserves_ofExcept (ErrorType.ofValue errorType)).bind fun known =>
        upheld_onSite hguards (Site.keeps_recordFailure Site.unconcerned_setting known message)
    exact (hfail.bind fun _ => preserves_pure _) machine h
  | fetch =>
    have hfetch : Preserves (fun machine : Machine => machine.site.Upholds property)
        (onSite Site.fetch) := fun _ h => ⟨h.record, h.actions⟩
    exact (hfetch.bind fun _ => preserves_pure _) machine h
  | remember kind credential =>
    have hremember := upheld_onSite hguards (Site.keeps_remember kind credential)
    exact (hremember.bind fun _ => preserves_pure _) machine h
  | reload =>
    rcases after_reload machine with ⟨host, hreloaded, hafter⟩ | hafter <;> rw [hafter]
    · exact ⟨hguards.reloaded h.record hreloaded, h.actions⟩
    · exact h
  | edit access =>
    rw [after_edit]
    exact ⟨hstep machine.site.host h.record, h.actions⟩

theorem upheld_behind {steps : List Step} (hsteps : ∀ step ∈ steps, step.Upholds property)
    (h : machine.site.Upholds property) : (machine.behind steps).site.Upholds property := by
  induction steps generalizing machine with
  | nil => exact h
  | cons step rest ih =>
    have hfirst := upheld_after hguards (hsteps step List.mem_cons_self) h
    exact ih (fun other hother => hsteps other (List.mem_cons_of_mem step hother)) hfirst

end Machine

end

namespace Machine

/-- What is written to a record from outside. -/
def writing (machine : Machine) (field : Text) (value : Value) :
    Except Fault StepResult × Machine :=
  (Step.edit (.write field value)).perform.runOn machine

/-- A machine whose record is guarded. It shows a known state and a truth value; what is written
to its state is a known state, or it is refused; its mark can be set but not be taken back; and a
credential without data is not remembered. What is refused leaves everything as it was, and the
refusal shows the value, the name of the host or that of the credential, if it can be told. -/
structure Guarded (machine : Machine) : Prop where
  shown : ∀ document, machine.site.host.toDocument = .ok document →
    ∃ (fields : Fields Value) (state : State) (marker : Bool), document = .object fields ∧
      fields.get? "provisioning_state" = some (.str state.text) ∧
      fields.get? "deletion_requested" = some (.bool marker)
  state : ∀ value,
    (∃ state : State, value = .str state.text ∧
      machine.writing "provisioning_state" value =
        (.ok (.read .null), { machine with site := { machine.site with
          host := { machine.site.host with state := state } } })) ∨
    (∀ state : State, value ≠ .str state.text) ∧
      machine.writing "provisioning_state" value =
        (.error (.telling value (.invalid (.unlisted .state value))), machine)
  marker : ∀ value : Value,
    machine.writing "deletion_requested" value =
      if !value.isTruthy && machine.site.host.deletionRequested then
        (.error (.telling machine.site.host.name
          (.invalid (.deletionAlreadyRequested machine.site.host.name))), machine)
      else (.ok (.read .null), { machine with site := { machine.site with
        host := { machine.site.host with deletionRequested := value.isTruthy } } })
  update : ∀ kind (credential : Credential), credential.data.isTruthy = false →
    let fault : Fault := if machine.site.host.hidden.contains (.remember kind) then .wrongType
      else .telling credential.name (.lifecycle (.credentialStatus (.noData credential.name)))
    (Step.edit (.update kind (some credential))).perform.runOn machine = (.error fault, machine) ∧
    (Step.remember kind (some credential)).perform.runOn machine = (.error fault, machine)

/-- A step that leaves the fields of the record in their dictionary, as every action does that is
put in a row. -/
def KeepsFields (machine : Machine) (step : Step) : Prop :=
  machine.site.Scripted (¬ ·.Writes "__dict__") ∧ ¬ step.Writes "__dict__"

variable {machine : Machine}

theorem writing_eq (machine : Machine) (field : Text) (value : Value) :
    machine.writing field value =
      match machine.site.host.write field value with
      | .ok host =>
        (.ok (.read .null), { machine with site := { machine.site with host := host } })
      | .error fault => (.error fault, machine) := by
  rw [writing, Step.perform, runOn_bind, onSite, runOn_within, Site.onHost, runOn_within,
    RecordStep.perform, runOn_replaced]
  cases machine.site.host.write field value <;> rfl

/-- A credential without data is not remembered. -/
theorem rememberGiven_of_empty {host : HostRecord} {kind : CredentialKind}
    {credential : Credential} (h : credential.data.isTruthy = false) :
    rememberGiven kind (some credential) host =
      .error (if host.hidden.contains (.remember kind) then .wrongType
        else .telling credential.name
          (.lifecycle (.credentialStatus (.noData credential.name)))) := by
  have hnone : SecretStatus.ofCredential credential =
      .error (.telling credential.name
        (.lifecycle (.credentialStatus (.noData credential.name)))) := by
    rw [SecretStatus.ofCredential, h]
    rfl
  rw [rememberGiven, HostRecord.remember, hnone, offer]
  split <;> rfl

theorem guarded (machine : Machine) : machine.Guarded where
  shown document hdocument := by
    obtain ⟨errorType, rfl⟩ := exists_of_toDocument hdocument
    exact ⟨_, machine.site.host.state, machine.site.host.deletionRequested, rfl, rfl, rfl⟩
  state value := by
    rw [writing_eq, write_state]
    rcases State.ofValue_cases value with ⟨state, hvalue, hread⟩ | ⟨hunlisted, hread⟩ <;>
      rw [hread]
    · exact Or.inl ⟨state, hvalue, rfl⟩
    · exact Or.inr ⟨hunlisted, rfl⟩
  marker value := by
    rw [writing_eq, write_marker, markerOf]
    cases !value.isTruthy && machine.site.host.deletionRequested <;> rfl
  update kind credential h := by
    have hgiven := @rememberGiven_of_empty machine.site.host kind credential h
    constructor
    · rw [Step.perform, runOn_bind, onSite, runOn_within, Site.onHost, runOn_within,
        RecordStep.perform, runOn_replaced, hgiven]
    · rw [Step.perform, runOn_bind, onSite, runOn_within, Site.runOn_remember_of_error hgiven]

/-- However a host is driven, and whatever is written to its record, unless another dictionary is
put in the place of its fields: its state and its mark stay guarded, a mark that was set stays set,
and a credential without data is refused as one, unless a value was written in the place of the
operation that would remember it. -/
theorem guards_hold {start machine : Machine} {steps : List Step}
    (hrun : Run KeepsFields start steps machine) :
    machine.Guarded ∧
    (∀ before later, steps = before ++ later →
      (start.behind before).site.host.deletionRequested = true →
      machine.site.host.deletionRequested = true) ∧
    ∀ kind, .remember kind ∉ start.site.host.hidden →
      start.site.Scripted (¬ ·.Writes (Operation.remember kind).name) →
      (∀ step ∈ steps, ¬ step.Writes (Operation.remember kind).name) →
      ∀ credential : Credential, credential.data.isTruthy = false →
        (Step.edit (.update kind (some credential))).perform.runOn machine =
          (.error (.telling credential.name
            (.lifecycle (.credentialStatus (.noData credential.name)))), machine) := by
  have hbehind : machine = start.behind steps := hrun.eq_foldl
  refine ⟨guarded machine, ?_, ?_⟩
  · rintro before later rfl hmarked
    have hactions : ∀ site : Site, site.Scripted (Behaviour.Upholds (·.deletionRequested = true)) :=
      fun _ _ behaviour _ => behaviour.upholds_marked
    -- from where the mark is set, the rest of the run is a run of its own
    have hlater := upheld_behind ofGuards_marked (fun step (_ : step ∈ later) =>
      step.upholds_marked) ⟨hmarked, hactions (start.behind before).site⟩
    rw [hbehind, behind, List.foldl_append]
    exact hlater.record
  · intro kind hoffered hactions hsteps credential hempty
    have hupheld := upheld_behind (ofGuards_offered (.remember kind))
      (fun step hstep => Step.upholds_offered (hsteps step hstep))
      ⟨hoffered, fun state behaviour hmember =>
        Behaviour.upholds_offered (hactions state behaviour hmember)⟩
    rw [← hbehind] at hupheld
    have hunhidden : machine.site.host.hidden.contains (.remember kind) = false := by
      simpa using hupheld.record
    have hupdate := ((guarded machine).update kind credential hempty).1
    rw [hunhidden] at hupdate
    exact hupdate

/-- The machine of a new host, the plan by which its deletion is requested, a pass is made over it,
and it is put anew. -/
theorem guards_hold_requested :
    let start := fresh (HostRecord.new (.str "host"))
    let machine := ((start.after (.edit .requestDeletion)).after .tick).after .reload
    machine.site.host.deletionRequested = true ∧
    machine.writing "deletion_requested" .null =
      (.error (.telling machine.site.host.name
        (.invalid (.deletionAlreadyRequested machine.site.host.name))), machine) ∧
    (Step.edit (.update .os (some ⟨.str "key", .object []⟩))).perform.runOn machine =
      (.error (.lifecycle (.credentialStatus (.noData (.str "key")))), machine) := by
  intro start machine
  have hrun : Run KeepsFields start [.edit .requestDeletion, .tick, .reload] machine := by
    refine ((Run.nil.snoc _ ?_).snoc _ ?_).snoc _ ?_ <;> exact ⟨fun _ _ => nofun, id⟩
  obtain ⟨hguarded, hmarked, hupdate⟩ := guards_hold hrun
  have hrequested := hmarked [.edit .requestDeletion] [.tick, .reload] rfl rfl
  have hoffered : ∀ step ∈ [Step.edit .requestDeletion, .tick, .reload],
      ¬ step.Writes (Operation.remember .os).name := by
    intro step hstep
    simp only [List.mem_cons, List.not_mem_nil, or_false] at hstep
    rcases hstep with rfl | rfl | rfl <;> exact id
  have hempty := hupdate .os List.not_mem_nil (fun _ _ => nofun) hoffered
    ⟨.str "key", .object []⟩ rfl
  have hrefused := hguarded.marker .null
  rw [hrequested] at hrefused
  exact ⟨hrequested, hrefused, hempty⟩

/-- Lists that each hold the next one. -/
def nested : Nat → Value
  | 0 => .list []
  | depth + 1 => .list [nested depth]

theorem untoldAt_nested (levels : Nat) :
    Value.untoldAt levels (nested levels) = some (.tooDeep .told) := by
  induction levels with
  | zero => rfl
  | succ levels ih =>
    rw [nested, Value.untoldAt, Value.untoldItems, ih]
    rfl

/-- Once a value is written in the place of the operation that remembers a credential, one without
data is refused by that value, and a write that is refused raises something else than its refusal
where the value lies too deep. -/
theorem unguarded_writes :
    let host := HostRecord.new (.str "x")
    let machine := (fresh host).after (.edit (.write "update_os_ssh_status" (.int 1)))
    (Step.edit (.update .os (some ⟨.str "c", .object []⟩))).perform.runOn machine =
      (.error .wrongType, machine) ∧
    machine.writing "provisioning_state" (nested Json.maximalLevels) =
      (.error (.tooDeep .told), machine) := by
  intro host machine
  refine ⟨((guarded machine).update .os ⟨.str "c", .object []⟩ rfl).1, ?_⟩
  have hdeep : (nested Json.maximalLevels).untold? = some (.tooDeep .told) :=
    untoldAt_nested Json.maximalLevels
  rcases (guarded machine).state (nested Json.maximalLevels) with ⟨state, hvalue, -⟩ | ⟨-, hwrite⟩
  · cases hvalue
  · rw [hwrite, Fault.telling, hdeep]
    rfl

end Machine

end Reconciliation

end HostLifecycle
