import HostLifecycle.Proofs.Record.Restored

/-!
Accesses to records that are alike. What an access is given in one of them is given in disguise
in the other one, and then the accesses answer the same and leave the records alike.
-/

namespace HostLifecycle

open Attempt

variable {disguise : Disguise}

namespace HostRecord

variable {host host' : HostRecord}

/-- Putting a record in the place of each of two is the same, if the two in their places are
alike. -/
theorem twin_replaced {change change' : HostRecord → Except Fault HostRecord}
    (hchange : ∀ host host', Alike disguise host host' →
      Paired (Alike disguise) (change host) (change' host')) :
    Twin (Alike disguise) Eq (replaced change) (replaced change') := by
  intro host host' h
  have hchanged := hchange host host' h
  rw [runOn_replaced, runOn_replaced]
  generalize change host = result at hchanged ⊢
  generalize change' host' = result' at hchanged ⊢
  cases hchanged with
  | error fault => exact ⟨.error fault, h⟩
  | ok halike => exact ⟨.ok rfl, halike⟩

theorem twin_setError (errorType : ErrorType) (message : Value) :
    Twin (Alike disguise) Eq (setError errorType message) (setError errorType message) := by
  rintro host _ ⟨status, hstatus, rfl⟩
  have hoffer : HostRecord.offer .setError { host with sshStatus := status } =
      host.offer .setError := rfl
  simp only [runOn, setError, ExceptT.run, hoffer]
  cases host.offer .setError with
  | error fault => exact ⟨.error fault, status, hstatus, rfl⟩
  | ok _ =>
    cases increased host.errorCount with
    | error fault => exact ⟨.error fault, status, hstatus, rfl⟩
    | ok count => exact ⟨.ok rfl, status, hstatus, rfl⟩

end HostRecord

namespace Disguise

variable (disguise : Disguise)

/-- The access in place of an access to a record: what it is given is in disguise. -/
def step : RecordStep → RecordStep
  | .update kind found => .update kind (found.map disguise.credential)
  | .compare kind found => .compare kind (found.map disguise.credential)
  | step => step

def CoversStep : RecordStep → Prop
  | .update _ found => disguise.CoversFound found
  | .compare _ found => disguise.CoversFound found
  | _ => True

end Disguise

namespace RecordStep

variable {step : RecordStep}

/-- An access that is covered answers the same in disguise, and leaves records that are alike.
Only the description of a record shows the digests in it. -/
theorem twin_perform (h : disguise.CoversStep step) (hshown : step ≠ .describe) :
    Twin (HostRecord.Alike disguise) Eq step.perform (disguise.step step).perform := by
  cases step with
  | assign field value =>
    apply HostRecord.twin_replaced
    intro host host' halike
    exact halike.assigned field value
  | write field value =>
    apply HostRecord.twin_replaced
    intro host host' halike
    exact halike.write field value
  | requestDeletion =>
    apply HostRecord.twin_replaced
    rintro host _ ⟨status, hstatus, rfl⟩
    apply paired_bind (host.offer .requestDeletion)
    intro _
    exact .ok ⟨status, hstatus, rfl⟩
  | setError errorType message =>
    apply (twin_ofExcept (paired_eq (ErrorType.ofValue errorType))).then
    intro known
    apply (HostRecord.twin_setError known message).then
    intro _
    exact twin_pure rfl
  | update kind found =>
    apply HostRecord.twin_replaced
    intro host host' halike
    exact halike.rememberGiven kind h
  | compare kind found => exact fun host host' halike => ⟨halike.compared kind h, halike⟩
  | pending =>
    rintro host _ ⟨status, hstatus, rfl⟩
    exact ⟨.ok rfl, status, hstatus, rfl⟩
  | roundTrip =>
    intro host host' halike
    refine ⟨?_, halike⟩
    rcases halike.known_or_eq with ⟨status, hknown⟩ | rfl
    · apply (halike.reloaded hknown).map
      intro other other' hother
      rw [hother.equal halike]
    · exact paired_eq _
  | describe => exact absurd rfl hshown

/-- Whatever it answers, an access that is covered leaves records that are alike. -/
theorem twin_effect (h : disguise.CoversStep step) :
    Twin (HostRecord.Alike disguise) (fun _ _ => True) step.perform
      (disguise.step step).perform := by
  by_cases hshown : step = .describe
  · subst hshown
    exact fun _ _ halike => ⟨.ok trivial, halike⟩
  · exact (twin_perform h hshown).imp fun _ _ _ => trivial

theorem twin_performAll {steps : List RecordStep} (h : ∀ step ∈ steps, disguise.CoversStep step) :
    Twin (HostRecord.Alike disguise) Eq (performAll steps)
      (performAll (steps.map disguise.step)) := by
  induction steps with
  | nil => exact twin_pure rfl
  | cons step rest ih =>
    apply (twin_effect (h step List.mem_cons_self)).bind
    intro _ _ _
    exact ih fun other hother => h other (List.mem_cons_of_mem step hother)

end RecordStep

end HostLifecycle
