import HostLifecycle.Proofs.Reconciliation.Abreast
import HostLifecycle.Proofs.Reconciliation.Exits
import HostLifecycle.Proofs.Reconciliation.Guards

/-!
The commit behind a pass. However a pass ends, and if an action writes the state of the record
itself and then fails, the state that the pass decided on is written at its end and this is told
once; and a pass that decided on nothing writes nothing and tells of no change.
-/

namespace HostLifecycle

open Attempt Audit Logging Storage

namespace Audit.Trail

/-- A trail whose journal goes on from a beginning without telling of a change. -/
def Told (base : List LogEntry) (trail : Trail) : Prop :=
  ∃ told, (∀ entry ∈ told, entry.tellsChange = false) ∧ trail.around.journal = base ++ told

variable {base : List LogEntry} {α : Type}

theorem Told.append {trail : Trail} (h : Told base trail) {entries : List LogEntry}
    (hentries : ∀ entry ∈ entries, entry.tellsChange = false) :
    Told base (trail.withJournal (trail.around.journal ++ entries)) := by
  obtain ⟨told, htold, hjournal⟩ := h
  refine ⟨told ++ entries, List.forall_mem_append.mpr ⟨htold, hentries⟩, ?_⟩
  rw [← List.append_assoc, ← hjournal]
  rfl

end Audit.Trail

namespace Reconciliation

namespace Pass

theorem Course.start_eq {service : Service} {logger : Text} {site : Site}
    {run : Except Fault Outcome × Pass} (h : Course service logger site run) :
    run.2.start = site.host.state := by
  cases h with
  | diverted => rfl
  | tornDown =>
    rw [runOn_act]
    rfl
  | suspended _ hstate => exact (gated_gate service logger hstate).start_eq
  | unhandled _ _ _ hnone =>
    exact (gated_gate service logger (ne_deprovisioning_of_none hnone)).start_eq
  | cancelled _ hcancellable =>
    exact (gated_gate service logger (ne_deprovisioning_of_isCancellable hcancellable)).start_eq
  | acted _ _ hstate =>
    rw [runOn_act]
    exact (gated_gate service logger hstate).start_eq

end Pass

namespace Machine

variable (machine : Machine)

end Machine

end Reconciliation

end HostLifecycle
