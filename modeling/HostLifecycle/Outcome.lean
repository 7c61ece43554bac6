import HostLifecycle.Fault

/-!
The outcome of one step of a reconciliation: it completes, it asks for another
try after an optional delay, or it fails with a fault. An outcome carries a fault
if and only if it failed, and a delay only if it asks for another try.
-/

namespace HostLifecycle

inductive Outcome where
  | complete
  | retry (delay : Option Value)
  | failed (error : Fault)

namespace Outcome

/-- The outcome that asks for another try after a delay, where null is none. -/
def retryAfter (delay : Value) : Outcome :=
  match delay with
  | .null => retry none
  | delay => retry (some delay)

def failing (error : Option Fault) : Except Fault Outcome :=
  match error with
  | some e => .ok (failed e)
  | none => .error (.invalid .failedWithoutError)

/-- The outcome of a kind, with what it carries. A combination that no outcome has
is refused. -/
def build (kind : OutcomeKind) (error : Option Fault) (delay : Value) :
    Except Fault Outcome :=
  match kind, error, delay with
  | .failed, none, _ => .error (.invalid .failedWithoutError)
  | .failed, some e, .null => .ok (failed e)
  | .failed, some _, _ => .error (.invalid .delayNotAllowed)
  | kind, some _, _ => .error (.invalid (.errorNotAllowed kind))
  | .complete, none, .null => .ok complete
  | .complete, none, _ => .error (.invalid .delayNotAllowed)
  | .retry, none, delay => .ok (retryAfter delay)

def kind : Outcome → OutcomeKind
  | complete => .complete
  | retry _ => .retry
  | failed _ => .failed

def error? : Outcome → Option Fault
  | failed e => some e
  | _ => none

def delay? : Outcome → Option Value
  | retry delay => delay
  | _ => none

def isComplete : Outcome → Bool
  | complete => true
  | _ => false

def isRetry : Outcome → Bool
  | retry _ => true
  | _ => false

def isFailed : Outcome → Bool
  | failed _ => true
  | _ => false

/-- Whether the step failed in a way that no later try mends. -/
def isFatal : Outcome → Bool
  | failed e => e.isFatal
  | _ => false

def text : Outcome → Text
  | failed e => "failed: " ++ e.message
  | retry (some delay) => "continue (after " ++ delay.text ++ "s)"
  | outcome => outcome.kind.text

/-- An outcome never changes: every assignment to a field of one is refused. -/
def assign (_ : Outcome) (field : Text) : Except Fault Outcome :=
  .error (.frozen field)

end Outcome

end HostLifecycle
