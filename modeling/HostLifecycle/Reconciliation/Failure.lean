import HostLifecycle.Reconciliation.Site

/-!
Terminal failures. A terminal failure is kept on the record of the host, told in the
audit trail and in the journal, and given to the caller as the outcome.
-/

namespace HostLifecycle.Reconciliation

/-- The name under which the handling of credentials and failures is logged. -/
def serviceLogger : Text := "baremetal.host.service"

def Site.recordFailure (errorType : ErrorType) (message : Value) :
    Attempt Site Outcome := do
  onHost (HostRecord.setError errorType message)
  warn errorType.reason message
  log serviceLogger .error (errorType.text ++ ": " ++ message.text)
    [("host", (← get).host.name), ("error_type", .str errorType.text)]
  pure (.failed (.lifecycle (.terminal errorType message)))

end HostLifecycle.Reconciliation
