import HostLifecycle.Value.Text

/-!
What a secret server may answer instead of a result, and what may go wrong on the
way to it.
-/

namespace HostLifecycle.Vault

inductive RefusalKind where
  | unspecified
  | invalidPath
  | forbidden
  | vaultDown
  | internalServerError
  | unauthorized
deriving DecidableEq, Repr

/-- A refusal by the server, or a failure to reach it. A refusal names the method
and the address of the request, where they are known. -/
inductive RemoteError where
  | refused (kind : RefusalKind) (message : Text) (method url : Value)
  | connection (message : Text)
  | timeout (message : Text)

namespace RemoteError

/-- Whether the server said that nothing is stored at the path. -/
def isInvalidPath : RemoteError → Bool
  | refused .invalidPath _ _ _ => true
  | _ => false

def message : RemoteError → Text
  | refused _ message method url =>
    message ++ ", on " ++ method.text ++ " " ++ url.text
  | connection message => message
  | timeout message => message

end RemoteError

end HostLifecycle.Vault
