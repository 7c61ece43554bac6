import HostLifecycle.Attempt
import HostLifecycle.Logging.Journal

/-!
A server of secrets, seen from a client: what it answers to each call, and the
calls that were made to it. The answers may change from call to call, so each of
them is given the number of calls that came before.
-/

namespace HostLifecycle.Vault

open Logging

inductive Call where
  | connect (addr : Text) (space : Option Text)
  | login (roleId secretId : Text)
  | check (token : Option Text)
  | read (path : Value) (mountPath : Text)

structure Server where
  login : Nat → Except Fault Unit
  check : Nat → Except Fault Value
  read : Nat → Value → Except Fault Value

/-- A server without secrets, which lets everyone in. -/
def Server.empty : Server where
  login := fun _ => .ok ()
  check := fun _ => .ok (.bool true)
  read := fun _ _ => .error (.remote (.refused .invalidPath "" .null .null))

/-- What lies between a client and a server: whether the client is let in, the calls
that were made, and the journal. -/
structure Session where
  server : Server
  isOpen : Bool
  calls : List Call
  journal : List LogEntry

namespace Session

def start (server : Server) : Session := ⟨server, false, [], []⟩

def ask {α : Type} (call : Call) (answer : Server → Nat → Except Fault α) :
    Attempt Session α :=
  fun session =>
    (answer session.server session.calls.length,
      { session with calls := session.calls ++ [call] })

def letIn : Attempt Session Unit :=
  fun session => (.ok (), { session with isOpen := true })

def log (entry : LogEntry) : Attempt Session Unit :=
  fun session => (.ok (), { session with journal := session.journal ++ [entry] })

end Session

end HostLifecycle.Vault
