import HostLifecycle.Value.Telling

/-!
Reading a choice from a value. A value that is not the written form of a choice is
refused, and the refusal shows it.
-/

namespace HostLifecycle

def State.ofValue (given : Value) : Except Fault State :=
  match given.asStr?.bind State.ofText? with
  | some state => .ok state
  | .none => .error (.telling given (.invalid (.unlisted .state given)))

def ErrorType.ofValue (given : Value) : Except Fault ErrorType :=
  match given.asStr?.bind ErrorType.ofText? with
  | some errorType => .ok errorType
  | none => .error (.telling given (.invalid (.unlisted .errorType given)))

def OutcomeKind.ofValue (given : Value) : Except Fault OutcomeKind :=
  match given.asStr?.bind OutcomeKind.ofText? with
  | some kind => .ok kind
  | none => .error (.telling given (.invalid (.unlisted .outcomeKind given)))

/-- Which of the two credentials of a host is meant: that of its operating system
or that of its rescue system. -/
inductive CredentialKind where
  | os
  | rescue
deriving DecidableEq, Repr, Inhabited

def CredentialKind.text : CredentialKind → Text
  | os => "os"
  | rescue => "rescue"

def CredentialKind.ofText? (text : Text) : Option CredentialKind :=
  [os, rescue].find? fun kind => kind.text == text

def CredentialKind.ofValue (given : Value) : Except Fault CredentialKind :=
  match given.asStr?.bind CredentialKind.ofText? with
  | some kind => .ok kind
  | none => .error (.telling given (.invalid (.unlisted .credentialKind given)))

end HostLifecycle
