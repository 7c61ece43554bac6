import HostLifecycle.Audit.Recorder
import HostLifecycle.Outcome
import HostLifecycle.Record.Edit
import HostLifecycle.Reconciliation.Source

/-!
Everything around a host that a pass over it reads and changes: its record, the
audit trail, the source of its credentials, and the actions of its provider. An
action is known only by what it does to the record and how it ends, so nothing is
assumed of a provider.
-/

namespace HostLifecycle.Reconciliation

open Audit Logging Settings

/-- What an action does when it is called: it accesses the record, and then it ends
with an outcome or a fault. -/
structure Behaviour where
  effects : List RecordStep
  ending : Except Fault Outcome

def Behaviour.idle : Behaviour := ⟨[], .ok .complete⟩

/-- The first of the behaviours that stand in a row, and those that are left. The
last one is never used up. -/
def Behaviour.taken : List Behaviour → Behaviour × List Behaviour
  | [] => (idle, [])
  | [last] => (last, [last])
  | first :: rest => (first, rest)

/-- What surrounds a host. The behaviours of the action of each state stand in a
row, and the calls are the states whose actions were called. -/
structure Site where
  host : HostRecord
  trail : Trail
  source : Source
  environment : Environment
  actions : State → List Behaviour
  calls : List State
  fetches : Nat

/-- What a provider asks of a credential: the data keys that it has to carry, in the
order name, public key, private key, and a judgement of its own for either kind
that stands in place of the usual one. -/
structure Service where
  requiredKeys : List Value
  judgement : CredentialKind → Option (Except Fault Outcome)

namespace Site

def onHost {α : Type} (action : Attempt HostRecord α) : Attempt Site α :=
  Attempt.within (·.host) (fun host site => { site with host := host }) action

def onTrail {α : Type} (action : Attempt Trail α) : Attempt Site α :=
  Attempt.within (·.trail) (fun trail site => { site with trail := trail }) action

def journal (site : Site) : List LogEntry := site.trail.around.journal

def access (site : Site) : Source.Access := ⟨site.source, site.journal⟩

def takeBack (access : Source.Access) (site : Site) : Site :=
  { site with
    source := access.source
    trail := { site.trail with
      around := { site.trail.around with journal := access.journal } } }

/-- Notes that the credentials are asked for. -/
def noteFetch : Attempt Site Unit := fun site =>
  (.ok (), { site with fetches := site.fetches + 1 })

def fetch : Attempt Site (Option Credential × Option Credential) := do
  noteFetch
  Attempt.within access takeBack (Source.fetch (← get).environment)

/-- A message about the host, whose name is taken to be one that can be told. -/
def about (site : Site) (message : Text) : Text :=
  "[" ++ site.host.name.text ++ "] " ++ message

def log (logger : Text) (severity : Severity) (message : Text)
    (extras : Fields Value) : Attempt Site Unit := do
  onTrail (Trail.enter ⟨logger, severity, (← get).about message, extras⟩)

/-- Records an event about the host that calls for attention. -/
def warn (reason : Text) (message : Value) : Attempt Site Unit := do
  let _ ← onTrail (Trail.record (← get).host.name (.str reason) message
    (.str Trail.warningClass))

/-- Notes that the action of a state is called, and takes its next behaviour. -/
def takeAction (state : State) : Attempt Site Behaviour := fun site =>
  let (behaviour, rest) := Behaviour.taken (site.actions state)
  (.ok behaviour, { site with
    calls := site.calls ++ [state]
    actions := fun other => if other = state then rest else site.actions other })

def act (state : State) : Attempt Site Outcome := do
  let behaviour ← takeAction state
  onHost (RecordStep.performAll behaviour.effects)
  Attempt.ofExcept behaviour.ending

end Site

end HostLifecycle.Reconciliation
