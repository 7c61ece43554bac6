import HostLifecycle.Audit.Redaction
import HostLifecycle.Clock.Timestamp
import HostLifecycle.Json.Printer
import HostLifecycle.Json.Reader
import HostLifecycle.Logging.Journal
import HostLifecycle.Storage.Disk
import HostLifecycle.Text.Lines
import HostLifecycle.Value.Mapping

/-!
The audit trail: a recorder keeps the latest events of all hosts, up to a bound,
and writes them to a file if it has one. The file is read once, before the first
event is recorded or asked for, and a file that is not understood starts a new
trail. Writing goes through a second file that takes the place of the first one,
so a failure leaves the stored trail as it was.
-/

namespace HostLifecycle.Audit

open Logging Storage

/-- The points in time at which events happen: the entries of a list, again and
again. -/
structure Clock where
  entries : List Int
  used : Nat
deriving Inhabited

def Clock.still : Clock := ⟨[0], 0⟩

structure Surroundings where
  disk : Disk
  clock : Clock
  journal : List LogEntry

structure Recorder where
  logFile : Option Path
  capacity : Option Nat
  redacts : Bool
  events : List Value
  loaded : Bool

structure Trail where
  recorder : Recorder
  around : Surroundings

def loggerName : Text := "baremetal.events"

def lastOf {α : Type} (capacity : Option Nat) (entries : List α) : List α :=
  match capacity with
  | some capacity => entries.drop (entries.length - capacity)
  | none => entries

/-- The bound for a recorder that a value describes; null is none. -/
def capacityOf (value : Value) : Except Fault (Option Nat) :=
  match value with
  | .null => .ok none
  | value =>
    match value.asInt? with
    | none => .error .wrongType
    | some n =>
      if n ≥ 9223372036854775808 ∨ n < -9223372036854775808 then .error .overflow
      else if n < 0 then .error (.invalid .negativeCapacity)
      else .ok (some n.toNat)

/-- The file of a recorder that a value describes; an empty value is none. -/
def logFileOf (value : Value) : Except Fault (Option Path) :=
  if !value.isTruthy then .ok none
  else
    match value with
    | .str text => .ok (some (Path.ofText text))
    | _ => .error .wrongType

/-- The bound that a recorder has unless another one is given. -/
def defaultCapacity : Nat := 500

namespace Recorder

def new (logFile : Option Path) (capacity : Option Nat) (redacts : Bool) : Recorder :=
  ⟨logFile, capacity, redacts, [], false⟩

def ofArguments (arguments : Value) : Except Fault Recorder := do
  let fields ← arguments.arguments ["log_file", "max_events", "redaction_enabled"]
  let logFile ← logFileOf ((fields.get? "log_file").getD .null)
  let capacity ← capacityOf ((fields.get? "max_events").getD (.int defaultCapacity))
  let redacts := ((fields.get? "redaction_enabled").getD (.bool true)).isTruthy
  pure (new logFile capacity redacts)

end Recorder

/-- The events that the last part of a loaded value gives, no more than a bound.
A text gives its characters; without a bound nothing is taken. -/
def eventsOf (capacity : Option Nat) (loaded : Value) : Except Fault (List Value) :=
  match capacity, loaded with
  | none, _ => .error .wrongType
  | some _, .list items => .ok (lastOf capacity items)
  | some _, .str text =>
    .ok (lastOf capacity (text.map fun c => .str [c]))
  | some _, _ => .error .wrongType

/-- What reading a file of events comes to: events, a fault that is passed on, or a
failure that is only told. -/
inductive Loading where
  | events (events : List Value)
  | fault (fault : Fault)
  | failure (message : Text)

def loadFrom (disk : Disk) (path : Path) (capacity : Option Nat) : Loading :=
  match disk.read path with
  | .error (.file e) => .failure e.message
  | .error fault => .fault fault
  | .ok content =>
    match Text.ofBytes? content with
    | none => .fault .undecodable
    | some text =>
      match Json.read text with
      | .error (.tooManyDigits count) => .fault (.invalid (.tooManyDigits count))
      | .error (.tooDeep container) => .fault (.tooDeep container)
      | .error refusal => .failure (refusal.message text)
      | .ok loaded =>
        match eventsOf capacity loaded with
        | .ok events => .events events
        | .error fault => .fault fault

namespace Trail

def enter (entry : LogEntry) : Attempt Trail Unit :=
  fun trail =>
    (.ok (), { trail with
      around := { trail.around with journal := trail.around.journal ++ [entry] } })

def log (severity : Severity) (message : Text) (extras : Fields Value) :
    Attempt Trail Unit :=
  enter ⟨loggerName, severity, message, extras⟩

def keep (events : List Value) : Attempt Trail Unit :=
  fun trail => (.ok (), { trail with recorder := { trail.recorder with events := events } })

def markLoaded : Attempt Trail Unit :=
  fun trail => (.ok (), { trail with recorder := { trail.recorder with loaded := true } })

def takeIn (path : Path) : Loading → Attempt Trail Unit
  | .events events => keep events
  | .fault fault => Attempt.fail fault
  | .failure message => do
    log .warning ("Failed to load event log " ++ path.text ++ ": " ++ message) []
    keep []

/-- Reads the events from a file, if there is such a file. -/
def loadFile (path : Path) : Attempt Trail Unit := do
  let trail ← get
  let present ← Attempt.ofExcept (trail.around.disk.holds path)
  if present then takeIn path (loadFrom trail.around.disk path trail.recorder.capacity)

/-- Reads the file of the recorder, the first time that this is asked for. -/
def load : Attempt Trail Unit := do
  let recorder := (← get).recorder
  if !recorder.loaded then
    markLoaded
    match recorder.logFile with
    | some path => loadFile path
    | none => pure ()

def onDisk {α : Type} (action : Attempt Disk α) : Attempt Trail α :=
  Attempt.within (·.around.disk)
    (fun disk trail => { trail with around := { trail.around with disk := disk } }) action

def replaceFile (path : Path) (text : String) : Attempt Disk Unit := do
  Disk.makeParents path
  match path.withExtension? ".tmp" with
  | none => Attempt.fail (.invalid (.emptyFileName path.text))
  | some second =>
    Disk.write second text.toUTF8
    Disk.replace second path

/-- Writes the events to a file. A failure of the file system is only told. -/
def saveFile (path : Path) (events : List Value) : Attempt Trail Unit := do
  let result ← (onDisk (replaceFile path (Json.write .indented (.list events)))).settled
  match result with
  | .error (.file e) => log .error ("Failed to save event log: " ++ e.message) []
  | result => Attempt.ofExcept result

/-- Writes the events to the file of the recorder, if it has one. -/
def save : Attempt Trail Unit := do
  let recorder := (← get).recorder
  match recorder.logFile with
  | some path => saveFile path recorder.events
  | none => pure ()

/-- The point in time at which the next event happens. -/
def now : Attempt Trail Int := fun trail =>
  let clock := trail.around.clock
  let entry := clock.entries.getD (clock.used % clock.entries.length) 0
  (.ok entry, { trail with
    around := { trail.around with clock := { clock with used := clock.used + 1 } } })

def warningClass : Text := "Warning"

def append (event : Value) : Attempt Trail Unit := do
  let recorder := (← get).recorder
  keep (lastOf recorder.capacity (recorder.events ++ [event]))

def record (host reason message eventClass : Value) : Attempt Trail Value := do
  let micros ← now
  let shown ← Attempt.ofExcept (redactMessage (← get).recorder.redacts message)
  let event := Value.object
    [("timestamp", .str (Clock.timestamp micros)), ("host", host),
     ("type", eventClass), ("reason", reason), ("message", shown)]
  load
  append event
  save
  let severity := if eventClass == .str warningClass then Severity.warning else .info
  log severity ("[" ++ host.text ++ "] " ++ reason.text ++ ": " ++ shown.text)
    [("host", host), ("reason", reason)]
  pure event

/-- The events whose field has a value; an empty value is any. An event without
fields cannot be asked. -/
def having (name : Text) (value : Value) : List Value → Except Fault (List Value)
  | [] => .ok []
  | .object fields :: rest => do
    let others ← having name value rest
    if ((Fields.get? fields name).getD .null) == value then
      pure (.object fields :: others)
    else pure others
  | _ :: _ => .error .noMember

def filtered (name : Text) (value : Value) (events : List Value) :
    Except Fault (List Value) :=
  if value.isTruthy then having name value events else .ok events

/-- The part of a list that a limit selects: the last entries, as many as it says.
A limit of zero selects all, and a negative one all but the first entries. -/
def selected (limit : Int) (events : List Value) : List Value :=
  if limit > 0 then events.drop (events.length - limit.toNat)
  else events.drop limit.natAbs

def defaultLimit : Int := 50

/-- The latest events of a host and for a reason, the newest first. -/
def query (limit host reason : Value) : Attempt Trail (List Value) := do
  load
  let events := (← get).recorder.events
  let events ← Attempt.ofExcept (filtered "host" host events)
  let events ← Attempt.ofExcept (filtered "reason" reason events)
  match limit.asInt? with
  | some limit => pure (selected limit events).reverse
  | none => Attempt.fail .wrongType

def clear : Attempt Trail Unit := do
  keep []
  save

end Trail

end HostLifecycle.Audit
