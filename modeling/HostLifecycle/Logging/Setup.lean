import HostLifecycle.Logging.Line
import HostLifecycle.Settings.Group
import HostLifecycle.Storage.Disk

/-!
Where log records go. The settings put two families of loggers in order: both have the
same level and the same handlers, one for the console and, if a file is named, one that
writes JSON lines behind the content of that file. A handler leaves out records below
its own level.
-/

namespace HostLifecycle.Logging

open Settings Storage

/-- The loggers that the settings put in order, each with all loggers below it. -/
def configuredLoggers : List Text := ["baremetal", "config"]

def handlerLevel : Int := 10

inductive Target where
  | console
  | file (path : Path)
deriving DecidableEq, Repr

/-- A handler: where it writes, and how a record is written there. -/
structure Handler where
  target : Target
  format : LineFormat
deriving DecidableEq, Repr

structure Setup where
  level : Int
  handlers : List Handler
deriving DecidableEq, Repr

/-- What was written to the console, and the disk. -/
structure Output where
  console : Text
  disk : Disk

def LogRecord.written (format : LineFormat) (record : LogRecord) : Except Fault Text :=
  match format with
  | .json => record.jsonLine
  | .text => record.textLine

namespace Handler

def write (handler : Handler) (line : Text) : Attempt Output Unit :=
  match handler.target with
  | .console => fun output => (.ok (), { output with console := output.console ++ line })
  | .file path =>
    match line.string? with
    | some line =>
      Attempt.within (·.disk) (fun disk output => { output with disk := disk })
        (Disk.append path line.toUTF8)
    | none => Attempt.fail .unencodable

def writeRecord (record : LogRecord) (handler : Handler) : Attempt Output Unit := do
  let line ← Attempt.ofExcept (record.written handler.format)
  handler.write (line ++ "\n")

/-- Writes a record. One that cannot be written is left out. -/
def handle (record : LogRecord) (handler : Handler) : Attempt Output Unit := do
  let _ ← (handler.writeRecord record).settled

def handleAll (record : LogRecord) : List Handler → Attempt Output Unit
  | [] => pure ()
  | handler :: rest => do
    handler.handle record
    handleAll record rest

end Handler

namespace Setup

/-- The fault of opening a file, which names its path from the root. -/
def rooted (home : Text) (path : Path) {α : Type} (result : Except Fault α) :
    Except Fault α :=
  match result with
  | .error (.file e) => .error (.file { e with path := some (path.fromRoot home) })
  | result => result

/-- Opens the file of a handler, without changing what it holds. -/
def openLog (home : Text) (path : Path) : Attempt Disk Handler := do
  let result ← (Disk.openFile true path).settled
  let _ ← Attempt.ofExcept (rooted home path result)
  pure ⟨.file path, .json⟩

def handlersOf (home : Text) (settings : LogSettings) : Attempt Disk (List Handler) := do
  let console : Handler := ⟨.console, settings.format⟩
  if settings.file == "" then pure [console]
  else
    let file ← openLog home (Path.ofText settings.file).direct
    pure [console, file]

/-- Sets up logging as settings say. The working folder is reached by a given path. -/
def ofSettings (home : Text) (settings : LogSettings) : Attempt Disk Setup := do
  let handlers ← handlersOf home settings
  let level ← Attempt.ofExcept (levelNamed settings.level)
  pure ⟨level, handlers⟩

def covers (logger : Text) : Bool :=
  configuredLoggers.any fun name =>
    logger == name || (name ++ ".").isPrefixOf logger

/-- The least level of the records that a logger takes. Where the settings name none,
as for all other loggers, it is one. -/
def threshold (setup : Setup) (logger : Text) : Int :=
  if covers logger && setup.level ≠ 0 then setup.level else 1

def takes (setup : Setup) (logger : Text) (level : Value) : Except Fault Bool :=
  reaches (setup.threshold logger) level

def handlersFor (setup : Setup) (logger : Text) (level : Value) :
    Except Fault (List Handler) :=
  (reaches handlerLevel level).map fun isReached =>
    if covers logger && isReached then setup.handlers else []

/-- The names that a record has of its own, and that no value beside its message may
have. -/
def ownNames : List Text :=
  ["name", "msg", "args", "levelname", "levelno", "pathname", "filename", "module",
   "exc_info", "exc_text", "stack_info", "lineno", "funcName", "created", "msecs",
   "relativeCreated", "thread", "threadName", "processName", "process", "message",
   "asctime"]

/-- The record with values beside its message, none of which may have a name of its
own. -/
def besideOwn (extras : Fields Value) (record : LogRecord) : Except Fault LogRecord :=
  if extras.any fun entry => ownNames.contains entry.1 then .error .noKey
  else .ok (record.beside extras)

def madeBeside (extras : Fields Value) (record : LogRecord) : Except Fault LogRecord := do
  checkTime record.created
  besideOwn extras record

/-- Sends a record through a logger, and tells whether it takes records of the level.
A message into which its arguments cannot be filled is refused. -/
def emit (setup : Setup) (logger : Text) (level : Value)
    (record : Except Fault LogRecord) (extras : Fields Value) : Attempt Output Bool := do
  if ← Attempt.ofExcept (setup.takes logger level) then
    let record ← Attempt.ofExcept (record >>= madeBeside extras)
    let _ ← Attempt.ofExcept record.fullMessage
    let handlers ← Attempt.ofExcept (setup.handlersFor logger level)
    Handler.handleAll record handlers
    pure true
  else pure false

end Setup

end HostLifecycle.Logging
