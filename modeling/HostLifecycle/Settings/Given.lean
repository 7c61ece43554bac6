import HostLifecycle.Attempt
import HostLifecycle.Settings.Arguments
import HostLifecycle.Settings.EnvFile
import HostLifecycle.Storage.Disk
import HostLifecycle.Storage.Home

/-!
What is given for the settings of a group: what a command line tells, arguments, under
any spelling of the names of the settings, and behind them variables, whose names have a
beginning that belongs to the group. Variables are those of the process, then those of
files, then the files of folders of secrets, each named as a variable.
-/

namespace HostLifecycle.Settings

open Logging Storage

/-- What settings are read from: the variables of the process, and the disk. -/
structure Sources where
  environment : Environment
  disk : Disk

/-- The reading of settings, which writes to a journal. -/
abbrev Reading := Attempt (List LogEntry)

/-- What is given for the settings of a group: what a command line tells, arguments, and
what the sources behind them tell of the settings, the first of which counts most. -/
structure Given where
  commanded : Fields Value
  arguments : Fields Value
  layers : List (Fields Value)

def Given.value? (given : Given) (name : Text) : Option Value :=
  match (given.commanded.get? name).or (Environment.firstOf? false given.arguments name) with
  | some value => some value
  | none => given.layers.findSome? fun layer => layer.get? name

/-- The path that a value names, which may start at a home folder. -/
def pathOf (sources : Sources) (value : Value) : Except Fault Path :=
  match value with
  | .str text => (Path.ofText text).fromHome (sources.environment.home?)
  | _ => .error .wrongType

def fileText (encoding : Except Fault Text.Encoding) (content : ByteArray) :
    Except Fault String := do
  let encoding ← encoding
  match encoding.read content with
  | .ok text => pure text
  | .error .undecodable => .error .undecodable
  | .error .unmarked => .error .unmarked

/-- The variables in the text of a file, and what is told of it. -/
def textBindings (sources : Sources) (text : String) : Reading (Fields (Option Text)) :=
  fun journal =>
    (.ok (EnvFile.bindings sources.environment text), journal ++ EnvFile.warnings text)

/-- The variables of a file. Where there is no file there are no variables. -/
def fileBindings (encoding : Except Fault Text.Encoding) (sources : Sources) (path : Path) :
    Reading (Fields (Option Text)) := do
  match ← Attempt.ofExcept (sources.disk.entry? path) with
  | some (.file content) =>
    let text ← Attempt.ofExcept (fileText encoding content)
    textBindings sources text
  | _ => pure []

/-- The variables of the files that values name, one behind the other. -/
def allBindings (encoding : Except Fault Text.Encoding) (sources : Sources) :
    List Value → Reading (Fields (Option Text))
  | [] => pure []
  | value :: rest => do
    let path ← Attempt.ofExcept (pathOf sources value)
    let first ← fileBindings encoding sources path
    let others ← allBindings encoding sources rest
    pure (first ++ others)

abbrev Secrets := Fields ByteArray

/-- The files of folders of secrets. What is not there is left out, but all that is
there have to be folders. -/
def secretsIn (disk : Disk) : List (Path × Option Entry) → Except Fault Secrets
  | [] => .ok []
  | (_, none) :: rest => secretsIn disk rest
  | (path, some .folder) :: rest =>
    (secretsIn disk rest).map fun others => disk.filesIn path ++ others
  | (_, some (.file _)) :: _ => .error .secretsNoFolder

def secretsOf (sources : Sources) (values : List Value) : Except Fault Secrets := do
  let paths ← values.mapM (pathOf sources)
  let entries ← paths.mapM fun path =>
    (sources.disk.entry? path).map fun entry => (path, entry)
  secretsIn sources.disk entries

/-- What secrets tell of settings. The content of a file counts without the white space
around it. -/
def findSecrets (naming : Naming) (secrets : Secrets) :
    List Text → Except Fault (Fields Value)
  | [] => .ok []
  | name :: rest =>
    match Environment.lastOf? naming.isExact secrets (naming.start ++ name) with
    | none => findSecrets naming secrets rest
    | some content =>
      match Text.ofBytes? content with
      | none => .error (.settingsSource .gettingValue name .secrets)
      | some text =>
        (findSecrets naming secrets rest).map fun others =>
          (name, .str (Text.strip text)) :: others

/-- Gathers what is given for the settings of a group, whose variables have names with a
usual beginning. -/
def Given.gather (usual : Text) (settings : List Text) (arguments : Fields Value)
    (sources : Sources) : Reading Given := do
  Attempt.ofExcept (Arguments.checkParts arguments)
  Attempt.ofExcept (Arguments.checkStart arguments)
  let files ← Attempt.ofExcept (Arguments.values arguments "_env_file")
  let filed ← allBindings (Arguments.encoding arguments) sources files
  let commanded ← Attempt.ofExcept (Arguments.commanded settings arguments)
  let naming ← Attempt.ofExcept (Arguments.naming usual settings arguments)
  let taking := Arguments.taking arguments
  let entries := taking.present (sources.environment.map fun (name, text) => (name, some text))
  let filed := taking.present filed
  let inFiles ← Attempt.ofExcept
    (naming.addAllLoose (naming.find (taking.values filed)) filed)
  let folders ← Attempt.ofExcept (Arguments.values arguments "_secrets_dir")
  let secrets ← Attempt.ofExcept (secretsOf sources folders)
  let inSecrets ← Attempt.ofExcept (findSecrets naming secrets settings)
  pure ⟨commanded, arguments, [naming.find (taking.values entries), inFiles, inSecrets]⟩

end HostLifecycle.Settings
