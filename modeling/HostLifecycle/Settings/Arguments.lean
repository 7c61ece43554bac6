import HostLifecycle.Settings.CommandLine
import HostLifecycle.Settings.Naming
import HostLifecycle.Text.Encoding
import HostLifecycle.Value.Mapping

/-!
Arguments that are no settings but say how settings are told: how variables are named
and taken, which files and folders hold them, and which command line there is. Their
names start with a low line.
-/

namespace HostLifecycle.Settings

/-- How variables are taken: whether an empty one counts as missing, and which text
stands for null. -/
structure Taking where
  ignoresEmpty : Bool
  nullText : Option Value

/-- The variables that do not count as missing. -/
def Taking.present (taking : Taking) (entries : Fields (Option Text)) :
    Fields (Option Text) :=
  entries.filter fun (_, text) => !(taking.ignoresEmpty && text == some "")

def Taking.value (taking : Taking) (text : Text) : Value :=
  if taking.nullText == some (.str text) then .null else .str text

def Taking.values (taking : Taking) (entries : Fields (Option Text)) :
    Fields (Option Value) :=
  entries.map fun (name, text) => (name, text.map taking.value)

namespace Arguments

def told? (arguments : Fields Value) (name : Text) : Option Value :=
  match arguments.get? name with
  | some .null => none
  | value => value

def isTold (arguments : Fields Value) (name : Text) : Bool :=
  (told? arguments name).any Value.isTruthy

def values (arguments : Fields Value) (name : Text) : Except Fault (List Value) :=
  match told? arguments name with
  | none => .ok []
  | some (.str text) => .ok [.str text]
  | some value => value.parts?.elim (.error .wrongType) .ok

/-- Looks whether the beginning of the names of variables has a length. -/
def checkStart (arguments : Fields Value) : Except Fault Unit :=
  match told? arguments "_env_prefix" with
  | none => .ok ()
  | some value => if value.parts?.isSome then .ok () else .error .wrongType

/-- Looks whether the number of parts of a name is a number. -/
def checkParts (arguments : Fields Value) : Except Fault Unit :=
  match told? arguments "_env_nested_max_split" with
  | none => .ok ()
  | some (.float _) => .ok ()
  | some value =>
    if value.isTruthy && value.asInt?.isNone then .error .wrongType else .ok ()

/-- Whether the names of variables have their beginning at all. -/
def hasStart (arguments : Fields Value) : Bool :=
  match told? arguments "_env_prefix_target" with
  | none => true
  | some target => target == .str "variable" || target == .str "all"

/-- The beginning of the names of the variables of a group, whose first setting is
told if there can be none. -/
def start (usual first : Text) (arguments : Fields Value) : Except Fault Text :=
  if !hasStart arguments then .ok []
  else
    match told? arguments "_env_prefix" with
    | none => .ok usual
    | some (.str text) => .ok text
    | some _ => .error (.settingsSource .gettingValue first .environment)

/-- The beginning of the names of the variables of a group as it is told. -/
def groupStart (usual : Text) (arguments : Fields Value) : Value :=
  (told? arguments "_env_prefix").getD (.str usual)

/-- How the arguments say that variables are named for the settings of a group. -/
def naming (usual : Text) (settings : List Text) (arguments : Fields Value) :
    Except Fault Naming :=
  (start usual (settings.headD []) arguments).map fun start =>
    ⟨isTold arguments "_case_sensitive", start, groupStart usual arguments, settings⟩

def taking (arguments : Fields Value) : Taking :=
  ⟨isTold arguments "_env_ignore_empty", told? arguments "_env_parse_none_str"⟩

def encoding (arguments : Fields Value) : Except Fault Text.Encoding :=
  if !isTold arguments "_env_file_encoding" then .ok .utf8
  else
    match told? arguments "_env_file_encoding" with
    | some (.str name) => (Text.Encoding.named? name).elim (.error (.unknownEncoding name)) .ok
    | _ => .error .wrongType

def commandedNull (arguments : Fields Value) : Value :=
  match told? arguments "_cli_parse_none_str" with
  | some text =>
    if text.isTruthy then text else usual
  | none => usual
where
  usual : Value :=
    if told? arguments "_cli_avoid_json" == some (.bool true) then .str "None" else .str "null"

/-- Reads the words of a command line. A problem with them ends the program, unless it is
to be told. -/
def readWords (settings : List Text) (arguments : Fields Value) (words : List Text) :
    Except Fault (Fields Text) :=
  let words :=
    if isTold arguments "_case_sensitive" then words else words.map CommandLine.lowered
  let options := CommandLine.Options.ofSettings (isTold arguments "_cli_kebab_case") settings
  let told : Except CommandLine.Problem (Fields Text) := do
    let told ← CommandLine.read options ⟨[], []⟩ words
    if told.left.isEmpty || isTold arguments "_cli_ignore_unknown_args" then pure told.found
    else throw (.leftOver told.left)
  match told, told? arguments "_cli_exit_on_error" with
  | .ok found, _ => .ok found
  | .error problem, some isExit =>
    if isExit.isTruthy then .error (.exit 2) else .error (.commandLine problem)
  | .error _, none => .error (.exit 2)

/-- What a command line tells of the settings. No words are told by what equals false,
and none stand behind the name of the program. -/
def commanded (settings : List Text) (arguments : Fields Value) :
    Except Fault (Fields Value) :=
  match told? arguments "_cli_parse_args" with
  | none | some (.bool _) | some (.int 0) => .ok []
  | some (.list items) =>
    match items.mapM Value.asStr? with
    | none => .error .wrongType
    | some words =>
      (readWords settings arguments words).map fun found =>
        found.map fun (name, text) =>
          (name, if commandedNull arguments == .str text then .null else .str text)
  | some (.float x) =>
    if x.isZero then .ok [] else .error (.commandLine (.noWords "float"))
  | some value => .error (.commandLine (.noWords (CommandLine.shapeName value)))

end Arguments

end HostLifecycle.Settings
