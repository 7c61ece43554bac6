import HostLifecycle.Text.Blank
import HostLifecycle.Text.Lower
import HostLifecycle.Value

/-!
Settings on a command line. A setting is told by an option, which is its name behind two
dashes, and a value: the word that follows, or what stands behind `=` in the same word.
The last value counts. A word that belongs to no option is left over.
-/

namespace HostLifecycle.Settings.CommandLine

inductive Problem where
  | noWords (shape : Text)
  | noValue (option : Text)
  | leftOver (words : List Text)
deriving DecidableEq, Repr

def Problem.message : Problem → Text
  | noWords shape =>
    "cli_parse_args must be a list or tuple of strings, received <class '" ++ shape ++ "'>"
  | noValue option =>
    "error parsing CLI: argument " ++ option ++ ": expected one argument"
  | leftOver words =>
    "error parsing CLI: unrecognized arguments: " ++ List.intercalate [.char ' '] words

def shapeName : Value → Text
  | .null => "NoneType"
  | .bool _ => "bool"
  | .int _ => "int"
  | .float _ => "float"
  | .str _ => "str"
  | .list _ => "list"
  | .object _ => "dict"
  | .mapping _ => "dict"

abbrev Options := Fields Text

/-- The options for settings. Their names may be written with dashes for low lines. -/
def Options.ofSettings (dashed : Bool) (settings : List Text) : Options :=
  settings.map fun setting =>
    let name := if dashed then setting.map (CodePoint.map fun c => if c = '_' then '-' else c)
      else setting
    ("--" ++ name, setting)

/-- What a word may be: an option that needs a value, an option with its value, the mark
behind which no option stands, a word that can be a value, or another one. -/
inductive WordKind where
  | option (setting : Text)
  | assigned (setting value : Text)
  | mark
  | plain
  | strange
deriving DecidableEq, Repr

/-- Whether what follows a dash makes a negative number of the word. -/
def isNumber (text : Text) : Bool :=
  let isDigit := CodePoint.isIn Char.isDigit
  match text.dropWhile isDigit with
  | [] => !text.isEmpty
  | .char '.' :: places => !places.isEmpty && places.all isDigit
  | _ => false

def dashedKind (options : Options) (word : Text) : WordKind :=
  match options.get? word with
  | some setting => .option setting
  | none =>
    let name := word.takeWhile (· != .char '=')
    let value := word.drop (name.length + 1)
    match options.get? name with
    | some setting => .assigned setting value
    | none =>
      if word == "-" || isNumber (word.drop 1) || word.contains (.char ' ') then .plain
      else .strange

def kindOf (options : Options) (word : Text) : WordKind :=
  if word == "--" then .mark
  else if word.head? == some (.char '-') then dashedKind options word
  else .plain

/-- What a command line tells of settings, and the words that are left over. -/
structure Told where
  found : Fields Text
  left : List Text

/-- Reads the words of a command line, behind what is told already. -/
def read (options : Options) (told : Told) : List Text → Except Problem Told
  | [] => .ok told
  | word :: rest =>
    match kindOf options word with
    | .assigned setting value =>
      read options { told with found := told.found.put setting value } rest
    | .option setting =>
      match rest with
      | [] => .error (.noValue word)
      | value :: rest =>
        if kindOf options value = .plain then
          read options { told with found := told.found.put setting value } rest
        else .error (.noValue word)
    | .mark => .ok { told with left := told.left ++ word :: rest }
    | _ => read options { told with left := told.left ++ [word] } rest

/-- A word with its option in lower case. Of an option, only the first line counts. -/
def lowered (word : Text) : Text :=
  let isName : CodePoint → Bool := fun c => c != .char '=' && !CodePoint.isIn Text.isBlank c
  let name := word.takeWhile isName
  if word.head? == some (.char '-') && 1 < name.length then
    Text.lower name ++ (word.dropWhile isName).takeWhile (· != .char '\n')
  else word

end HostLifecycle.Settings.CommandLine
