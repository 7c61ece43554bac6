import HostLifecycle.Fault
import HostLifecycle.Settings.Environment

/-!
How variables are named for the settings of a group. The variable of a setting has the
beginning of the group in front, unless the variables of the settings are to have none.
A file of variables belongs to the library, so a variable of it that stands for no
setting but has the beginning of the group still names something: what the rest of its
name spells. That counts more than the variable of the setting itself.
-/

namespace HostLifecycle.Settings

/-- How the variables for settings are named: whether the case of names counts, what is
in front of the names of the settings, the beginning of the group, and the settings. -/
structure Naming where
  isExact : Bool
  start : Text
  groupStart : Value
  settings : List Text

namespace Naming

def spelled (naming : Naming) (name : Text) : Text :=
  if naming.isExact then name else Text.lower name

/-- Whether a variable, in its known spelling, is the one of a setting. -/
def isOfSetting (naming : Naming) (name : Text) : Bool :=
  naming.settings.any fun setting => naming.spelled (naming.start ++ setting) == name

/-- What variables tell of the settings, by the names of the settings. -/
def find {α : Type} (naming : Naming) (entries : Fields (Option α)) : Fields α :=
  naming.settings.filterMap fun setting =>
    ((Environment.lastOf? naming.isExact entries (naming.start ++ setting)).join).map
      fun found => (setting, found)

/-- The beginning of the group in its known spelling. What is no text has no spelling,
and no name begins with it. -/
def knownGroupStart (naming : Naming) : Except Fault Text :=
  match naming.groupStart with
  | .str start => .ok (naming.spelled start)
  | _ => .error (if naming.isExact then .wrongType else .noMember)

/-- What a loose variable of a file stands for: the rest of its name if it has the
beginning of the group, else its name. -/
def looseName (naming : Naming) (name : Text) : Except Fault Text :=
  naming.knownGroupStart.map fun start =>
    if start.isPrefixOf name then name.drop start.length else name

/-- Whether a variable of a file is loose, beside what is found already: it is not found,
it is not named as a setting without the beginning of the group, and it is not the
variable of a setting. -/
def isLoose (naming : Naming) (found : Fields Value) (name : Text) : Bool :=
  !found.has name && !(naming.groupStart.isTruthy && naming.settings.contains name) &&
    !naming.isOfSetting name

/-- Adds what a variable of a file stands for if it is loose and not empty. -/
def addLoose (naming : Naming) (found : Fields Value) (entry : Text × Option Text) :
    Except Fault (Fields Value) :=
  match entry with
  | (_, none) => .ok found
  | (name, some text) =>
    if text == "" || !naming.isLoose found name then .ok found
    else (naming.looseName name).map fun own => found.put own (.str text)

/-- The variables in their known spelling, each with its last text. -/
def respell {α : Type} (naming : Naming) (entries : Fields α) : Fields α :=
  Fields.ofPairs (entries.map fun (name, content) => (naming.spelled name, content))

def addAllLoose (naming : Naming) (found : Fields Value)
    (entries : Fields (Option Text)) : Except Fault (Fields Value) :=
  (naming.respell entries).foldlM naming.addLoose found

end Naming

end HostLifecycle.Settings
