import HostLifecycle.Text.Lower
import HostLifecycle.Value

/-!
The variables of a process. Their names are told apart by case, but a setting is
usually looked up under any spelling of its name. Where the bytes of a variable are no
UTF-8, each stray byte is kept as half of a pair that stands alone.
-/

namespace HostLifecycle.Settings

/-- The variables of a process, in the order in which they were first set. -/
abbrev Environment := Fields Text

namespace Environment

/-- The variable with exactly a given name, empty if there is none. -/
def named (environment : Environment) (name : Text) : Text :=
  (environment.get? name).getD ""

/-- The home folder that the variables tell, if they tell one. -/
def home? (environment : Environment) : Option Text :=
  environment.get? "HOME"

/-- Whether two names are the same name, where their case counts or does not. -/
def sameName (isExact : Bool) (a b : Text) : Bool :=
  if isExact then a == b else Text.lower a == Text.lower b

def lastOf? {α : Type} (isExact : Bool) (entries : Fields α) (name : Text) : Option α :=
  ((entries.filter fun entry => sameName isExact entry.1 name).getLast?).map (·.2)

def firstOf? {α : Type} (isExact : Bool) (entries : Fields α) (name : Text) : Option α :=
  ((entries.filter fun entry => sameName isExact entry.1 name).head?).map (·.2)

end Environment

end HostLifecycle.Settings
