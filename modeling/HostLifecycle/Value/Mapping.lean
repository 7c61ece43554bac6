import HostLifecycle.Fault
import HostLifecycle.Json.Printer

/-!
Values as mappings. An object is one; a list is one if each of its items is a pair. The
keys of such pairs stay as they are, so they need not be texts. Calling for named arguments
is stricter: only an object gives them, and each has to be one that is asked for.
-/

namespace HostLifecycle

def Key.toValue : Key → Value
  | null => .null
  | bool b => .bool b
  | int n => .int n
  | float x => .float x
  | str s => .str s

namespace Value

/-- The key that a value is. No container is one. -/
def asKey? : Value → Option Key
  | null => some .null
  | bool b => some (.bool b)
  | int n => some (.int n)
  | float x => some (.float x)
  | str s => some (.str s)
  | _ => none

/-- The parts of a value that has parts: the characters of a text, the items of a
list, and the names of an object. -/
def parts? : Value → Option (List Value)
  | str s => some (s.map fun c => str [c])
  | list items => some items
  | object fields => some (fields.map fun field => str field.1)
  | mapping entries => some (entries.map fun entry => entry.1.toValue)
  | _ => none

def pairOf (index : Nat) (item : Value) : Except Fault (Key × Value) :=
  match item.parts? with
  | none => .error .wrongType
  | some [key, value] =>
    match key.asKey? with
    | some key => .ok (key, value)
    | none => .error .wrongType
  | some parts => .error (.invalid (.wrongPairLength index parts.length))

def pairsOf (index : Nat) : List Value → Except Fault (List (Key × Value))
  | [] => .ok []
  | item :: rest => do
    let pair ← pairOf index item
    let pairs ← pairsOf (index + 1) rest
    pure (pair :: pairs)

def ofEntries (entries : Entries Value) : Value :=
  match entries.texts? with
  | some fields => object fields
  | none => mapping entries

def toMapping (value : Value) : Except Fault Value :=
  match value with
  | object fields => .ok (object fields)
  | mapping entries => .ok (mapping entries)
  | value =>
    match value.parts? with
    | some items => (pairsOf 0 items).map fun pairs => ofEntries (Entries.ofPairs pairs)
    | none => .error .wrongType

def entry? (name : Text) : Value → Option Value
  | object fields => Fields.get? fields name
  | mapping entries => Entries.get? entries (.str name)
  | _ => none

def under? (data key : Value) : Except Fault (Option Value) :=
  match data, key.asKey? with
  | object fields, some (.str name) => .ok (Fields.get? fields name)
  | object _, some _ => .ok none
  | mapping entries, some key => .ok (Entries.get? entries key)
  | object _, none => .error .wrongType
  | mapping _, none => .error .wrongType
  | _, _ => .error .noMember

theorem under?_str (fields : Fields Value) (name : Text) :
    (object fields).under? (str name) = .ok (fields.get? name) := rfl

/-- The named arguments that a value gives, all of which have to be allowed. -/
def arguments (allowed : List Text) (value : Value) :
    Except Fault (Fields Value) :=
  match value with
  | object fields =>
    if fields.all fun field => allowed.contains field.1 then .ok fields
    else .error .wrongType
  | _ => .error .wrongType

def required (fields : Fields Value) (name : Text) : Except Fault Value :=
  match fields.get? name with
  | some value => .ok value
  | none => .error .wrongType

end Value

end HostLifecycle
