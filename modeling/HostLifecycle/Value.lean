import HostLifecycle.Key

/-!
Values without a fixed shape: what a record holds before it is understood, what
a secret store answers, and what an event or a log record carries. Objects keep
their fields in the order in which the names first arrived.
-/

namespace HostLifecycle

open Number

/-- A value of a record, an event or a secret. A mapping whose keys are all texts is an
object. -/
inductive Value where
  | null
  | bool (b : Bool)
  | int (n : Int)
  | float (x : Binary64)
  | str (s : Text)
  | list (items : List Value)
  | object (fields : List (Text × Value))
  | mapping (entries : List (Key × Value))
deriving Inhabited

/-- Named entries in the order of their first arrival. Every name stands once. -/
abbrev Fields (α : Type) := List (Text × α)

namespace Fields

variable {α : Type}

def get? (fields : Fields α) (name : Text) : Option α :=
  (fields.find? fun field => field.1 == name).map (·.2)

def has (fields : Fields α) (name : Text) : Bool :=
  fields.any fun field => field.1 == name

/-- Writes an entry: a name that is present keeps its place, a new one goes to
the end. -/
def put (name : Text) (entry : α) : Fields α → Fields α
  | [] => [(name, entry)]
  | field :: rest =>
    if field.1 = name then (name, entry) :: rest
    else field :: put name entry rest

/-- The entries in a list of pairs, where a later pair overwrites an earlier one
of the same name. -/
def ofPairs (pairs : List (Text × α)) : Fields α :=
  pairs.foldl (fun fields pair => fields.put pair.1 pair.2) []

def merge (older newer : Fields α) : Fields α :=
  newer.foldl (fun fields pair => fields.put pair.1 pair.2) older

def erase (fields : Fields α) (name : Text) : Fields α :=
  fields.filter fun field => field.1 != name

def names (fields : Fields α) : List Text :=
  fields.map (·.1)

end Fields

namespace Value

/-- Whether a value counts as something: all but null, false, zero and whatever
is empty. -/
def isTruthy : Value → Bool
  | null => false
  | bool b => b
  | int n => n != 0
  | float x => !x.isZero
  | str s => s != ""
  | list items => !items.isEmpty
  | object fields => !fields.isEmpty
  | mapping entries => !entries.isEmpty

/-- The number that a value is, where the two truth values count as 1 and 0. -/
def asInt? : Value → Option Int
  | int n => some n
  | bool b => some (if b then 1 else 0)
  | _ => none

def asStr? : Value → Option Text
  | str s => some s
  | _ => none

def asFields? : Value → Option (Fields Value)
  | object fields => some fields
  | _ => none

mutual

/-- Equality of values: numbers are equal if their values are, a truth value
equals its number, and objects and mappings are equal whatever the order of their
parts. -/
def equal : Value → Value → Bool
  | null, null => true
  | bool a, bool b => a == b
  | bool a, int n => (if a then 1 else 0) == n
  | bool a, float x => x.equalsInt (if a then 1 else 0)
  | int n, bool b => n == (if b then 1 else 0)
  | int n, int k => n == k
  | int n, float x => x.equalsInt n
  | float x, bool b => x.equalsInt (if b then 1 else 0)
  | float x, int n => x.equalsInt n
  | float x, float y => x.equal y
  | str s, str t => s == t
  | list xs, list ys => equalItems xs ys
  | object fs, object gs => fs.length == gs.length && equalFields fs gs
  | mapping es, mapping ds => es.length == ds.length && equalEntries es ds
  | _, _ => false
termination_by structural value => value

def equalItems : List Value → List Value → Bool
  | [], [] => true
  | x :: xs, y :: ys => equal x y && equalItems xs ys
  | _, _ => false
termination_by structural items => items

def equalFields : List (Text × Value) → List (Text × Value) → Bool
  | [], _ => true
  | (name, value) :: rest, others =>
    (match Fields.get? others name with
      | some other => equal value other
      | none => false) && equalFields rest others
termination_by structural fields => fields

def equalEntries : List (Key × Value) → List (Key × Value) → Bool
  | [], _ => true
  | (key, value) :: rest, others =>
    (match Entries.get? others key with
      | some other => equal value other
      | none => false) && equalEntries rest others
termination_by structural entries => entries

end

instance instBEqValue : BEq Value := ⟨equal⟩

end Value

end HostLifecycle
