import HostLifecycle.Number.Shortest
import HostLifecycle.Text.Quoted

/-!
Keys of mappings. Two keys are one if they are equal as values, so a truth value and its
number are. Texts are ordered among texts and numbers among numbers; no other two keys
can be put in order.
-/

namespace HostLifecycle

open Number

/-- What an entry of a mapping can stand under. -/
inductive Key where
  | null
  | bool (b : Bool)
  | int (n : Int)
  | float (x : Binary64)
  | str (s : Text)
deriving Inhabited

namespace Key

def text? : Key → Option Text
  | str s => some s
  | _ => none

def asInt? : Key → Option Int
  | bool b => some (if b then 1 else 0)
  | int n => some n
  | _ => none

def same : Key → Key → Bool
  | null, null => true
  | str s, str t => s == t
  | float x, float y => x.equal y
  | float x, key => key.asInt?.any x.equalsInt
  | key, float y => key.asInt?.any y.equalsInt
  | key, other =>
    match key.asInt?, other.asInt? with
    | some n, some k => n == k
    | _, _ => false

/-- Whether a key comes before another one, if the two can be put in order. -/
def precedes? : Key → Key → Option Bool
  | str s, str t => some (s < t)
  | float x, float y => some (x.less y)
  | float x, key => key.asInt?.map x.lessThanInt
  | key, float y => key.asInt?.map y.greaterThanInt
  | key, other =>
    match key.asInt?, other.asInt? with
    | some n, some k => some (n < k)
    | _, _ => none

def quoted : Key → Text
  | null => "None"
  | bool true => "True"
  | bool false => "False"
  | int n => integerText n
  | float x => x.text
  | str s => Text.quoted s

end Key

/-- Entries under keys of any kind, in the order of their first arrival. Every key stands
once. -/
abbrev Entries (α : Type) := List (Key × α)

namespace Entries

variable {α : Type}

def get? (entries : Entries α) (key : Key) : Option α :=
  (entries.find? fun entry => key.same entry.1).map (·.2)

/-- Writes an entry: a key that is present keeps its place and its form, a new one goes to
the end. -/
def put (key : Key) (content : α) : Entries α → Entries α
  | [] => [(key, content)]
  | entry :: rest =>
    if key.same entry.1 then (entry.1, content) :: rest else entry :: put key content rest

/-- The entries in a list of pairs, where a later pair overwrites an earlier one of the same
key. -/
def ofPairs (pairs : List (Key × α)) : Entries α :=
  pairs.foldl (fun entries pair => entries.put pair.1 pair.2) []

def texts? (entries : Entries α) : Option (List (Text × α)) :=
  entries.mapM fun entry => entry.1.text?.map fun name => (name, entry.2)

def insertSorted (entry : Key × α) : Entries α → Option (Entries α)
  | [] => some [entry]
  | first :: rest => do
    if ← entry.1.precedes? first.1 then pure (entry :: first :: rest)
    else pure (first :: (← insertSorted entry rest))

/-- The entries in the order of their keys. Keys of different kinds have no order. -/
def sorted? : Entries α → Option (Entries α)
  | [] => some []
  | entry :: rest => sorted? rest >>= insertSorted entry

end Entries

end HostLifecycle
