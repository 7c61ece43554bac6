import HostLifecycle.Value

/-!
Values inside messages. A text stands for itself; inside a list or an object, and
wherever a message asks for the quoted form, it stands between quotes.
-/

namespace HostLifecycle.Value

open Number

def joinWith (separator : Text) : List Text → Text
  | [] => ""
  | [text] => text
  | text :: rest => text ++ separator ++ joinWith separator rest

mutual

def quoted : Value → Text
  | null => Key.null.quoted
  | bool b => (Key.bool b).quoted
  | int n => (Key.int n).quoted
  | float x => (Key.float x).quoted
  | str s => (Key.str s).quoted
  | list items => "[" ++ joinWith ", " (quotedItems items) ++ "]"
  | object fields => "\x7b" ++ joinWith ", " (quotedFields fields) ++ "\x7d"
  | mapping entries => "\x7b" ++ joinWith ", " (quotedEntries entries) ++ "\x7d"

def quotedItems : List Value → List Text
  | [] => []
  | item :: rest => quoted item :: quotedItems rest

def quotedFields : List (Text × Value) → List Text
  | [] => []
  | (name, value) :: rest =>
    (Text.quoted name ++ ": " ++ quoted value) :: quotedFields rest

def quotedEntries : List (Key × Value) → List Text
  | [] => []
  | (key, value) :: rest => (key.quoted ++ ": " ++ quoted value) :: quotedEntries rest

end

/-- The form of a value in running text: a text is left as it is. -/
def text : Value → Text
  | str s => s
  | value => value.quoted

end HostLifecycle.Value
