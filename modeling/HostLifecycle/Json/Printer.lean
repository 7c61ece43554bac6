import HostLifecycle.Value

/-!
Values as JSON text in ASCII. Every character outside the printable ASCII range
is written as an escape, those beyond the basic plane as two. Fields keep their
order, and a key that is no text stands as the text that its value is written as.
Numbers that JSON does not know are written `NaN`, `Infinity` and `-Infinity`.
-/

namespace HostLifecycle.Json

open Number

def unitEscape (n : Nat) : List Char :=
  '\\' :: 'u' :: Text.hexText 4 n

def escapeChar (c : Char) : List Char :=
  if c = '"' then ['\\', '"']
  else if c = '\\' then ['\\', '\\']
  else if c = '\n' then ['\\', 'n']
  else if c = '\r' then ['\\', 'r']
  else if c = '\t' then ['\\', 't']
  else if c = '\x0c' then ['\\', 'f']
  else if c = '\x08' then ['\\', 'b']
  else if 32 ≤ c.toNat ∧ c.toNat ≤ 126 then [c]
  else if c.toNat < 65536 then unitEscape c.toNat
  else unitEscape (Text.highHalf c.toNat) ++ unitEscape (Text.lowHalf c.toNat)

def escape (point : CodePoint) : List Char :=
  match point with
  | .half _ => unitEscape point.toNat
  | .char c => escapeChar c

def writeString (s : Text) : List Char :=
  '"' :: s.flatMap escape ++ ['"']

def writeFloat : Binary64 → List Char
  | .nan => "NaN".toList
  | .infinite false => "Infinity".toList
  | .infinite true => "-Infinity".toList
  | x => x.text.toList

def nameOf : Key → Text
  | .null => "null"
  | .bool true => "true"
  | .bool false => "false"
  | .int n => integerText n
  | .float x => Text.ofChars (writeFloat x)
  | .str s => s

/-- How the parts of a list or an object are set apart: all on one line, or each
on a line of its own, indented by two blanks for every level. -/
inductive Layout where
  | line
  | indented
deriving DecidableEq, Repr

namespace Layout

/-- What stands before the first part of a container at a depth. -/
def opening : Layout → (depth : Nat) → List Char
  | line, _ => []
  | indented, depth => '\n' :: List.replicate (2 * (depth + 1)) ' '

def between : Layout → (depth : Nat) → List Char
  | line, _ => [',', ' ']
  | indented, depth => ',' :: '\n' :: List.replicate (2 * (depth + 1)) ' '

/-- What stands behind the last part of a container at a depth. -/
def closing : Layout → (depth : Nat) → List Char
  | line, _ => []
  | indented, depth => '\n' :: List.replicate (2 * depth) ' '

end Layout

mutual

def writeAt (layout : Layout) (depth : Nat) : Value → List Char
  | .null => "null".toList
  | .bool true => "true".toList
  | .bool false => "false".toList
  | .int n => (integerText n).toList
  | .float x => writeFloat x
  | .str s => writeString s
  | .list [] => ['[', ']']
  | .list (item :: rest) =>
    '[' :: layout.opening depth ++ writeAt layout (depth + 1) item ++
      writeItems layout depth rest ++ layout.closing depth ++ [']']
  | .object [] => ['\x7b', '\x7d']
  | .object ((name, value) :: rest) =>
    '\x7b' :: layout.opening depth ++ writeString name ++ [':', ' '] ++
      writeAt layout (depth + 1) value ++
      writeFields layout depth rest ++ layout.closing depth ++ ['\x7d']
  | .mapping [] => ['\x7b', '\x7d']
  | .mapping ((key, value) :: rest) =>
    '\x7b' :: layout.opening depth ++ writeString (nameOf key) ++ [':', ' '] ++
      writeAt layout (depth + 1) value ++
      writeEntries layout depth rest ++ layout.closing depth ++ ['\x7d']

def writeItems (layout : Layout) (depth : Nat) : List Value → List Char
  | [] => []
  | item :: rest =>
    layout.between depth ++ writeAt layout (depth + 1) item ++
      writeItems layout depth rest

def writeFields (layout : Layout) (depth : Nat) :
    List (Text × Value) → List Char
  | [] => []
  | (name, value) :: rest =>
    layout.between depth ++ writeString name ++ [':', ' '] ++
      writeAt layout (depth + 1) value ++ writeFields layout depth rest

def writeEntries (layout : Layout) (depth : Nat) :
    List (Key × Value) → List Char
  | [] => []
  | (key, value) :: rest =>
    layout.between depth ++ writeString (nameOf key) ++ [':', ' '] ++
      writeAt layout (depth + 1) value ++ writeEntries layout depth rest

end

def write (layout : Layout) (value : Value) : String :=
  String.ofList (writeAt layout 0 value)

end HostLifecycle.Json
