import HostLifecycle.Text.Pieces
import HostLifecycle.Value.Text

/-!
Paths of files. A path is the names that lead to a file, from the root or from the
working folder. Empty names and names of a single dot are dropped; a name of two
dots stays.
-/

namespace HostLifecycle.Storage

/-- A path. The root is empty for a path from the working folder. -/
structure Path where
  root : Text
  names : List Text
deriving DecidableEq, Repr, Inhabited

namespace Path

/-- The root of a path that starts with a number of slashes; exactly two are a
root of their own. -/
def rootOf (text : Text) : Text :=
  match (text.takeWhile (· == .char '/')).length with
  | 0 => ""
  | 2 => "//"
  | _ => "/"

def ofText (text : Text) : Path where
  root := rootOf text
  names := (Text.pieces (CodePoint.char '/') text).filter fun name =>
    name != "" && name != "."

/-- The text of a path. The working folder is a single dot. -/
def text (path : Path) : Text :=
  if path.root == "" && path.names.isEmpty then "."
  else path.root ++ Value.joinWith "/" path.names

def name (path : Path) : Text :=
  path.names.getLast?.getD ""

def parent (path : Path) : Path :=
  { path with names := path.names.dropLast }

/-- The name without its extension: what stands before the last dot, unless that
dot is the first or the last character. -/
def stemOf (name : Text) : Text :=
  let extension := (name.reverse.takeWhile (· != .char '.')).length
  if extension + 1 < name.length && extension ≠ 0 then
    name.take (name.length - (extension + 1))
  else name

/-- The path with another extension of its last name, if it has one. -/
def withExtension? (path : Path) (extension : Text) : Option Path :=
  if path.name == "" then none
  else
    let name := stemOf path.name ++ extension
    some { path with names := path.names.dropLast ++ [name] }

/-- A row of names that starts with the last one and to which another name is added. A
name of two dots takes back the one before it. -/
def stepBack (reversed : List Text) (name : Text) : List Text :=
  match reversed with
  | last :: rest => if name == ".." && last != ".." then rest else name :: reversed
  | [] => [name]

def direct (path : Path) : Path :=
  { path with names := (path.names.foldl stepBack []).reverse }

/-- The text of a path from the root, if the working folder is reached by a given
one. -/
def fromRoot (home : Text) (path : Path) : Text :=
  if path.root != "" then path.text
  else if path.names.isEmpty then home
  else home ++ "/" ++ path.text

/-- Whether a path holds a character that no file system takes. -/
def hasNull (path : Path) : Bool :=
  path.names.any fun name => name.contains '\x00'

end Path

end HostLifecycle.Storage
