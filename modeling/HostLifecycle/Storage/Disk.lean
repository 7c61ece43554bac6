import HostLifecycle.Attempt
import HostLifecycle.Storage.Path

/-!
The files that the library reads and writes. The disk is a list of folders and
files under the names that lead to them from the working folder; the folders above
the working folder, and the root, exist from the start. A device may refuse a step
of its own, and a refused write leaves some of the bytes behind.
-/

namespace HostLifecycle.Storage

inductive Entry where
  | folder
  | file (content : ByteArray)

/-- The names that lead to a place, without detours: names of two dots stand only
at the start, and a slash starts at the root. -/
abbrev Place := List Text

def rootName : Text := "/"

def upName : Text := ".."

/-- The steps of an operation that a device may refuse. -/
inductive DiskStep where
  | makeFolder
  | openFile
  | writeFile
  | replaceFile
deriving DecidableEq, Repr

/-- The behaviour of a device: the steps it refuses, and how many bytes it keeps of
a write that it refuses. -/
structure Device where
  refuses : DiskStep → Option FileFailure
  keeps : Nat

def Device.sound : Device := ⟨fun _ => none, 0⟩

/-- The files and folders, in the order in which they were made. -/
structure Disk where
  entries : List (Place × Entry)
  device : Device

namespace Disk

def empty : Disk := ⟨[], Device.sound⟩

def standing? (disk : Disk) (place : Place) : Option Entry :=
  if place.all (· == upName) || place == [rootName] then some .folder
  else (disk.entries.find? fun entry => entry.1 == place).map (·.2)

def put (disk : Disk) (place : Place) (entry : Entry) : Disk :=
  { disk with
    entries := (disk.entries.filter fun other => other.1 != place) ++ [(place, entry)] }

def remove (disk : Disk) (place : Place) : Disk :=
  { disk with entries := disk.entries.filter fun other => other.1 != place }

def above (place : Place) : Place :=
  if place == [rootName] then place
  else if place.all (· == upName) then place ++ [upName]
  else place.dropLast

def maximalName : Nat := 255

/-- The place that a name leads to from another place, which has to be a folder. -/
def enter (disk : Disk) (place : Place) (name : Text) : Except FileFailure Place :=
  match disk.standing? place with
  | none => .error .notFound
  | some (.file _) => .error .notDirectory
  | some .folder =>
    if name == upName then .ok (above place)
    else if name.byteSize > maximalName then .error .nameTooLong
    else .ok (place ++ [name])

def follow (disk : Disk) : Place → List Text → Except FileFailure Place
  | place, [] => .ok place
  | place, name :: rest =>
    match disk.enter place name with
    | .ok next => follow disk next rest
    | .error failure => .error failure

def maximalPath : Nat := 4095

def locate (disk : Disk) (path : Path) : Except FileFailure Place :=
  if path.text.byteSize > maximalPath then .error .nameTooLong
  else disk.follow (if path.root == "" then [] else [rootName]) path.names

def entryAt (disk : Disk) (path : Path) : Except FileFailure Entry := do
  let place ← disk.locate path
  match disk.standing? place with
  | some entry => pure entry
  | none => .error .notFound

def fault (path : Path) (failure : FileFailure) : Fault :=
  .file ⟨failure, some path.text, none⟩

/-- Why a path cannot be asked for at all: its text cannot be stored, or it holds a
character that no file system takes. -/
def unusable? (path : Path) : Option Fault :=
  if !path.text.isWhole then some .unencodable
  else if path.hasNull then some (.invalid .embeddedNull)
  else none

/-- What a path leads to, if it leads to something. -/
def entry? (disk : Disk) (path : Path) : Except Fault (Option Entry) :=
  match unusable? path, disk.entryAt path with
  | some _, _ => .ok none
  | none, .ok entry => .ok (some entry)
  | none, .error .notFound => .ok none
  | none, .error .notDirectory => .ok none
  | none, .error failure => .error (fault path failure)

def holds (disk : Disk) (path : Path) : Except Fault Bool :=
  (disk.entry? path).map Option.isSome

def isFolder (disk : Disk) (path : Path) : Bool :=
  match disk.entryAt path with
  | .ok .folder => true
  | _ => false

def read (disk : Disk) (path : Path) : Except Fault ByteArray :=
  match unusable? path, disk.entryAt path with
  | some fault, _ => .error fault
  | none, .ok (.file content) => .ok content
  | none, .ok .folder => .error (fault path .isDirectory)
  | none, .error failure => .error (fault path failure)

def makeFolder (path : Path) : Attempt Disk Unit := fun disk =>
  match unusable? path, disk.locate path with
  | some fault, _ => (.error fault, disk)
  | none, .error failure => (.error (fault path failure), disk)
  | none, .ok place =>
    match disk.standing? place with
    | some _ => (.error (fault path .occupied), disk)
    | none =>
      match disk.device.refuses .makeFolder with
      | some failure => (.error (fault path failure), disk)
      | none => (.ok (), disk.put place .folder)

/-- Accepts that a folder could not be made because it is there already. -/
def acceptFolder (path : Path) (result : Except Fault Unit) : Attempt Disk Unit :=
  fun disk =>
    match result with
    | .error (.file e) =>
      if disk.isFolder path then (.ok (), disk) else (.error (.file e), disk)
    | result => (result, disk)

/-- Whether a fault says that something on the way to a path is missing. -/
def isMissing : Except Fault Unit → Bool
  | .error (.file e) => e.failure == .notFound
  | _ => false

/-- Makes sure that a path leads to a folder: makes the folder and those that hold
it, where they are missing. The names of the path bound the search. -/
def makeFolders : (names : Nat) → Path → Attempt Disk Unit
  | 0, path => do
    let result ← (makeFolder path).settled
    acceptFolder path result
  | names + 1, path => do
    let result ← (makeFolder path).settled
    if isMissing result then
      makeFolders names path.parent
      let again ← (makeFolder path).settled
      if isMissing again then Attempt.ofExcept again else acceptFolder path again
    else acceptFolder path result

def makeParents (path : Path) : Attempt Disk Unit :=
  makeFolders path.names.length path.parent

/-- Makes a folder that is not there yet, and those that hold it, where they are
missing. -/
def makeNewFolder (path : Path) : Attempt Disk Unit := do
  let result ← (makeFolder path).settled
  if isMissing result then
    makeParents path
    makeFolder path
  else Attempt.ofExcept result

/-- What a file holds when it is opened: what it held before, or nothing. -/
def opened (isKept : Bool) (entry : Option Entry) : Entry :=
  match isKept, entry with
  | true, some entry => entry
  | _, _ => .file .empty

def openFile (isKept : Bool) (path : Path) : Attempt Disk Place := fun disk =>
  match unusable? path, disk.locate path with
  | some fault, _ => (.error fault, disk)
  | none, .error failure => (.error (fault path failure), disk)
  | none, .ok place =>
    match disk.standing? place with
    | some .folder => (.error (fault path .isDirectory), disk)
    | entry =>
      match disk.device.refuses .openFile with
      | some failure => (.error (fault path failure), disk)
      | none => (.ok place, disk.put place (opened isKept entry))

def openForWriting (path : Path) : Attempt Disk Place := openFile false path

def fill (place : Place) (content : ByteArray) : Attempt Disk Unit := fun disk =>
  match disk.device.refuses .writeFile with
  | some failure =>
    (.error (.file ⟨failure, none, none⟩),
      disk.put place (.file (content.extract 0 disk.device.keeps)))
  | none => (.ok (), disk.put place (.file content))

def write (path : Path) (content : ByteArray) : Attempt Disk Unit := do
  let place ← openForWriting path
  fill place content

def append (path : Path) (content : ByteArray) : Attempt Disk Unit := do
  let place ← openFile true path
  match (← get).standing? place with
  | some (.file before) => fill place (before ++ content)
  | _ => pure ()

/-- Moves a file to another path, in place of what was there, in one step. A path that
ends in two dots has no place of its own to move to. -/
def replace (source target : Path) : Attempt Disk Unit := fun disk =>
  let fail (failure : FileFailure) : Except Fault Unit × Disk :=
    (.error (.file ⟨failure, some source.text, some target.text⟩), disk)
  match (unusable? source).or (unusable? target), disk.locate source, disk.locate target with
  | some fault, _, _ => (.error fault, disk)
  | none, .error failure, _ => fail failure
  | none, _, .error failure => fail failure
  | none, .ok origin, .ok goal =>
    match disk.standing? origin, disk.standing? goal with
    | none, _ => fail .notFound
    | some (.file _), some .folder =>
      fail (if target.name == upName then .busy else .isDirectory)
    | some .folder, some (.file _) => fail .notDirectory
    | some entry, _ =>
      match disk.device.refuses .replaceFile with
      | some failure => fail failure
      | none =>
        if origin == goal then (.ok (), disk)
        else (.ok (), (disk.remove origin).put goal entry)

def removeFile (path : Path) : Attempt Disk Unit := fun disk =>
  match disk.entryAt path, disk.locate path with
  | .ok (.file _), .ok place => (.ok (), disk.remove place)
  | .ok _, _ => (.error (fault path .isDirectory), disk)
  | .error failure, _ => (.error (fault path failure), disk)

/-- Puts a file on the disk, with the folders that lead to it. -/
def store (path : Path) (content : ByteArray) : Attempt Disk Unit := do
  makeParents path
  write path content

def filesIn (disk : Disk) (path : Path) : List (Text × ByteArray) :=
  match disk.locate path with
  | .error _ => []
  | .ok place =>
    disk.entries.filterMap fun entry =>
      match entry.2 with
      | .file content =>
        if entry.1.dropLast == place then entry.1.getLast?.map fun name => (name, content)
        else none
      | .folder => none

/-- The text of a place, which ends in a slash for a folder. -/
def placeText (entry : Place × Entry) : Text :=
  Value.joinWith "/" entry.1 ++
    (match entry.2 with
      | .folder => "/"
      | .file _ => "")

/-- All files and folders below the working folder, in the order of their texts. -/
def listing (disk : Disk) : List Text :=
  let below := disk.entries.filter fun entry =>
    entry.1.head? != some upName && entry.1.head? != some rootName
  (below.map placeText).mergeSort fun a b => a ≤ b

end Disk

end HostLifecycle.Storage
