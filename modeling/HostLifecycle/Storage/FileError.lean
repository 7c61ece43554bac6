import HostLifecycle.Number.Shortest
import HostLifecycle.Text.Quoted

/-!
Why an operation on a file fails, and how that is reported: the number and the
wording of the cause, then the paths that the operation was about.
-/

namespace HostLifecycle.Storage

inductive FileFailure where
  | notFound
  | busy
  | occupied
  | notDirectory
  | isDirectory
  | nameTooLong
  | device (code : Nat) (wording : Text)
deriving DecidableEq, Repr

namespace FileFailure

def code : FileFailure → Nat
  | notFound => 2
  | busy => 16
  | occupied => 17
  | notDirectory => 20
  | isDirectory => 21
  | nameTooLong => 36
  | device code _ => code

def wording : FileFailure → Text
  | notFound => "No such file or directory"
  | busy => "Device or resource busy"
  | occupied => "File exists"
  | notDirectory => "Not a directory"
  | isDirectory => "Is a directory"
  | nameTooLong => "File name too long"
  | device _ wording => wording

end FileFailure

/-- A failed operation on a file that may be known, or on two of them. -/
structure FileError where
  failure : FileFailure
  path : Option Text
  target : Option Text
deriving DecidableEq, Repr

def FileError.message (e : FileError) : Text :=
  "[Errno " ++ Number.integerText e.failure.code ++ "] " ++ e.failure.wording ++
    (match e.path with
      | some path => ": " ++ Text.quoted path
      | none => "") ++
    (match e.target with
      | some target => " -> " ++ Text.quoted target
      | none => "")

end HostLifecycle.Storage
