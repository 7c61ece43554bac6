import HostLifecycle.Fault

/-!
The levels of log records. A level is a number that may have a name. In the settings
a level is spelled by a name in any case; the names are looked up among all constants
of the logging system, and a constant that is no level is refused, while a name that
is no constant stands for the usual level.
-/

namespace HostLifecycle.Logging

def levelNames : List (Int × Text) :=
  [(50, "CRITICAL"), (40, "ERROR"), (30, "WARNING"), (20, "INFO"), (10, "DEBUG"),
   (0, "NOTSET")]

def levelNumbers : Fields Int :=
  [("CRITICAL", 50), ("FATAL", 50), ("ERROR", 40), ("WARN", 30), ("WARNING", 30),
   ("INFO", 20), ("DEBUG", 10), ("NOTSET", 0)]

/-- The level that stands on a record: its name if it is a number that has one, the
number if it is such a name, and else a text that shows it. -/
def levelShown (level : Value) : Except Fault Value :=
  match levelNames.find? (fun entry => level == .int entry.1), level with
  | some (_, name), _ => .ok (.str name)
  | none, .list _ => .error .wrongType
  | none, .object _ => .error .wrongType
  | none, level =>
    match level.asStr?.bind levelNumbers.get? with
    | some n => .ok (.int n)
    | none => .ok (.str ("Level " ++ level.text))

def floatReaches (n : Int) (x : Number.Binary64) : Bool :=
  match x, x.floor? with
  | .infinite isNegative, _ => !isNegative
  | _, some whole => n ≤ whole
  | _, none => false

/-- Whether a level is at least a number. A level is a number or a truth value. -/
def reaches (n : Int) (level : Value) : Except Fault Bool :=
  match level with
  | .float x => .ok (floatReaches n x)
  | level =>
    match level.asInt? with
    | some m => .ok (n ≤ m)
    | none => .error .wrongType

inductive Constant where
  | level (n : Int)
  | layout (text : Text)
  | table
deriving DecidableEq, Repr

def otherConstants : Fields Constant :=
  [("BASIC_FORMAT", .layout "%(levelname)s:%(name)s:%(message)s"), ("_STYLES", .table)]

def constants : Fields Constant :=
  levelNumbers.map (fun entry => (entry.1, Constant.level entry.2)) ++ otherConstants

/-- The capitals of a character, where those are ASCII letters; any other character
stands for itself, since no name has it. -/
def capitalsOf (c : CodePoint) : Text :=
  if c.toNat < 128 then [c.map Char.toUpper]
  else
    match c.toNat with
    | 0xDF => ['S', 'S']
    | 0x131 => ['I']
    | 0x17F => ['S']
    | 0xFB00 => ['F', 'F']
    | 0xFB01 => ['F', 'I']
    | 0xFB02 => ['F', 'L']
    | 0xFB03 => ['F', 'F', 'I']
    | 0xFB04 => ['F', 'F', 'L']
    | 0xFB05 => ['S', 'T']
    | 0xFB06 => ['S', 'T']
    | _ => [c]

/-- The level that is used unless the settings name another one. -/
def usualLevel : Int := 20

def levelNamed (text : Text) : Except Fault Int :=
  match constants.get? (text.flatMap capitalsOf) with
  | some (.level n) => .ok n
  | some (.layout given) => .error (.invalid (.unknownLevel given))
  | some .table => .error .wrongType
  | none => .ok usualLevel

end HostLifecycle.Logging
