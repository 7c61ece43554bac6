import HostLifecycle.Fault

/-!
Values that cannot be told in a message. An integer with too many digits is not written, and
containers inside one another are followed down to a level only.
-/

namespace HostLifecycle

def integerFault? (n : Int) : Option Fault :=
  if (Number.decimalDigits n.natAbs).length > Json.maximalDigits then
    some (.invalid .unwrittenDigits)
  else none

def Key.untold? : Key → Option Fault
  | int n => integerFault? n
  | _ => none

namespace Value

mutual

/-- What keeps a value from being told, with containers of at most so many levels: the first
fault on the way through it. -/
def untoldAt : (levels : Nat) → Value → Option Fault
  | _, .int n => integerFault? n
  | 0, .list _ => some (.tooDeep .told)
  | levels + 1, .list items => untoldItems levels items
  | 0, .object _ => some (.tooDeep .told)
  | levels + 1, .object fields => untoldFields levels fields
  | 0, .mapping _ => some (.tooDeep .told)
  | levels + 1, .mapping entries => untoldEntries levels entries
  | _, _ => none
termination_by structural _ value => value

def untoldItems (levels : Nat) : List Value → Option Fault
  | [] => none
  | item :: rest => untoldAt levels item <|> untoldItems levels rest
termination_by structural items => items

def untoldFields (levels : Nat) : List (Text × Value) → Option Fault
  | [] => none
  | (_, value) :: rest => untoldAt levels value <|> untoldFields levels rest
termination_by structural fields => fields

def untoldEntries (levels : Nat) : List (Key × Value) → Option Fault
  | [] => none
  | (key, value) :: rest =>
    key.untold? <|> untoldAt levels value <|> untoldEntries levels rest
termination_by structural entries => entries

end

def untold? (value : Value) : Option Fault := untoldAt Json.maximalLevels value

@[simp] theorem untold?_str (text : Text) : (str text).untold? = none := rfl

def told (value : Value) : Except Fault Text :=
  match value.untold? with
  | some fault => .error fault
  | none => .ok value.text

end Value

/-- A fault whose message tells a value, or what keeps the value from being told. -/
def Fault.telling (value : Value) (fault : Fault) : Fault := value.untold?.getD fault

theorem Fault.telling_of_told {value : Value} (h : value.untold? = none) (fault : Fault) :
    telling value fault = fault := by
  rw [telling, h]
  rfl

end HostLifecycle
