import HostLifecycle.Clock.Timestamp
import HostLifecycle.Fault

/-!
Points in time that are given as a number of seconds. A fraction of a second is
rounded to microseconds, a tie to the even one. The calendar reaches from the year 1
to the year 9999.
-/

namespace HostLifecycle.Clock

open Number

/-- Whether a number of seconds is one that the clock of the system can hold. -/
def isInRange (seconds : Int) : Bool :=
  -9223372036854775808 ≤ seconds && seconds < 9223372036854775808

/-- The microseconds of a floating-point number of seconds. Its fraction is turned
into microseconds, which rounds it once more. -/
def microsOfFloat (x : Binary64) : Except Fault Int :=
  match x, x.truncate?, (x.fraction.mulNat 1000000).nearest? with
  | .nan, _, _ => .error (.invalid .notANumberTime)
  | _, some seconds, some micros =>
    if isInRange seconds then .ok (seconds * perSecond + micros) else .error .overflow
  | _, _, _ => .error .overflow

def microsOf (v : Value) : Except Fault Int :=
  match v with
  | .float x => microsOfFloat x
  | v =>
    match v.asInt? with
    | none => .error .wrongType
    | some seconds =>
      if isInRange seconds then .ok (seconds * perSecond) else .error .overflow

def secondOf (v : Value) : Except Fault Int :=
  match v with
  | .float x =>
    match x, x.floor? with
    | .nan, _ => .error (.invalid .notANumberTime)
    | _, some seconds => if isInRange seconds then .ok seconds else .error .overflow
    | _, none => .error .overflow
  | v =>
    match v.asInt? with
    | none => .error .wrongType
    | some seconds => if isInRange seconds then .ok seconds else .error .overflow

/-- The milliseconds of a number of seconds beyond the last full second, cut off. -/
def millisOf (v : Value) : Int :=
  match v with
  | .float x => ((x.fraction.mulNat 1000).truncate?).getD 0
  | _ => 0

/-- Whether the calendar of the system reaches to a year, which it counts from 1900. -/
def isCountable (year : Int) : Bool :=
  -2147483648 ≤ year - 1900 && year - 1900 ≤ 2147483647

/-- A year as a signed number of 32 bits, in which it is told when it is refused. -/
def shownYear (year : Int) : Int := year.bmod 4294967296

/-- The point in time after a number of microseconds, if the calendar reaches it. -/
def momentOf? (micros : Int) : Except Fault Moment :=
  let moment := momentOf micros
  let year := moment.date.year
  if !isCountable year then
    .error (.file ⟨.device 75 "Value too large for defined data type", none, none⟩)
  else if year < 1 ∨ 9999 < year then .error (.invalid (.yearOutOfRange (shownYear year)))
  else .ok moment

def isTold (year : Int) : Bool :=
  -2147483648 ≤ year - 1900 && year ≤ 2147483647

/-- The point in time after a number of seconds, if the calendar of plain text reaches
it. -/
def toldMoment? (seconds : Int) : Except Fault Moment :=
  let moment := momentOf (seconds * perSecond)
  if isTold moment.date.year then .ok moment else .error .overflow

def Date.plainText (date : Date) : List Char :=
  (integerText date.year).toList ++ '-' :: digits 2 date.month ++ '-' :: digits 2 date.day

/-- The text of a point in time, with a single letter for universal time. -/
def Moment.zuluText (moment : Moment) : String :=
  String.ofList (moment.text ++ ['Z'])

end HostLifecycle.Clock
