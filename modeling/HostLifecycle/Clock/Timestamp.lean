import HostLifecycle.Number.Shortest

/-!
Points in time, in microseconds since the start of 1970, and their texts in
universal time.
-/

namespace HostLifecycle.Clock

open Number

structure Date where
  year : Int
  month : Nat
  day : Nat
deriving DecidableEq, Repr

/-- The date of a day, counted from the first day of 1970. The year is taken to
start in March, so that the day of a leap year comes last; 146097 days are 400
years. -/
def dateOf (days : Int) : Date :=
  let shifted := days + 719468
  let era := shifted.fdiv 146097
  let dayOfEra := (shifted.fmod 146097).toNat
  let yearOfEra :=
    (dayOfEra - dayOfEra / 1460 + dayOfEra / 36524 - dayOfEra / 146096) / 365
  let dayOfYear := dayOfEra - (365 * yearOfEra + yearOfEra / 4 - yearOfEra / 100)
  let monthIndex := (5 * dayOfYear + 2) / 153
  let day := dayOfYear - (153 * monthIndex + 2) / 5 + 1
  let month := if monthIndex < 10 then monthIndex + 3 else monthIndex - 9
  let year := yearOfEra + era * 400
  ⟨if month ≤ 2 then year + 1 else year, month, day⟩

def perSecond : Int := 1000000

structure Moment where
  date : Date
  hour : Nat
  minute : Nat
  second : Nat
  micros : Nat
deriving DecidableEq, Repr

def momentOf (micros : Int) : Moment :=
  let seconds := micros.fdiv perSecond
  let ofDay := (seconds.fmod 86400).toNat
  { date := dateOf (seconds.fdiv 86400)
    hour := ofDay / 3600
    minute := ofDay / 60 % 60
    second := ofDay % 60
    micros := (micros.fmod perSecond).toNat }

/-- The digits of a number, filled up with zeros. -/
def digits (width n : Nat) : List Char :=
  padZeros width (decimalDigits n)

def Date.text (date : Date) : List Char :=
  digits 4 date.year.toNat ++ '-' :: digits 2 date.month ++ '-' :: digits 2 date.day

def Moment.timeText (moment : Moment) : List Char :=
  digits 2 moment.hour ++ ':' :: digits 2 moment.minute ++
    ':' :: digits 2 moment.second

/-- The text of a point in time, without the zone. Fractions of a second are given
only where there are any. -/
def Moment.text (moment : Moment) : List Char :=
  moment.date.text ++ 'T' :: moment.timeText ++
    (if moment.micros = 0 then [] else '.' :: digits 6 moment.micros)

def timestamp (micros : Int) : String :=
  String.ofList ((momentOf micros).text ++ "+00:00".toList)

end HostLifecycle.Clock
