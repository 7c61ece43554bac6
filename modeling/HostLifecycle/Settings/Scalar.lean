import HostLifecycle.Json.Reader
import HostLifecycle.Settings.Issue
import HostLifecycle.Text.Blank

/-!
Reading the value of a setting. A text is read as a truth value or as a number,
since a variable of the environment holds nothing else.
-/

namespace HostLifecycle.Settings

open Number

/-- Whether two texts differ at most in the case of their letters of ASCII. -/
def sameIgnoringCase (a b : Text) : Bool :=
  a.map (CodePoint.map Char.toLower) == b.map (CodePoint.map Char.toLower)

def boolOfText? (text : Text) : Option Bool :=
  let isAmong (names : List Text) : Bool := names.any (sameIgnoringCase text)
  if isAmong ["1", "true", "t", "yes", "y", "on"] then some true
  else if isAmong ["0", "false", "f", "no", "n", "off"] then some false
  else none

def isWord (n : Int) : Bool :=
  -9223372036854775808 ≤ n && n < 9223372036854775808

/-- Whether a number fits a signed word of 64 bits and is not the least of them, which a
floating-point number cannot be told from its neighbours. -/
def isInnerWord (n : Int) : Bool :=
  -9223372036854775808 < n && n < 9223372036854775808

/-- The truth value of a number that is 0 or 1. A number beyond a word is not looked
at. -/
def boolOfInt (n : Int) : Except IssueCause Bool :=
  if !isWord n then .error .notBool
  else if n = 1 then .ok true
  else if n = 0 then .ok false
  else .error .unreadableBool

def readBool : Value → Except IssueCause Bool
  | .bool b => .ok b
  | .str s => (boolOfText? s).elim (.error .unreadableBool) .ok
  | .int n => boolOfInt n
  | .float x =>
    match x.truncate? with
    | some n => if x.equalsInt n && isInnerWord n then boolOfInt n else .error .notBool
    | none => .error .notBool
  | _ => .error .notBool

/-- The text without the sign in front, and whether that was a minus sign. -/
def splitSign : List Char → Bool × List Char
  | '-' :: rest => (true, rest)
  | '+' :: rest => (false, rest)
  | text => (false, text)

/-- What follows zeros, with low lines among them, in front of a number, which may have
its minus sign there. The last zero stays if nothing or a point follows. -/
def behindZeros (last : Char) : List Char → Option (List Char)
  | [] => some [last]
  | c :: rest =>
    if c == '0' || c == '_' then behindZeros c rest
    else if c.isDigit || c == '-' then some (c :: rest)
    else if c == '.' then some (last :: c :: rest)
    else none

def dropLeadingZeros : List Char → Option (List Char)
  | '0' :: rest => behindZeros '0' rest
  | c :: rest => if c.isDigit then some (c :: rest) else none
  | [] => none

def dropFraction (text : List Char) : List Char :=
  let whole := text.takeWhile (· != '.')
  let fraction := (text.dropWhile (· != '.')).drop 1
  if !fraction.isEmpty && fraction.all (· == '0') then whole else text

/-- Whether two low lines stand side by side. -/
def hasDoubleJoint : List Char → Bool
  | '_' :: '_' :: _ => true
  | _ :: rest => hasDoubleJoint rest
  | [] => false

/-- The number without the low lines between its digits. -/
def dropJoints (text : List Char) : List Char :=
  if text.head? == some '_' || text.getLast? == some '_' || hasDoubleJoint text then text
  else text.filter (· != '_')

/-- Reads digits as an integer. More than one digit may not start with a zero. -/
def readDigits (isNegative : Bool) (digits : List Char) : Except IssueCause Int :=
  let whole := Json.wholeDigits digits
  let n : Int := Json.digitsValue whole
  if whole.length > Json.maximalDigits then .error .oversizedInt
  else if whole.isEmpty || whole.length ≠ digits.length then .error .unreadableInt
  else .ok (if isNegative then -n else n)

/-- Reads an integer from characters. The sign stands in front of zeros or behind them. -/
def readIntChars (chars : List Char) : Except IssueCause Int :=
  let (isNegative, unsigned) := splitSign (Text.trim chars)
  match isNegative, (dropLeadingZeros unsigned).map (dropJoints ∘ dropFraction) with
  | _, none => .error .unreadableInt
  | false, some ('-' :: digits) => readDigits true digits
  | isNegative, some digits => readDigits isNegative digits

def readIntText (text : Text) : Except IssueCause Int :=
  match text.chars? with
  | some chars => readIntChars chars
  | none => .error .unreadableInt

def readInt : Value → Except IssueCause Int
  | .int n => .ok n
  | .bool b => .ok (if b then 1 else 0)
  | .str s => readIntText s
  | .float x =>
    match x.truncate? with
    | none => .error .infiniteInt
    | some n =>
      if !x.equalsInt n then .error .fractionalInt
      else if isInnerWord n then .ok n
      else .error .oversizedInt
  | _ => .error .notInt

def readText : Value → Except IssueCause Text
  | .str s => if s.isWhole then .ok s else .error .notUnicode
  | _ => .error .notString

end HostLifecycle.Settings
