import HostLifecycle.Value
import HostLifecycle.Number.Shortest
import HostLifecycle.Text.CodePoint

/-!
Reading a value from JSON text. Besides the grammar of JSON the reader accepts
`NaN`, `Infinity` and `-Infinity`; a number with a point or an exponent is a
floating-point number, any other an integer. Where a name stands twice in an
object, the later value takes the place of the earlier one. A text that is not
JSON is refused with the place of its first defect.

Every function works on what is left of the text, so a defect is placed by the
number of characters that are left there.
-/

namespace HostLifecycle.Json

open Number

/-- What may be wrong with a text at one place. -/
inductive Defect where
  | expectedValue
  | expectedName
  | expectedColon
  | expectedComma
  | extraData
  | unterminatedString
  | controlCharacter
  | badEscape
  | badUnicodeEscape
  | byteOrderMark
deriving DecidableEq, Repr

def Defect.message : Defect → String
  | expectedValue => "Expecting value"
  | expectedName => "Expecting property name enclosed in double quotes"
  | expectedColon => "Expecting ':' delimiter"
  | expectedComma => "Expecting ',' delimiter"
  | extraData => "Extra data"
  | unterminatedString => "Unterminated string starting at"
  | controlCharacter => "Invalid control character at"
  | badEscape => "Invalid \\escape"
  | badUnicodeEscape => "Invalid \\uXXXX escape"
  | byteOrderMark => "Unexpected UTF-8 BOM (decode using utf-8-sig)"

/-- What holds other values: a list or an object in a text, or a value that is told. -/
inductive Container where
  | list
  | object
  | told
deriving DecidableEq, Repr

def Container.activity : Container → String
  | list => "decoding a JSON array from a unicode string"
  | object => "decoding a JSON object from a unicode string"
  | told => "getting the repr of an object"

/-- Why a text is not read: a defect, with the number of characters from there to
the end, an integer with more digits than are converted, or a container inside more
others than are followed. -/
inductive Refusal where
  | defect (cause : Defect) (left : Nat)
  | tooManyDigits (count : Nat)
  | tooDeep (container : Container)
deriving DecidableEq, Repr

/-- The characters that may stand between two parts of a JSON text. -/
def isGap (c : Char) : Bool :=
  c == ' ' || c == '\t' || c == '\n' || c == '\r'

def skipGap (text : List Char) : List Char :=
  text.dropWhile isGap

def hexValue? (c : Char) : Option Nat :=
  if '0' ≤ c ∧ c ≤ '9' then some (c.toNat - 48)
  else if 'a' ≤ c ∧ c ≤ 'f' then some (c.toNat - 87)
  else if 'A' ≤ c ∧ c ≤ 'F' then some (c.toNat - 55)
  else none

def unitValue? (a b c d : Char) : Option Nat := do
  let w ← hexValue? a
  let x ← hexValue? b
  let y ← hexValue? c
  let z ← hexValue? d
  pure (((w * 16 + x) * 16 + y) * 16 + z)

/-- The character behind a backslash that stands for a single character. -/
def unescape? : Char → Option Char
  | '"' => some '"'
  | '\\' => some '\\'
  | '/' => some '/'
  | 'b' => some '\x08'
  | 'f' => some '\x0c'
  | 'n' => some '\n'
  | 'r' => some '\r'
  | 't' => some '\t'
  | _ => none

/-- The second half that follows a first half, if the text holds an escape for
one with at least one more character behind it. -/
def secondHalf? : List Char → Except Refusal (Option Nat)
  | '\\' :: 'u' :: a :: b :: c :: d :: next :: rest =>
    match unitValue? a b c d with
    | some n => .ok (if Text.isLowHalf n then some n else none)
    | none => .error (.defect .badUnicodeEscape ((a :: b :: c :: d :: next :: rest).length + 1))
  | _ => .ok none

/-- Reads a string behind its opening quote; `opening` characters are left of the
text from that quote on. -/
def readString (opening : Nat) : List Char → Except Refusal (Text × List Char)
  | [] => .error (.defect .unterminatedString opening)
  | '"' :: rest => .ok ([], rest)
  | '\\' :: [] => .error (.defect .unterminatedString opening)
  | '\\' :: 'u' :: a :: b :: c :: d :: next :: rest =>
    match unitValue? a b c d with
    | none => .error (.defect .badUnicodeEscape (rest.length + 6))
    | some n => do
      let second ← if Text.isHighHalf n then secondHalf? (next :: rest) else pure none
      match second with
      | none =>
        let (chars, left) ← readString opening (next :: rest)
        pure (CodePoint.ofNat n :: chars, left)
      | some low =>
        match rest with
        | _ :: _ :: _ :: _ :: _ :: behind =>
          let (chars, left) ← readString opening behind
          pure (CodePoint.ofNat (Text.ofHalves n low) :: chars, left)
        | short => .error (.defect .badUnicodeEscape short.length)
  | '\\' :: 'u' :: rest => .error (.defect .badUnicodeEscape (rest.length + 1))
  | '\\' :: c :: rest =>
    match unescape? c with
    | none => .error (.defect .badEscape (rest.length + 2))
    | some c => do
      let (chars, left) ← readString opening rest
      pure (.char c :: chars, left)
  | c :: rest =>
    if c.toNat < 32 then .error (.defect .controlCharacter (rest.length + 1))
    else do
      let (chars, left) ← readString opening rest
      pure (.char c :: chars, left)

def digitsValue (digits : List Char) : Nat :=
  digits.foldl (fun n c => 10 * n + (c.toNat - 48)) 0

/-- The digits of a whole number at the start of a text: a zero alone, or digits
that do not start with one. -/
def wholeDigits : List Char → List Char
  | '0' :: _ => ['0']
  | text => text.takeWhile Char.isDigit

/-- The digits behind a point at the start of a text, if there are any. -/
def fractionDigits : List Char → List Char
  | '.' :: rest => rest.takeWhile Char.isDigit
  | _ => []

/-- The exponent at the start of a text, if there is one: whether it is negative,
its digits, and how many characters it takes. -/
def exponentDigits : List Char → Bool × List Char × Nat
  | e :: rest =>
    if e != 'e' && e != 'E' then (false, [], 0)
    else
      let (negative, signs, rest) := match rest with
        | '-' :: rest => (true, 1, rest)
        | '+' :: rest => (false, 1, rest)
        | _ => (false, 0, rest)
      let digits := rest.takeWhile Char.isDigit
      if digits.isEmpty then (false, [], 0)
      else (negative, digits, 1 + signs + digits.length)
  | [] => (false, [], 0)

def maximalDigits : Nat := 4300

/-- Reads a number, or nothing if none stands at the start of the text. -/
def readNumber (text : List Char) : Option (Except Refusal (Value × List Char)) :=
  let (negative, unsigned) := match text with
    | '-' :: rest => (true, rest)
    | _ => (false, text)
  let whole := wholeDigits unsigned
  if whole.isEmpty then none
  else
    let behindWhole := unsigned.drop whole.length
    let fraction := fractionDigits behindWhole
    let behindFraction :=
      if fraction.isEmpty then behindWhole else behindWhole.drop (1 + fraction.length)
    let (down, exponent, width) := exponentDigits behindFraction
    let left := behindFraction.drop width
    some <|
      if fraction.isEmpty && exponent.isEmpty then
        if whole.length > maximalDigits then .error (.tooManyDigits whole.length)
        else
          let n : Int := digitsValue whole
          .ok (.int (if negative then -n else n), left)
      else
        let power : Int := digitsValue exponent
        let shift := (if down then -power else power) - fraction.length
        .ok (.float (Binary64.ofDecimal negative (digitsValue (whole ++ fraction)) shift),
          left)

def words : List (String × Value) :=
  [("null", .null), ("true", .bool true), ("false", .bool false),
   ("NaN", .float .nan), ("Infinity", .float (.infinite false)),
   ("-Infinity", .float (.infinite true))]

/-- Reads one of the words, or nothing if none stands at the start of the text. -/
def readWord (text : List Char) : Option (Value × List Char) :=
  words.findSome? fun (word, value) =>
    if word.toList.isPrefixOf text then some (value, text.drop word.length) else none

def readPlain (text : List Char) : Except Refusal (Value × List Char) :=
  match readWord text with
  | some result => .ok result
  | none => (readNumber text).getD (.error (.defect .expectedValue text.length))

mutual

/-- Reads a value with containers of at most so many levels. The steps of the search
are bounded by `fuel`, which has to be more than the length of the text. -/
def readValue : (fuel levels : Nat) → List Char → Except Refusal (Value × List Char)
  | 0, _, text => .error (.defect .expectedValue text.length)
  | fuel + 1, levels, text =>
    match text with
    | '"' :: rest => do
      let (chars, left) ← readString text.length rest
      pure (.str chars, left)
    | '[' :: rest =>
      match levels, skipGap rest with
      | 0, _ => .error (.tooDeep .list)
      | _ + 1, ']' :: left => .ok (.list [], left)
      | levels + 1, inside => do
        let (items, left) ← readItems fuel levels inside
        pure (.list items, left)
    | '\x7b' :: rest =>
      match levels, skipGap rest with
      | 0, _ => .error (.tooDeep .object)
      | _ + 1, '\x7d' :: left => .ok (.object [], left)
      | levels + 1, inside => do
        let (pairs, left) ← readFields fuel levels inside
        pure (.object (Fields.ofPairs pairs), left)
    | text => readPlain text

def readItems :
    (fuel levels : Nat) → List Char → Except Refusal (List Value × List Char)
  | 0, _, text => .error (.defect .expectedValue text.length)
  | fuel + 1, levels, text => do
    let (item, left) ← readValue fuel levels text
    match skipGap left with
    | ']' :: left => pure ([item], left)
    | ',' :: left =>
      let (items, left) ← readItems fuel levels (skipGap left)
      pure (item :: items, left)
    | left => .error (.defect .expectedComma left.length)

def readFields :
    (fuel levels : Nat) → List Char → Except Refusal (List (Text × Value) × List Char)
  | 0, _, text => .error (.defect .expectedName text.length)
  | fuel + 1, levels, text =>
    match text with
    | '"' :: rest => do
      let (name, left) ← readString text.length rest
      match skipGap left with
      | ':' :: left =>
        let (value, left) ← readValue fuel levels (skipGap left)
        let field := (name, value)
        match skipGap left with
        | '\x7d' :: left => pure ([field], left)
        | ',' :: left =>
          let (fields, left) ← readFields fuel levels (skipGap left)
          pure (field :: fields, left)
        | left => .error (.defect .expectedComma left.length)
      | left => .error (.defect .expectedColon left.length)
    | text => .error (.defect .expectedName text.length)

end

/-- Reads a whole text as one value with gaps around it, with containers of at most
so many levels. -/
def readAll (levels : Nat) (text : List Char) : Except Refusal Value :=
  match text with
  | '\ufeff' :: _ => .error (.defect .byteOrderMark text.length)
  | _ => do
    let (value, left) ← readValue (text.length + 1) levels (skipGap text)
    match skipGap left with
    | [] => pure value
    | left => .error (.defect .extraData left.length)

def maximalLevels : Nat := 987

def read (text : String) : Except Refusal Value :=
  readAll maximalLevels text.toList

/-- The place of a character: its line, its column and its distance from the
start, where lines and columns are counted from one. -/
def placeText (text : List Char) (position : Nat) : String :=
  let before := text.take position
  let line := before.count '\n' + 1
  let column := (before.reverse.takeWhile (· != '\n')).length + 1
  "line " ++ integerText line ++ " column " ++ integerText column ++
    " (char " ++ integerText position ++ ")"

def digitsMessage (count : Nat) : String :=
  "Exceeds the limit (4300 digits) for integer string conversion: value has " ++
    integerText count ++
    " digits; use sys.set_int_max_str_digits() to increase the limit"

def depthMessage (container : Container) : String :=
  "maximum recursion depth exceeded while " ++ container.activity

def Refusal.message (text : String) : Refusal → String
  | .defect cause left =>
    cause.message ++ ": " ++ placeText text.toList (text.length - left)
  | .tooManyDigits count => digitsMessage count
  | .tooDeep container => depthMessage container

end HostLifecycle.Json
