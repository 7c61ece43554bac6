import HostLifecycle.Number.Figures
import HostLifecycle.Template.Directive

/-!
The forms in which a directive writes a value: as a text, as an integer in base ten,
eight or sixteen, as a floating-point number, or as a single character.
-/

namespace HostLifecycle.Template

open Number

structure Shape where
  flags : Text
  width : Nat
  precision : Option Nat

namespace Shape

def has (shape : Shape) (flag : Char) : Bool := shape.flags.contains flag

def filling (shape : Shape) (length : Nat) (c : Char) : List Char :=
  List.replicate (shape.width - length) c

def placed (shape : Shape) (text : Text) : Text :=
  let blanks := Text.ofChars (shape.filling text.length ' ')
  if shape.has '-' then text ++ blanks else blanks ++ text

def sign (shape : Shape) (isNegative : Bool) : List Char :=
  if isNegative then ['-']
  else if shape.has '+' then ['+']
  else if shape.has ' ' then [' ']
  else []

/-- A number, filled up with blanks, or with zeros behind its sign and the mark of its
base. -/
def number (shape : Shape) (sign mark digits : List Char) : Text :=
  let whole := sign ++ mark ++ digits
  if shape.has '0' && !shape.has '-' then
    Text.ofChars (sign ++ mark ++ shape.filling whole.length '0' ++ digits)
  else shape.placed (Text.ofChars whole)

def text (shape : Shape) (text : Text) : Text :=
  shape.placed <| match shape.precision with
    | some n => text.take n
    | none => text

/-- An integer in a base, with at least as many digits as the precision says. -/
def integer (shape : Shape) (base : Nat) (mark : String) (n : Int) : Text :=
  let digits := padZeros (shape.precision.getD 0) (Nat.toDigits base n.natAbs)
  shape.number (shape.sign (n < 0)) (if shape.has '#' then mark.toList else []) digits

/-- A floating-point number, whose digits a function writes. -/
def float (shape : Shape) (digits : Nat → Bool → Nat → Int → List Char) (x : Binary64) :
    Text :=
  shape.number (shape.sign x.isNegative) [] <| match x with
    | .nan => "nan".toList
    | .infinite _ => "inf".toList
    | .finite _ m e => digits (shape.precision.getD 6) (shape.has '#') m e

end Shape

def capitals (text : Text) : Text := text.map (CodePoint.map Char.toUpper)

/-- The quoted form of a value in ASCII: any other character is given by its number. -/
def asciiQuoted (v : Value) : Text :=
  v.quoted.flatMap fun c => if c.toNat < 128 then [c] else Text.numberEscape c.toNat

def wholeOf (v : Value) : Except Fault Int :=
  match v with
  | .float x =>
    match x, x.truncate? with
    | _, some n => .ok n
    | .nan, none => .error (.invalid .notANumberToInteger)
    | _, none => .error .overflow
  | v =>
    match v.asInt? with
    | some n => .ok n
    | none => .error .wrongType

def integerOf (v : Value) : Except Fault Int :=
  match v.asInt? with
  | some n => .ok n
  | none => .error .wrongType

def floatOf (v : Value) : Except Fault Binary64 :=
  match v with
  | .float x => .ok x
  | v =>
    match v.asInt? with
    | none => .error .wrongType
    | some n =>
      match Binary64.ofInt? n with
      | some x => .ok x
      | none => .error .overflow

def pointOf (v : Value) : Except Fault CodePoint :=
  match v with
  | .str [c] => .ok c
  | .str _ => .error .wrongType
  | v =>
    match v.asInt? with
    | none => .error .wrongType
    | some n =>
      if 0 ≤ n ∧ n < 1114112 then .ok (.ofNat n.toNat) else .error .overflow

/-- Writes a value in the form that a letter at some place of the template stands
for. -/
def form (shape : Shape) (letter : CodePoint) (place : Nat) (v : Value) :
    Except Fault Text :=
  match letter with
  | .char 's' => .ok (shape.text v.text)
  | .char 'r' => .ok (shape.text v.quoted)
  | .char 'a' => .ok (shape.text (asciiQuoted v))
  | .char 'd' => (wholeOf v).map (shape.integer 10 "")
  | .char 'i' => (wholeOf v).map (shape.integer 10 "")
  | .char 'u' => (wholeOf v).map (shape.integer 10 "")
  | .char 'o' => (integerOf v).map (shape.integer 8 "0o")
  | .char 'x' => (integerOf v).map (shape.integer 16 "0x")
  | .char 'X' => (integerOf v).map fun n => capitals (shape.integer 16 "0x" n)
  | .char 'e' => (floatOf v).map (shape.float exponentForm)
  | .char 'E' => (floatOf v).map fun x => capitals (shape.float exponentForm x)
  | .char 'f' => (floatOf v).map (shape.float fixedText)
  | .char 'F' => (floatOf v).map fun x => capitals (shape.float fixedText x)
  | .char 'g' => (floatOf v).map (shape.float generalText)
  | .char 'G' => (floatOf v).map fun x => capitals (shape.float generalText x)
  | .char 'c' => (pointOf v).map fun c => shape.placed [c]
  | _ => .error (.invalid (.unsupportedFormat letter place))

end HostLifecycle.Template
