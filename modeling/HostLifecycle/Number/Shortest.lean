import HostLifecycle.Number.Binary64

/-!
The decimal text of a floating-point number: the fewest digits that round back
to it, and among those the nearest. A number whose leading digit stands between
ten to the -4th and ten to the 15th is written in full, any other with an
exponent of at least two digits.
-/

namespace HostLifecycle.Number

structure Decimal where
  digits : Nat
  power : Int
deriving DecidableEq, Repr, Inhabited

def onGrid (mantissa : Nat) (exponent power : Int) : Nat × Nat :=
  (mantissa * Nat.pow 2 exponent.toNat * Nat.pow 10 (-power).toNat,
   Nat.pow 2 (-exponent).toNat * Nat.pow 10 power.toNat)

/-- The least power of ten above the number, which must not be zero. -/
def scaleOf (mantissa : Nat) (exponent : Int) : Int :=
  let guess := (((Nat.log2 mantissa : Int) + exponent) * 30103).fdiv 100000
  let above (k : Int) : Bool :=
    let (n, d) := onGrid mantissa exponent k
    n < d
  [guess - 1, guess, guess + 1, guess + 2].find? above |>.getD (guess + 3)

/-- Whether a decimal rounds to the number: it lies no further than halfway to
the neighbours, and on the halfway points only if the mantissa is even. -/
def readsBack (mantissa : Nat) (exponent : Int) (x : Decimal) : Bool :=
  let narrow := mantissa == Nat.pow 2 52 && exponent > -1074
  let low := if narrow then 4 * mantissa - 1 else 4 * mantissa - 2
  let high := 4 * mantissa + 2
  let (n, d) := onGrid 1 (exponent - 2) x.power
  let even := mantissa % 2 == 0
  let value := x.digits * d
  (low * n < value || even && low * n == value) &&
    (value < high * n || even && value == high * n)

/-- The decimal with a given number of digits that rounds to the number and is
nearest to it, a tie going to the even digit. -/
def candidate? (mantissa : Nat) (exponent scale : Int) (count : Nat) :
    Option Decimal :=
  let power := scale - count
  let (n, d) := onGrid mantissa exponent power
  let nearest : Decimal := ⟨roundDiv n d, power⟩
  let below : Decimal := ⟨n / d, power⟩
  let above : Decimal := ⟨n / d + 1, power⟩
  [nearest, below, above].find? (readsBack mantissa exponent)

def dropZeros : (fuel : Nat) → Decimal → Decimal
  | 0, x => x
  | fuel + 1, x =>
    if x.digits % 10 = 0 && x.digits ≠ 0 then
      dropZeros fuel ⟨x.digits / 10, x.power + 1⟩
    else x

/-- The shortest decimal that rounds to a finite number other than zero. Seventeen
digits always suffice. -/
def shortest (mantissa : Nat) (exponent : Int) : Decimal :=
  let scale := scaleOf mantissa exponent
  let found := (List.range 17).findSome? fun i =>
    candidate? mantissa exponent scale (i + 1)
  dropZeros 20 (found.getD ⟨0, 0⟩)

def decimalDigits (n : Nat) : List Char :=
  Nat.toDigits 10 n

/-- The text of an integer: its digits behind a minus sign where needed. -/
def integerText (n : Int) : String :=
  String.ofList ((if n < 0 then ['-'] else []) ++ decimalDigits n.natAbs)

/-- The text of a number of digits filled up with zeros on the left. -/
def padZeros (width : Nat) (digits : List Char) : List Char :=
  List.replicate (width - digits.length) '0' ++ digits

/-- The exponent of ten behind its letter: a sign and at least two digits. -/
def exponentText (exponent : Int) : List Char :=
  (if exponent < 0 then '-' else '+') ::
    padZeros 2 (decimalDigits exponent.natAbs)

/-- The digits of a positive decimal with its point set, and `.0` at the end of a
whole number. -/
def decimalText (x : Decimal) : List Char :=
  let digits := decimalDigits x.digits
  let point : Int := digits.length + x.power
  if -4 < point && point ≤ 16 then
    if point ≤ 0 then
      '0' :: '.' :: List.replicate (-point).toNat '0' ++ digits
    else if point ≥ digits.length then
      digits ++ List.replicate x.power.toNat '0' ++ ['.', '0']
    else
      digits.take point.toNat ++ '.' :: digits.drop point.toNat
  else
    let fraction := digits.drop 1
    digits.take 1 ++ (if fraction.isEmpty then [] else '.' :: fraction) ++
      'e' :: exponentText (point - 1)

def Binary64.text : Binary64 → String
  | .nan => "nan"
  | .infinite false => "inf"
  | .infinite true => "-inf"
  | .finite negative mantissa exponent =>
    let sign := if negative then ['-'] else []
    let body :=
      if mantissa = 0 then ['0', '.', '0']
      else decimalText (shortest mantissa exponent)
    String.ofList (sign ++ body)

end HostLifecycle.Number
