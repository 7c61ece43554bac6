/-!
Binary floating-point numbers of 64 bits. A finite number is a sign, a mantissa
and a power of two; every operation computes its exact result over the integers
and rounds it once, to the nearest number and on a tie to the even mantissa.
-/

namespace HostLifecycle.Number

/-- A floating-point number. A finite one is `mantissa * 2 ^ exponent`, where the
mantissa has at most 53 bits, and fewer only with the least exponent, -1074. -/
inductive Binary64 where
  | nan
  | infinite (negative : Bool)
  | finite (negative : Bool) (mantissa : Nat) (exponent : Int)
deriving DecidableEq, Repr, Inhabited

/-- The quotient rounded to the nearest natural number, a tie to the even one. -/
def roundDiv (numerator denominator : Nat) : Nat :=
  let quotient := numerator / denominator
  let twice := 2 * (numerator % denominator)
  if twice < denominator then quotient
  else if denominator < twice then quotient + 1
  else quotient + quotient % 2

namespace Binary64

def zero : Binary64 := .finite false 0 (-1074)

/-- The number nearest to `numerator / denominator`, with the given sign. A
result of 2 ^ 1024 or more is infinite. -/
def ofRatio (negative : Bool) (numerator denominator : Nat) : Binary64 :=
  if numerator = 0 then .finite negative 0 (-1074)
  else
    let scaled (e : Int) : Nat × Nat :=
      (numerator * Nat.pow 2 (-e).toNat, denominator * Nat.pow 2 e.toNat)
    let guess : Int := (Nat.log2 numerator : Int) - Nat.log2 denominator - 53
    let fits (e : Int) : Bool := (scaled e).1 < Nat.pow 2 53 * (scaled e).2
    let least := if fits guess then guess else if fits (guess + 1) then guess + 1
      else guess + 2
    let exponent := max least (-1074)
    let mantissa := roundDiv (scaled exponent).1 (scaled exponent).2
    let (mantissa, exponent) :=
      if mantissa = Nat.pow 2 53 then (Nat.pow 2 52, exponent + 1) else (mantissa, exponent)
    if exponent > 971 then .infinite negative
    else .finite negative mantissa exponent

/-- The number of decimal digits of a natural number; zero has one. -/
def decimalLength (n : Nat) : Nat :=
  (Nat.toDigits 10 n).length

/-- The number nearest to `digits * 10 ^ power`. Beyond ten to the 310th it is
infinite and below ten to the -330th it is zero, whatever the digits. -/
def ofDecimal (negative : Bool) (digits : Nat) (power : Int) : Binary64 :=
  let magnitude := power + decimalLength digits
  if digits = 0 || magnitude < -330 then .finite negative 0 (-1074)
  else if magnitude > 310 then .infinite negative
  else ofRatio negative (digits * Nat.pow 10 power.toNat) (Nat.pow 10 (-power).toNat)

/-- The number nearest to an integer, or none if that is infinite. -/
def ofInt? (n : Int) : Option Binary64 :=
  match ofRatio (n < 0) n.natAbs 1 with
  | .infinite _ => none
  | x => some x

def isZero : Binary64 → Bool
  | .finite _ m _ => m == 0
  | _ => false

/-- The sign bit. Not a number has none. -/
def isNegative : Binary64 → Bool
  | .nan => false
  | .infinite s => s
  | .finite s _ _ => s

private def signed (negative : Bool) (n : Nat) : Int :=
  if negative then -(n : Int) else n

/-- A finite number as a quotient of integers. -/
def ratio (negative : Bool) (mantissa : Nat) (exponent : Int) : Int × Nat :=
  (signed negative (mantissa * Nat.pow 2 exponent.toNat), Nat.pow 2 (-exponent).toNat)

/-- Equality of values: the two zeros are equal, and not a number differs from
everything. -/
def equal : Binary64 → Binary64 → Bool
  | .finite s m e, .finite t n f =>
    let (a, b) := ratio s m e
    let (c, d) := ratio t n f
    a * d == c * b
  | .infinite s, .infinite t => s == t
  | _, _ => false

/-- Whether the number has exactly the value of an integer. -/
def equalsInt : Binary64 → Int → Bool
  | .finite s m e, n =>
    let (a, b) := ratio s m e
    a == n * b
  | _, _ => false

/-- Whether the first number is less than the second one. Not a number is neither less nor
greater than anything. -/
def less : Binary64 → Binary64 → Bool
  | .finite s m e, .finite t n f =>
    let (a, b) := ratio s m e
    let (c, d) := ratio t n f
    a * d < c * b
  | .infinite s, .infinite t => s && !t
  | .infinite s, .finite .. => s
  | .finite .., .infinite t => !t
  | _, _ => false

def lessThanInt : Binary64 → Int → Bool
  | .finite s m e, n =>
    let (a, b) := ratio s m e
    a < n * b
  | .infinite s, _ => s
  | .nan, _ => false

def greaterThanInt : Binary64 → Int → Bool
  | .finite s m e, n =>
    let (a, b) := ratio s m e
    n * b < a
  | .infinite s, _ => !s
  | .nan, _ => false

/-- The integer part of a finite number, rounded toward zero. -/
def truncate? : Binary64 → Option Int
  | .finite s m e => some (signed s (m * Nat.pow 2 e.toNat / Nat.pow 2 (-e).toNat))
  | _ => none

/-- The greatest integer that a finite number reaches. -/
def floor? : Binary64 → Option Int
  | .finite s m e => some ((ratio s m e).1 / (ratio s m e).2)
  | _ => none

/-- What is left of a finite number without its integer part. -/
def fraction : Binary64 → Binary64
  | .finite s m e => ofRatio s (m * Nat.pow 2 e.toNat % Nat.pow 2 (-e).toNat) (Nat.pow 2 (-e).toNat)
  | x => x

/-- The integer nearest to a finite number, a tie to the even one. -/
def nearest? : Binary64 → Option Int
  | .finite s m e => some (signed s (roundDiv (m * Nat.pow 2 e.toNat) (Nat.pow 2 (-e).toNat)))
  | _ => none

/-- The exact sum of two numbers, rounded. The sum of opposite infinities is not
a number, and a sum of exactly zero is positive unless both terms are negative. -/
def add : Binary64 → Binary64 → Binary64
  | .finite s m e, .finite t n f =>
    let (a, b) := ratio s m e
    let (c, d) := ratio t n f
    let sum := a * d + c * b
    let negative := if sum = 0 then s && t else sum < 0
    ofRatio negative sum.natAbs (b * d)
  | .infinite s, .infinite t => if s = t then .infinite s else .nan
  | .infinite s, .finite .. => .infinite s
  | .finite .., .infinite t => .infinite t
  | _, _ => .nan

/-- The exact product with a natural number, rounded. -/
def mulNat : Binary64 → Nat → Binary64
  | .finite s m e, n =>
    ofRatio s (m * n * Nat.pow 2 e.toNat) (Nat.pow 2 (-e).toNat)
  | .infinite s, n => if n = 0 then .nan else .infinite s
  | .nan, _ => .nan

end Binary64

end HostLifecycle.Number
