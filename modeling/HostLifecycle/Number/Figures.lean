import HostLifecycle.Number.Shortest

/-!
Floating-point numbers written with a given number of digits: so many behind the
point, so many behind the first digit of a power of ten, or so many in all. Each
form rounds the exact value once, a tie to the even digit. The sign is left to the
caller.
-/

namespace HostLifecycle.Number

/-- The leading digits of a number, and the power of ten of the first one. -/
structure Figures where
  digits : List Char
  power : Int
deriving DecidableEq, Repr

/-- The leading digits of a finite number, as many as are asked for. Zero has only
zeros. -/
def figures (count mantissa : Nat) (exponent : Int) : Figures :=
  if mantissa = 0 then ⟨List.replicate count '0', 0⟩
  else
    let scale := scaleOf mantissa exponent
    let (n, d) := onGrid mantissa exponent (scale - count)
    let rounded := roundDiv n d
    if rounded = Nat.pow 10 count then ⟨'1' :: List.replicate (count - 1) '0', scale⟩
    else ⟨decimalDigits rounded, scale - 1⟩

/-- The digits behind the point, with the point if there are any or if it is asked
for. -/
def fraction (isPointed : Bool) (digits : List Char) : List Char :=
  if digits.isEmpty && !isPointed then [] else '.' :: digits

/-- A number with a given number of digits behind the point. -/
def fixedText (places : Nat) (isPointed : Bool) (mantissa : Nat) (exponent : Int) :
    List Char :=
  let (n, d) := onGrid mantissa exponent (-places)
  let digits := padZeros (places + 1) (decimalDigits (roundDiv n d))
  digits.take (digits.length - places) ++
    fraction isPointed (digits.drop (digits.length - places))

/-- Digits with the point behind the first one, and a power of ten. -/
def scientificText (isPointed : Bool) (digits : List Char) (power : Int) : List Char :=
  digits.take 1 ++ fraction isPointed (digits.drop 1) ++ 'e' :: exponentText power

/-- A number with a given number of digits behind its first one. -/
def exponentForm (places : Nat) (isPointed : Bool) (mantissa : Nat) (exponent : Int) :
    List Char :=
  let leading := figures (places + 1) mantissa exponent
  scientificText isPointed leading.digits leading.power

def withoutZeros (digits : List Char) : List Char :=
  (digits.reverse.dropWhile (· == '0')).reverse

def positionalText (isPointed : Bool) (digits : List Char) (power : Int) : List Char :=
  if power < 0 then '0' :: '.' :: List.replicate (-power - 1).toNat '0' ++ digits
  else
    let whole := power.toNat + 1
    (digits ++ List.replicate (whole - digits.length) '0').take whole ++
      fraction isPointed (digits.drop whole)

/-- More digits than any finite number has, but for zeros at the end. -/
def allFigures : Nat := 1100

/-- A number with a given number of digits in all, at least one. Without a point
that is asked for, zeros at the end are left out. A power of ten is written where
the number is less than ten to the -4th or has more digits than are asked for. -/
def generalText (count : Nat) (isPointed : Bool) (mantissa : Nat) (exponent : Int) :
    List Char :=
  let count := max 1 count
  let leading := figures (if isPointed then count else min count allFigures) mantissa exponent
  let trimmed := withoutZeros leading.digits
  let digits := if isPointed then leading.digits else if trimmed.isEmpty then ['0'] else trimmed
  if leading.power < -4 || leading.power ≥ count then
    scientificText isPointed digits leading.power
  else positionalText isPointed digits leading.power

end HostLifecycle.Number
