import HostLifecycle.Template.Form
import HostLifecycle.Value.Member

/-!
Filling values into a template. The values are taken in order, or by a key from the
mapping that is given in their place. Every value has to be used, but a mapping need
not be.
-/

namespace HostLifecycle.Template

/-- What is filled in: the values that are not used yet, and the mapping in which
keys are looked up. -/
structure Supply where
  pending : List Value
  mapping : Option Value

namespace Supply

def row (values : List Value) : Supply := ⟨values, none⟩

/-- One value. What has parts under keys stands for the mapping as well. -/
def single (v : Value) : Supply :=
  match v with
  | .list _ => ⟨[v], some v⟩
  | .object _ => ⟨[v], some v⟩
  | .mapping _ => ⟨[v], some v⟩
  | v => ⟨[v], none⟩

def next (supply : Supply) : Except Fault (Value × Supply) :=
  match supply.pending with
  | [] => .error .wrongType
  | v :: rest => .ok (v, { supply with pending := rest })

def choose (supply : Supply) (key : Text) : Except Fault Supply :=
  match supply.mapping with
  | none => .error .wrongType
  | some mapping => (mapping.member key).map fun v => { supply with pending := [v] }

/-- Puts the value of a key first, if a directive has one. A key that is broken off
still needs a mapping. -/
def forKey (supply : Supply) (d : Directive) : Except Fault Supply :=
  match d.key with
  | some key => supply.choose key
  | none => .ok supply

def isUsed (supply : Supply) : Bool :=
  supply.pending.isEmpty || supply.mapping.isSome

end Supply

def maximalWidth : Nat := Nat.pow 2 63 - 1

def maximalPrecision : Nat := Nat.pow 2 31 - 1

/-- The number that a count stands for, and what is left of the supply. -/
def countOf (limit : Nat) (excess : InvalidValue) (count : Option Count)
    (supply : Supply) : Except Fault (Option Int × Supply) :=
  match count with
  | none => .ok (none, supply)
  | some (.given n) =>
    if n ≤ limit then .ok (some n, supply) else .error (.invalid excess)
  | some .taken => do
    let (v, supply) ← supply.next
    let n ← integerOf v
    if -(limit : Int) ≤ n + 1 ∧ n ≤ limit then pure (some n, supply) else .error .overflow

/-- The shape that a directive asks for, and what is left of the supply. A negative
width sets the flag for the left side. -/
def shapeOf (d : Directive) (supply : Supply) : Except Fault (Shape × Supply) := do
  let supply ← supply.forKey d
  let (width, supply) ← countOf maximalWidth .excessiveWidth d.width supply
  let (precision, supply) ← countOf maximalPrecision .excessivePrecision d.precision supply
  let isLeft := (width.getD 0) < 0
  pure (⟨if isLeft then .char '-' :: d.flags else d.flags, (width.getD 0).natAbs,
    precision.map Int.toNat⟩, supply)

/-- What is wrong with a directive that is broken off in some part. -/
def defectOf (part : Part) (supply : Supply) : Fault :=
  match part with
  | .key _ _ => if supply.mapping.isSome then .invalid .incompleteKey else .wrongType
  | _ => .invalid .incompleteFormat

/-- The largest number of characters for which there is memory. -/
def feasibleLength : Nat := Nat.pow 10 7

def maximalDigits : Nat := maximalPrecision - 3

def isInteger (letter : CodePoint) : Bool := letter.isIn ['d', 'i', 'u', 'o', 'x', 'X'].contains

/-- Whether a value takes as many characters as the precision says. -/
def isFilled (shape : Shape) (letter : CodePoint) (v : Value) : Bool :=
  if isInteger letter then true
  else
    match floatOf v with
    | .ok (.finite _ _ _) =>
      letter.isIn ['e', 'E', 'f', 'F'].contains ||
        letter.isIn ['g', 'G'].contains && shape.has '#'
    | _ => false

def isFeasible (shape : Shape) (letter : CodePoint) (v : Value) : Bool :=
  shape.width ≤ feasibleLength &&
    (shape.precision.getD 0 ≤ feasibleLength || !isFilled shape letter v)

/-- What keeps from a value in a form if there is no memory for it. -/
def excessOf (shape : Shape) (letter : CodePoint) : Fault :=
  if isInteger letter && shape.precision.getD 0 > maximalDigits then .overflow
  else .outOfMemory

/-- Writes a value in a form, if there is memory for it. A value that has no such form
is refused first. -/
def formWithin (shape : Shape) (letter : CodePoint) (place : Nat) (v : Value) :
    Except Fault Text :=
  if isFeasible shape letter v then form shape letter place v
  else do
    let _ ← form { shape with width := 0, precision := none } letter place v
    .error (excessOf shape letter)

def fillPieces (supply : Supply) : List Piece → Except Fault Text
  | [] => if supply.isUsed then .ok [] else .error .wrongType
  | .plain c :: rest => do
    let text ← fillPieces supply rest
    pure (c :: text)
  | .broken d part :: _ => do
    let (_, supply) ← shapeOf d supply
    .error (defectOf part supply)
  | .directive d letter place :: rest => do
    let (shape, supply) ← shapeOf d supply
    let (v, supply) ← supply.next
    let written ← formWithin shape letter place v
    let text ← fillPieces supply rest
    pure (written ++ text)

def fill (template : Text) (supply : Supply) : Except Fault Text :=
  fillPieces supply (pieces template)

end HostLifecycle.Template
