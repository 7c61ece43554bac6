import HostLifecycle.Fault

/-!
The directives of a template. A directive starts at a percent sign and says how the
next value is written: an optional key in parentheses, flags, a width, a precision,
a letter for the size that means nothing, and at last the letter of the form. A
template is read one character at a time, so it is a row of pieces: plain characters
and directives, and perhaps a directive that the text breaks off.
-/

namespace HostLifecycle.Template

/-- A width or a precision: a number, or the next value. -/
inductive Count where
  | given (n : Nat)
  | taken
deriving DecidableEq, Repr

structure Directive where
  key : Option Text
  flags : Text
  width : Option Count
  precision : Option Count
deriving DecidableEq, Repr

def Directive.start : Directive := ⟨none, [], none, none⟩

/-- Which part of a directive is being read. A key knows how many parentheses are
open, and its characters in reverse. -/
inductive Part where
  | opening
  | key (isOpen : Nat) (read : Text)
  | flags
  | width
  | afterWidth
  | precisionStart
  | precision
  | afterPrecision
  | letter
deriving DecidableEq, Repr

/-- A piece of a template. A directive has its letter and the place of that; a broken
one has what was read of it. -/
inductive Piece where
  | plain (c : CodePoint)
  | directive (directive : Directive) (letter : CodePoint) (place : Nat)
  | broken (directive : Directive) (part : Part)
deriving DecidableEq, Repr

inductive Reading where
  | more (directive : Directive) (part : Part)
  | percent
  | finished (directive : Directive) (letter : CodePoint)
deriving DecidableEq, Repr

def isFlag (c : CodePoint) : Bool := c.isIn ['-', '+', ' ', '#', '0'].contains

def isDigit : CodePoint → Bool := CodePoint.isIn Char.isDigit

def digitOf (c : CodePoint) : Nat := c.toNat - '0'.toNat

def Count.extended (count : Option Count) (c : CodePoint) : Option Count :=
  match count with
  | some (.given n) => some (.given (10 * n + digitOf c))
  | count => count

namespace Directive

def readAfterPrecision (d : Directive) (c : CodePoint) : Reading :=
  if c.isIn ['h', 'l', 'L'].contains then .more d .letter else .finished d c

def readAfterWidth (d : Directive) (c : CodePoint) : Reading :=
  if c = '.' then .more { d with precision := some (.given 0) } .precisionStart
  else d.readAfterPrecision c

def readAfterFlags (d : Directive) (c : CodePoint) : Reading :=
  if c = '*' then .more { d with width := some .taken } .afterWidth
  else if isDigit c then .more { d with width := some (.given (digitOf c)) } .width
  else d.readAfterWidth c

/-- Reads a character behind the key, or behind the percent sign if there is none. -/
def readFlags (d : Directive) (c : CodePoint) : Reading :=
  if isFlag c then .more { d with flags := c :: d.flags } .flags else d.readAfterFlags c

/-- Reads a character of the key. The key ends with the parenthesis that closes the
first one. -/
def readKey (d : Directive) (isOpen : Nat) (read : Text) (c : CodePoint) : Reading :=
  if c = '(' then .more d (.key (isOpen + 1) (c :: read))
  else if c ≠ ')' then .more d (.key isOpen (c :: read))
  else if isOpen = 0 then .more { d with key := some read.reverse } .flags
  else .more d (.key (isOpen - 1) (c :: read))

def read (d : Directive) (part : Part) (c : CodePoint) : Reading :=
  match part with
  | .opening =>
    if c = '%' then .percent
    else if c = '(' then .more d (.key 0 [])
    else d.readFlags c
  | .key isOpen read => d.readKey isOpen read c
  | .flags => d.readFlags c
  | .width =>
    if isDigit c then .more { d with width := Count.extended d.width c } .width
    else d.readAfterWidth c
  | .afterWidth => d.readAfterWidth c
  | .precisionStart =>
    if c = '*' then .more { d with precision := some .taken } .afterPrecision
    else if isDigit c then .more { d with precision := some (.given (digitOf c)) } .precision
    else d.readAfterPrecision c
  | .precision =>
    if isDigit c then .more { d with precision := Count.extended d.precision c } .precision
    else d.readAfterPrecision c
  | .afterPrecision => d.readAfterPrecision c
  | .letter => .finished d c

end Directive

/-- The pieces of a text whose characters are counted from a place, inside a
directive if one is open. -/
def piecesFrom (place : Nat) (isInside : Option (Directive × Part)) :
    Text → List Piece
  | [] =>
    match isInside with
    | some (d, part) => [.broken d part]
    | none => []
  | c :: rest =>
    match isInside with
    | none =>
      if c = '%' then piecesFrom (place + 1) (some (.start, .opening)) rest
      else .plain c :: piecesFrom (place + 1) none rest
    | some (d, part) =>
      match d.read part c with
      | .more d part => piecesFrom (place + 1) (some (d, part)) rest
      | .percent => .plain '%' :: piecesFrom (place + 1) none rest
      | .finished d letter => .directive d letter place :: piecesFrom (place + 1) none rest

def pieces (text : Text) : List Piece :=
  piecesFrom 0 none text

end HostLifecycle.Template
