import HostLifecycle.Text.CodePoint
import HostLifecycle.Text.LowerTable
import HostLifecycle.Text.Ranges

/-!
Lower-casing of a text, character by character except for two: the dotted
capital I becomes two characters, and a capital sigma has a form of its own at
the end of a word.
-/

namespace HostLifecycle.Text

/-- The code point that a table of runs assigns to a code point. -/
def shiftBy : List (Nat × Nat × Nat × Int) → Nat → Nat
  | [], n => n
  | (first, last, step, shift) :: rest, n =>
    if n < first then n
    else if n ≤ last && (n - first) % step == 0 then (n + shift).toNat
    else shiftBy rest n

def lowerChar (c : Char) : Char :=
  if c.toNat < 128 then c.toLower
  else Char.ofNat (shiftBy lowerTable c.toNat)

private def isPassed (c : CodePoint) : Bool :=
  inRanges passedTable c.toNat

private def isCased (c : CodePoint) : Bool :=
  inRanges casedTable c.toNat

/-- Whether the nearest character that is not passed over has case. -/
def nearestCased (text : Text) : Bool :=
  match text.dropWhile isPassed with
  | [] => false
  | c :: _ => isCased c

/-- Lower-cases a text that follows the given characters, nearest first. -/
def lowerAfter (before : Text) : Text → Text
  | [] => []
  | c :: rest =>
    let lowered : Text :=
      if c == 'İ' then ['i', '\u0307']
      else if c == 'Σ' then
        [if nearestCased before && !nearestCased rest then 'ς' else 'σ']
      else [c.map lowerChar]
    lowered ++ lowerAfter (c :: before) rest

def lower (text : Text) : Text :=
  lowerAfter [] text

end HostLifecycle.Text
