import HostLifecycle.Text.CodePoint
import HostLifecycle.Text.Ranges

/-!
White space: the Unicode property White_Space and the four separator controls
U+001C to U+001F. Stripping removes it at both ends of a text.
-/

namespace HostLifecycle.Text

def blankTable : List (Nat × Nat) :=
  [(9, 13), (28, 32), (133, 133), (160, 160), (5760, 5760), (8192, 8202),
   (8232, 8233), (8239, 8239), (8287, 8287), (12288, 12288)]

def isBlank (c : Char) : Bool :=
  inRanges blankTable c.toNat

theorem bounds_of_inRanges_blankTable {n : Nat} (h : inRanges blankTable n = true) :
    n ≤ 32 ∨ n = 133 ∨ n = 160 ∨ n = 5760 ∨ 8192 ≤ n ∧ n ≤ 8287 ∨ n = 12288 := by
  simp [blankTable, inRanges] at h
  omega

def dropEndWhile {α : Type} (inClass : α → Bool) (row : List α) : List α :=
  (row.reverse.dropWhile inClass).reverse

def dropAroundWhile {α : Type} (inClass : α → Bool) (row : List α) : List α :=
  dropEndWhile inClass (row.dropWhile inClass)

def strip (text : Text) : Text :=
  dropAroundWhile (CodePoint.isIn isBlank) text

/-- White space at the ends of a number. The separator controls are not among it. -/
def isPadding (c : Char) : Bool :=
  isBlank c && !(28 ≤ c.toNat && c.toNat ≤ 31)

/-- The text of a number without the white space around it. -/
def trim (text : List Char) : List Char :=
  dropAroundWhile isPadding text

end HostLifecycle.Text
