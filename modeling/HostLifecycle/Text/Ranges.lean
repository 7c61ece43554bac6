/-!
Classes of characters as closed ranges of code points. A table is ascending and
its ranges are apart, so a search may stop at the first range above the point.
-/

namespace HostLifecycle.Text

/-- Whether a code point lies in one of the ranges of an ascending table. -/
def inRanges : List (Nat × Nat) → Nat → Bool
  | [], _ => false
  | (low, high) :: rest, n =>
    if n < low then false else n ≤ high || inRanges rest n

/-- The ranges of a table are not empty, ascend and are apart. -/
def Ascending : List (Nat × Nat) → Prop
  | [] => True
  | [(low, high)] => low ≤ high
  | (low, high) :: next :: rest =>
    low ≤ high ∧ high + 1 < next.1 ∧ Ascending (next :: rest)

instance decidableAscending : (table : List (Nat × Nat)) → Decidable (Ascending table)
  | [] => inferInstanceAs (Decidable True)
  | [(low, high)] => inferInstanceAs (Decidable (low ≤ high))
  | (low, high) :: next :: rest =>
    let := decidableAscending (next :: rest)
    inferInstanceAs (Decidable (low ≤ high ∧ high + 1 < next.1 ∧ _))

end HostLifecycle.Text
