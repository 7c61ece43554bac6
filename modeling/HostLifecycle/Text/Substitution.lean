import HostLifecycle.Text.CodePoint

/-!
Replacing parts of a text from left to right. A rule looks at the character before
a place and at the text from there on, and may claim a number of characters for a
replacement. The leftmost claim wins, and the search goes on behind it.
-/

namespace HostLifecycle.Text

/-- What a rule claims at a place: how many characters, and what replaces them. -/
structure Claim where
  width : Nat
  replacement : Text
deriving DecidableEq, Repr

/-- A rule for replacing parts of a text. Claims of no characters are ignored. -/
abbrev Rule := (before : Option CodePoint) → (text : Text) → Option Claim

/-- Applies a rule to a text whose first `skip` characters are claimed already. -/
def substituteFrom (rule : Rule) : (skip : Nat) → (before : Option CodePoint) →
    Text → Text
  | _, _, [] => []
  | skip + 1, _, c :: rest => substituteFrom rule skip (some c) rest
  | 0, before, c :: rest =>
    match rule before (c :: rest) with
    | some ⟨width + 1, replacement⟩ =>
      replacement ++ substituteFrom rule width (some c) rest
    | _ => c :: substituteFrom rule 0 (some c) rest

def substitute (rule : Rule) (text : Text) : Text :=
  substituteFrom rule 0 none text

/-- The text behind a given beginning, if it has that beginning. -/
def behind? : (start : Text) → Text → Option (Text)
  | [], text => some text
  | c :: start, d :: text => if c = d then behind? start text else none
  | _ :: _, [] => none

theorem behind?_append (start text : Text) :
    behind? start (start ++ text) = some text := by
  induction start with
  | nil => rfl
  | cons c start ih => simp [behind?, ih]

theorem eq_append_of_behind? {start text rest : Text}
    (h : behind? start text = some rest) : text = start ++ rest := by
  induction start generalizing text with
  | nil => simpa [behind?] using h
  | cons c start ih =>
    cases text with
    | nil => simp [behind?] at h
    | cons d text =>
      by_cases hcd : c = d
      · subst hcd
        simp only [behind?, ↓reduceIte] at h
        rw [ih h, List.cons_append]
      · simp [behind?, hcd] at h

end HostLifecycle.Text
