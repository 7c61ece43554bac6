import HostLifecycle.Proofs.Attempt
import HostLifecycle.Proofs.Text.Runs
import HostLifecycle.Storage.Home

/-!
Paths that start at a home folder. Where every home is told from the root, a path is led to its
home once and for all: what it comes to starts at no home any more, whoever reads it.
-/

namespace HostLifecycle.Storage

open Attempt

def IsRooted (home : Text) : Prop := home.head? = some (.char '/')

theorem isRooted_accountHome {account home : Text} (h : accountHome account = .ok home) :
    IsRooted home := by
  have hhomes : ∀ entry ∈ accountHomes, IsRooted entry.2 := by
    unfold IsRooted
    decide
  unfold accountHome at h
  split at h
  · cases h
  · split at h
    · cases h
    · split at h
      next found hfound =>
        cases h
        rw [Fields.get?, Option.map_eq_some_iff] at hfound
        obtain ⟨entry, hentry, rfl⟩ := hfound
        exact hhomes entry (List.mem_of_find?_eq_some hentry)
      next => cases h

theorem isRooted_homeNamed {own : Option Text} (hown : ∀ home ∈ own, IsRooted home)
    {account home : Text} (h : homeNamed own account = .ok home) : IsRooted home := by
  unfold homeNamed at h
  split at h
  · cases h
    exact hown home rfl
  · exact isRooted_accountHome h
  · exact isRooted_accountHome h

namespace Path

variable {own other : Option Text} {path after : Path}

/-- A path from the root starts at no home. -/
theorem fromHome_of_root (hroot : path.root ≠ []) : path.fromHome own = .ok path := by
  unfold fromHome
  split
  next hnone _ => exact absurd hnone hroot
  next => rfl

theorem rootOf_ne_nil {text : Text} (h : IsRooted text) : rootOf text ≠ [] := by
  cases text with
  | nil => cases h
  | cons first rest =>
    cases h
    unfold rootOf
    split
    next hnone => simp at hnone
    next => exact List.cons_ne_nil _ _
    next => exact List.cons_ne_nil _ _

/-- The folder at a home that is told from the root is a path from the root. -/
theorem root_below {home : Text} {names : List Text} (hhome : IsRooted home)
    (h : below home names = .ok after) : after.root ≠ [] := by
  have hprefix : Text.dropEndWhile (· == CodePoint.char '/') home <+: home := by
    rw [← List.reverse_suffix, Text.dropEndWhile, List.reverse_reverse]
    exact List.dropWhile_suffix _
  unfold below at h
  split at h
  · cases h
    exact List.cons_ne_nil _ _
  · cases h
  next shortened hsome _ =>
    cases h
    refine rootOf_ne_nil ?_
    obtain ⟨first, rest, hshortened⟩ := List.exists_cons_of_ne_nil hsome
    obtain ⟨tail, htail⟩ := hprefix
    rw [hshortened, List.cons_append] at htail
    rw [IsRooted, ← htail] at hhome
    rw [hshortened]
    exact hhome

/-- A path that was led to its home stays where it is, whoever reads it. -/
theorem fromHome_settled (hown : ∀ home ∈ own, IsRooted home)
    (h : path.fromHome own = .ok after) : after.fromHome other = .ok after := by
  by_cases hhome : ∃ account names, path.root = [] ∧
      path.names = (CodePoint.char '~' :: account) :: names
  · obtain ⟨account, names, hroot, hnames⟩ := hhome
    simp only [fromHome, hroot, hnames] at h
    obtain ⟨home, hnamed, hbelow⟩ := exists_of_bind_ok h
    exact fromHome_of_root (root_below (isRooted_homeNamed hown hnamed) hbelow)
  · have hstays : ∀ own, path.fromHome own = .ok path := by
      intro own
      unfold fromHome
      split
      next account names hroot hnames => exact absurd ⟨account, names, hroot, hnames⟩ hhome
      next => rfl
    rw [hstays] at h
    cases h
    exact hstays other

end Path

end HostLifecycle.Storage
