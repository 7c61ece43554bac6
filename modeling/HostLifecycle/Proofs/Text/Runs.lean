import HostLifecycle.Text.Blank
import Mathlib.Data.List.TakeWhile

/-!
Runs of a class. A run of members ends where something else follows it, so a row that starts with
one is cut at its end and nowhere else. What stands around a row is dropped again if it is made of
members only.
-/

namespace HostLifecycle.Text

variable {α : Type} {inClass : α → Bool} {run rest : List α}

/-- A run of a class ends where something else follows. -/
theorem takeWhile_run (hrun : ∀ x ∈ run, inClass x = true)
    (hrest : ∀ x ∈ rest.head?, inClass x = false) : (run ++ rest).takeWhile inClass = run := by
  rw [List.takeWhile_append_of_pos hrun]
  cases rest with
  | nil => simp
  | cons x rest => simp [hrest x rfl]

theorem dropWhile_run (hrun : ∀ x ∈ run, inClass x = true)
    (hrest : ∀ x ∈ rest.head?, inClass x = false) : (run ++ rest).dropWhile inClass = rest := by
  rw [List.dropWhile_append_of_pos hrun]
  cases rest with
  | nil => simp
  | cons x rest => simp [hrest x rfl]

/-- What does not hold an element ends ahead of it. -/
theorem exists_append_of_not_mem {lead behind front : List α} {x : α}
    (h : lead ++ rest = front ++ x :: behind) (hx : x ∉ lead) : ∃ more, front = lead ++ more := by
  rcases List.append_eq_append_iff.mp h with ⟨more, hfront, -⟩ | ⟨extra, hlead, hextra⟩
  · exact ⟨more, hfront⟩
  · cases extra with
    | nil => exact ⟨[], by rw [hlead, List.append_nil, List.append_nil]⟩
    | cons first extra =>
      rw [List.cons_append, List.cons.injEq] at hextra
      exact absurd (hlead ▸ List.mem_append_right _ (hextra.1 ▸ List.mem_cons_self)) hx

theorem forall_mem_takeWhile (inClass : α → Bool) (row : List α) :
    ∀ x ∈ row.takeWhile inClass, inClass x = true :=
  List.all_eq_true.mp List.all_takeWhile

theorem head?_dropWhile (inClass : α → Bool) (row : List α) :
    ∀ x ∈ (row.dropWhile inClass).head?, inClass x = false := by
  intro x hx
  have h := List.head?_dropWhile_not inClass row
  rw [hx] at h
  simpa using h

/-- A run that is not empty starts with a member. -/
theorem head?_run (hne : run ≠ []) (hrun : ∀ x ∈ run, inClass x = true) :
    ∀ x ∈ (run ++ rest).head?, inClass x = true := by
  intro x hx
  cases run with
  | nil => contradiction
  | cons first run =>
    simp only [List.cons_append, List.head?_cons, Option.mem_def, Option.some.injEq] at hx
    exact hrun x (by simp [hx])

/-- Members at the end of a row are dropped with those that stand there already. -/
theorem dropEndWhile_append (row : List α) (hrun : ∀ x ∈ run, inClass x = true) :
    dropEndWhile inClass (row ++ run) = dropEndWhile inClass row := by
  have hreversed : ∀ x ∈ run.reverse, inClass x = true := by simpa using hrun
  rw [dropEndWhile, List.reverse_append, List.dropWhile_append_of_pos hreversed, dropEndWhile]

/-- Members around a row are dropped with those that stand there already. -/
theorem dropAroundWhile_append {before after : List α} (row : List α)
    (hbefore : ∀ x ∈ before, inClass x = true) (hafter : ∀ x ∈ after, inClass x = true) :
    dropAroundWhile inClass (before ++ row ++ after) = dropAroundWhile inClass row := by
  have hnone : after.dropWhile inClass = [] := List.dropWhile_eq_nil_iff.mpr hafter
  rw [dropAroundWhile, dropAroundWhile, List.append_assoc,
    List.dropWhile_append_of_pos hbefore, List.dropWhile_append]
  split
  next hempty => rw [hnone, List.isEmpty_iff.mp hempty]
  next => exact dropEndWhile_append _ hafter

end HostLifecycle.Text
