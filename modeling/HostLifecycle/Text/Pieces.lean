/-!
Cutting a row at separators. There is always one piece more than there are separators,
and the pieces joined by separators are the row again.
-/

namespace HostLifecycle.Text

def pieces {α : Type} [DecidableEq α] (separator : α) : List α → List (List α)
  | [] => [[]]
  | c :: rest =>
    if c = separator then [] :: pieces separator rest
    else
      match pieces separator rest with
      | piece :: others => (c :: piece) :: others
      | [] => [[c]]

theorem pieces_ne_nil {α : Type} [DecidableEq α] (separator : α) (row : List α) :
    pieces separator row ≠ [] := by
  induction row with
  | nil => simp [pieces]
  | cons c rest ih =>
    by_cases h : c = separator
    · simp [pieces, h]
    · cases hrest : pieces separator rest with
      | nil => exact absurd hrest ih
      | cons piece others => simp [pieces, h, hrest]

theorem intercalate_pieces {α : Type} [DecidableEq α] (separator : α) (row : List α) :
    [separator].intercalate (pieces separator row) = row := by
  induction row with
  | nil => rfl
  | cons c rest ih =>
    cases hrest : pieces separator rest with
    | nil => exact absurd hrest (pieces_ne_nil separator rest)
    | cons piece others =>
      rw [hrest] at ih
      by_cases h : c = separator
      · simpa [pieces, h, hrest, List.intercalate] using ih
      · cases others <;>
          simp_all [pieces, List.intercalate, List.intersperse]

/-- What holds no separator is one piece, whatever stands behind the next one. -/
theorem pieces_append {α : Type} [DecidableEq α] {separator : α} {row : List α}
    (h : separator ∉ row) (rest : List α) :
    pieces separator (row ++ separator :: rest) = row :: pieces separator rest := by
  induction row with
  | nil => simp [pieces]
  | cons c row ih =>
    simp only [List.mem_cons, not_or] at h
    rw [List.cons_append, pieces, if_neg fun heq => h.1 heq.symm, ih h.2]

/-- There is one piece more than there are separators. -/
theorem length_pieces {α : Type} [DecidableEq α] (separator : α) (row : List α) :
    (pieces separator row).length = row.count separator + 1 := by
  induction row with
  | nil => simp [pieces]
  | cons c rest ih =>
    by_cases h : c = separator
    · simp [pieces, h, ih]
    · cases hrest : pieces separator rest with
      | nil => exact absurd hrest (pieces_ne_nil separator rest)
      | cons piece others =>
        rw [hrest] at ih
        simpa [pieces, h, hrest, List.count_cons] using ih

/-- Only a row without separators is one piece. -/
theorem pieces_eq_singleton_iff {α : Type} [DecidableEq α] {separator : α} {row : List α} :
    pieces separator row = [row] ↔ separator ∉ row := by
  rw [← List.count_eq_zero]
  constructor
  · intro h
    simpa [h] using length_pieces separator row
  · intro h
    have hlength := length_pieces separator row
    obtain ⟨piece, hpiece⟩ := List.length_eq_one_iff.mp (hlength.trans (by rw [h]))
    have hjoined := intercalate_pieces separator row
    rw [hpiece] at hjoined ⊢
    rw [← hjoined]
    simp [List.intercalate]

end HostLifecycle.Text
