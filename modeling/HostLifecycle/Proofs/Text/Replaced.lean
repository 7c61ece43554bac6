import HostLifecycle.Proofs.Text.Places

/-!
How the result of a substitution is put together. A code point that no claim reaches is kept, and
a claimed piece is replaced. So a property of all places of the result is one of the places behind
kept code points and of the places in replacements. A rule whose claims all read as they would be
replaced changes nothing.
-/

namespace HostLifecycle.Text

variable {before : Option CodePoint} {text rest : Text} {rule : Rule}

/-- Whether what a rule claims of a text is a piece of it, and not empty. -/
def Rule.Fits (rule : Rule) (before : Option CodePoint) (text : Text) : Prop :=
  ∀ claim, rule before text = some claim → 0 < claim.width ∧ claim.width ≤ text.length

def Rule.Settled (rule : Rule) (before : Option CodePoint) (text : Text) : Prop :=
  ∀ claim, rule before text = some claim → claim.replacement = text.take claim.width

/-- How a rule is applied to a text: code points are kept where it claims nothing, and what it
claims is replaced. -/
inductive Replaced (rule : Rule) : Option CodePoint → Text → Text → Prop where
  | done (before : Option CodePoint) : Replaced rule before [] []
  | kept {before point rest result} (hnone : rule before (point :: rest) = none)
      (hrest : Replaced rule (some point) rest result) :
      Replaced rule before (point :: rest) (point :: result)
  | claimed {before piece rest replacement result} (hpiece : piece ≠ [])
      (hclaim : rule before (piece ++ rest) = some ⟨piece.length, replacement⟩)
      (hrest : Replaced rule (lastOr before piece) rest result) :
      Replaced rule before (piece ++ rest) (replacement ++ result)

theorem replaced_substituteFrom (h : Everywhere rule.Fits before text) :
    Replaced rule before text (substituteFrom rule 0 before text) := by
  -- a claim may take any number of code points, so the induction is on how many there are
  induction hlength : text.length using Nat.strongRecOn generalizing before text with
  | _ length ih =>
    cases text with
    | nil => exact .done before
    | cons point rest =>
      subst hlength
      cases hclaim : rule before (point :: rest) with
      | none =>
        rw [substituteFrom, hclaim]
        exact .kept hclaim (ih _ (Nat.lt_succ_self _) (everywhere_cons.mp h).2 rfl)
      | some claim =>
        obtain ⟨width, replacement⟩ := claim
        obtain ⟨hpositive, hwidth⟩ := h [] point rest rfl _ hclaim
        simp only at hpositive hwidth
        obtain ⟨width, rfl⟩ := Nat.exists_eq_succ_of_ne_zero (Nat.ne_of_gt hpositive)
        rw [List.length_cons] at hwidth
        have hwidth : width ≤ rest.length := Nat.le_of_succ_le_succ hwidth
        have hlength : (point :: rest.take width).length = width + 1 := by
          rw [List.length_cons, List.length_take, Nat.min_eq_left hwidth]
        have hsplit : point :: rest = point :: rest.take width ++ rest.drop width := by
          rw [List.cons_append, List.take_append_drop]
        have hskip : substituteFrom rule width (some point) rest =
            substituteFrom rule 0 (lastOr before (point :: rest.take width))
              (rest.drop width) := by
          have htake : (rest.take width).length + 0 = width := by
            rw [List.length_take, Nat.min_eq_left hwidth, Nat.add_zero]
          have hskipped := substituteFrom_skip rule 0 (some point) (rest.take width)
            (rest.drop width)
          rw [htake, List.take_append_drop] at hskipped
          rw [hskipped, lastOr_cons]
        rw [hsplit, everywhere_append] at h
        have hbehind := ih (rest.drop width).length
          (by rw [List.length_drop, List.length_cons]; omega) h.2 rfl
        rw [substituteFrom, hclaim]
        simp only
        rw [hskip]
        rw [hsplit, Nat.succ_eq_add_one, ← hlength] at hclaim
        have hpieces := Replaced.claimed (List.cons_ne_nil _ _) hclaim hbehind
        rwa [← hsplit] at hpieces

namespace Replaced

variable {result : Text}

/-- A text is its kept code points up to the first claim, and so is the result. -/
theorem first_claim (h : Replaced rule before text result) :
    (result = text ∧ Everywhere (fun ahead text => rule ahead text = none) before text) ∨
      ∃ kept piece rest replacement behind, text = kept ++ (piece ++ rest) ∧
        result = kept ++ (replacement ++ behind) ∧ piece ≠ [] ∧
        rule (lastOr before kept) (piece ++ rest) = some ⟨piece.length, replacement⟩ ∧
        Replaced rule (lastOr (lastOr before kept) piece) rest behind := by
  induction h with
  | done before => exact Or.inl ⟨rfl, everywhere_nil⟩
  | @kept before point rest result hnone hrest ih =>
    rcases ih with ⟨rfl, hnowhere⟩ | ⟨kept, piece, rest, replacement, behind, rfl, rfl, hpiece,
      hclaim, hbehind⟩
    · exact Or.inl ⟨rfl, everywhere_cons.mpr ⟨hnone, hnowhere⟩⟩
    · exact Or.inr ⟨point :: kept, piece, rest, replacement, behind, rfl, rfl, hpiece,
        by rwa [lastOr_cons], by rwa [lastOr_cons]⟩
  | @claimed before piece rest replacement result hpiece hclaim hrest ih =>
    exact Or.inr ⟨[], piece, rest, replacement, result, rfl, rfl, hpiece, hclaim, hrest⟩

/-- Where nothing is claimed, a result starts as the text does. -/
theorem head?_of_none (h : Replaced rule before text result) (hnone : rule before text = none) :
    result.head? = text.head? := by
  cases h with
  | done => rfl
  | kept => rfl
  | claimed _ hclaim =>
    rw [hclaim] at hnone
    cases hnone

/-- A property holds at all places of a result if it holds behind kept code points and in
replacements. What it takes of the text and of the code points ahead of a place, in the text and
in the result, is carried along. -/
theorem everywhere {property : Option CodePoint → Text → Prop}
    (h : Replaced rule before text result) (original : Option CodePoint → Text → Prop)
    (meets : Option CodePoint → Option CodePoint → Text → Prop)
    (hkept : ∀ {before other point rest result}, meets before other (point :: rest) →
      original before (point :: rest) → rule before (point :: rest) = none →
      Replaced rule (some point) rest result → property other (point :: result))
    (hreplaced : ∀ {before other piece rest replacement result}, piece ≠ [] →
      original before (piece ++ rest) →
      rule before (piece ++ rest) = some ⟨piece.length, replacement⟩ →
      Replaced rule (lastOr before piece) rest result →
      Everywhere (fun ahead text => property ahead (text ++ result)) other replacement)
    (hsame : ∀ point rest, meets (some point) (some point) rest)
    (hbehind : ∀ {before other piece rest replacement}, piece ≠ [] →
      original before (piece ++ rest) →
      rule before (piece ++ rest) = some ⟨piece.length, replacement⟩ →
      meets (lastOr before piece) (lastOr other replacement) rest)
    {other : Option CodePoint} (hmeets : meets before other text)
    (horiginal : Everywhere original before text) :
    Everywhere property other result := by
  induction h generalizing other with
  | done => exact everywhere_nil
  | @kept before point rest result hnone hrest ih =>
    rw [everywhere_cons] at horiginal ⊢
    exact ⟨hkept hmeets horiginal.1 hnone hrest, ih (hsame point rest) horiginal.2⟩
  | @claimed before piece rest replacement result hpiece hclaim hrest ih =>
    have hplace : original before (piece ++ rest) := by
      obtain ⟨point, behind, rfl⟩ := List.exists_cons_of_ne_nil hpiece
      exact horiginal [] point (behind ++ rest) rfl
    rw [everywhere_append] at horiginal ⊢
    exact ⟨hreplaced hpiece hplace hclaim hrest, ih (hbehind hpiece hplace hclaim) horiginal.2⟩

/-- A code point that no replacement brings in stays out. -/
theorem not_mem {point : CodePoint} (h : Replaced rule before text result)
    (hrule : ∀ before text claim, rule before text = some claim → point ∉ text →
      point ∉ claim.replacement) (htext : point ∉ text) : point ∉ result := by
  induction h with
  | done => exact htext
  | kept _ _ ih =>
    rw [List.mem_cons, not_or] at htext ⊢
    exact ⟨htext.1, ih htext.2⟩
  | claimed _ hclaim _ ih =>
    have hreplacement := hrule _ _ _ hclaim htext
    rw [List.mem_append, not_or] at htext ⊢
    exact ⟨hreplacement, ih htext.2⟩

/-- Nothing is changed where every claim reads as it would be replaced. -/
theorem eq_of_settled (h : Replaced rule before text result)
    (hsettled : Everywhere rule.Settled before text) : result = text := by
  induction h with
  | done => rfl
  | kept _ _ ih => rw [ih (everywhere_cons.mp hsettled).2]
  | @claimed before piece rest replacement result hpiece hclaim _ ih =>
    have hreads : replacement = piece := by
      obtain ⟨point, behind, rfl⟩ := List.exists_cons_of_ne_nil hpiece
      have h := hsettled [] point (behind ++ rest) rfl _ hclaim
      exact h.trans List.take_left
    rw [hreads, ih (everywhere_append.mp hsettled).2]

end Replaced

end HostLifecycle.Text
