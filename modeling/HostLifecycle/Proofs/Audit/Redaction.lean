import HostLifecycle.Audit.Redaction
import HostLifecycle.Proofs.Text.Halves

/-!
What is left of a message without its secrets. Every rule keeps the start of what it claims, if
anything of it, and puts a fixed text behind it. So the places where two parts meet have a
character on one side, and a message that is read back as it was written still is.
-/

namespace HostLifecycle

namespace Text

open CodePoint

/-- A rule that keeps no more than the start of what it claims, with a text without halves
behind it. -/
def Rule.Masks (rule : Rule) : Prop :=
  ∀ before text claim, rule before text = some claim → ∃ kept masked,
    claim.replacement = text.take kept ++ masked ∧ masked.Plain ∧ masked ≠ []

theorem Unsplit.take {text : Text} (h : text.Unsplit) (count : Nat) :
    Unsplit (text.take count) := by
  rw [unsplit_iff] at *
  exact h.take count

theorem Unsplit.tail {point : CodePoint} {rest : Text} (h : Unsplit (point :: rest)) :
    rest.Unsplit := by
  rw [unsplit_iff] at *
  exact h.tail

variable {rule : Rule}

/-- A rule that masks leaves the first code point in its place or puts a character there. -/
theorem Rule.Masks.head_substituteFrom (hrule : rule.Masks) (before : Option CodePoint)
    (text : Text) : ∀ y ∈ (substituteFrom rule 0 before text).head?,
      text.head? = some y ∨ ∃ c, y = .char c := by
  intro y hy
  cases text with
  | nil => exact absurd hy (by simp [substituteFrom])
  | cons point rest =>
    rw [substituteFrom] at hy
    split at hy
    next width replacement hclaim =>
      obtain ⟨kept, masked, hreplacement, hplain, hsome⟩ := hrule _ _ _ hclaim
      simp only at hreplacement
      cases kept with
      | zero =>
        rw [hreplacement, List.take_zero, List.nil_append,
          List.head?_append_of_ne_nil _ hsome] at hy
        exact Or.inr (hplain y (List.mem_of_head? hy))
      | succ kept =>
        rw [hreplacement, List.take_succ_cons] at hy
        exact Or.inl hy
    next => exact Or.inl hy

/-- No rule that masks brings the halves of a pair together. -/
theorem Rule.Masks.unsplit_substituteFrom (hrule : rule.Masks) (skip : Nat)
    (before : Option CodePoint) (text : Text) (htext : text.Unsplit) :
    Unsplit (substituteFrom rule skip before text) := by
  induction text generalizing skip before with
  | nil => cases skip <;> exact htext
  | cons point rest ih =>
    cases skip with
    | succ skip => exact ih skip (some point) htext.tail
    | zero =>
      rw [substituteFrom]
      split
      next width replacement hclaim =>
        -- both ends of the mask are characters, so nothing is asked of what stands beside it
        obtain ⟨kept, masked, hreplacement, hplain, hsome⟩ := hrule _ _ _ hclaim
        simp only at hreplacement
        have hbehind : Unsplit (masked ++ substituteFrom rule width (some point) rest) :=
          hplain.unsplit_append (ih width (some point) htext.tail)
        rw [hreplacement, List.append_assoc]
        apply unsplit_append (htext.take kept) hbehind
        intro x _ y hy
        rw [List.head?_append_of_ne_nil _ hsome] at hy
        obtain ⟨c, rfl⟩ := hplain y (List.mem_of_head? hy)
        exact apart_char_right x c
      next =>
        have hrest := ih 0 (some point) htext.tail
        have hfirst : Unsplit [point] := htext.take 1
        apply unsplit_append hfirst hrest
        intro x hx y hy
        obtain rfl : point = x := by simpa using hx
        rcases hrule.head_substituteFrom (some point) rest y hy with hhead | ⟨c, rfl⟩
        · rw [unsplit_iff, List.isChain_cons] at htext
          exact htext.1 y hhead
        · exact apart_char_right point c

end Text

namespace Audit

open Text

theorem masks_assignmentRule (keywords : List (List Part)) :
    Rule.Masks (assignmentRule keywords) := by
  intro before text claim hclaim
  unfold assignmentRule at hclaim
  split at hclaim
  · obtain ⟨parts, -, hparts⟩ := List.exists_of_findSome?_eq_some hclaim
    obtain ⟨width, -, hwidth⟩ := Option.bind_eq_some_iff.mp hparts
    obtain ⟨rest, -, hrest⟩ := Option.bind_eq_some_iff.mp hwidth
    cases hrest
    exact ⟨width, .char '=' :: mask, rfl, plain_ofString "=***REDACTED***",
      List.cons_ne_nil _ _⟩
  · cases hclaim

theorem masks_keyBlockRule : Rule.Masks keyBlockRule := by
  intro before text claim hclaim
  obtain ⟨body, -, hbody⟩ := Option.bind_eq_some_iff.mp hclaim
  obtain ⟨left, -, hleft⟩ := Option.bind_eq_some_iff.mp hbody
  cases hleft
  exact ⟨0, keyMask, rfl, plain_ofString _, by decide⟩

theorem masks_tokenRule : Rule.Masks tokenRule := by
  intro before text claim hclaim
  unfold tokenRule at hclaim
  split at hclaim
  · obtain ⟨start, -, hstart⟩ := List.exists_of_findSome?_eq_some hclaim
    obtain ⟨rest, -, hrest⟩ := Option.bind_eq_some_iff.mp hstart
    simp only at hrest
    split at hrest
    · cases hrest
      exact ⟨0, mask, rfl, plain_ofString _, by decide⟩
    · cases hrest
  · cases hclaim

theorem masks_rules : ∀ rule ∈ rules, Rule.Masks rule := by
  simp only [rules, List.forall_mem_cons, masks_assignmentRule, masks_keyBlockRule,
    masks_tokenRule, true_and]
  exact fun _ hnone => absurd hnone List.not_mem_nil

theorem unsplit_foldl_substitute {others : List Rule} (hall : ∀ rule ∈ others, Rule.Masks rule)
    {text : Text} (h : text.Unsplit) :
    Unsplit (others.foldl (fun text rule => substitute rule text) text) := by
  induction others generalizing text with
  | nil => exact h
  | cons rule others ih =>
    rw [List.forall_mem_cons] at hall
    exact ih hall.2 (hall.1.unsplit_substituteFrom 0 none text h)

/-- A text without its secrets is read back as it was written if the text was. -/
theorem unsplit_redact {text : Text} (h : text.Unsplit) : Unsplit (redact text) := by
  unfold redact
  split
  · exact h
  · exact unsplit_foldl_substitute masks_rules h

theorem unsplit_of_redactMessage {enabled : Bool} {message shown : Text}
    (hshown : redactMessage enabled (.str message) = .ok (.str shown)) (h : message.Unsplit) :
    shown.Unsplit := by
  unfold redactMessage at hshown
  split at hshown
  · cases hshown
    exact h
  · cases hshown
    exact unsplit_redact h

end Audit

end HostLifecycle
