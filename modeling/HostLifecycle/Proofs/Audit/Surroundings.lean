import HostLifecycle.Proofs.Audit.Assignments
import HostLifecycle.Proofs.Text.Places

/-!
What stands around assignments. Behind a point that is no blank and stands in no name all shown
characters are alike to an assignment: it ends ahead of the point, or it takes them all. A rule for
assignments starts no claim with a blank, and it keeps the first code point of a text.
-/

namespace HostLifecycle.Audit

open Text

/-- What holds no blank stands in one run with none. -/
theorem exists_of_shown_append {shown rest run behind : Text} (h : shown ++ rest = run ++ behind)
    (hshown : ∀ point ∈ shown, isGap point = false)
    (hbehind : ∀ point ∈ behind.head?, isGap point = true) :
    ∃ more, run = shown ++ more ∧ rest = more ++ behind := by
  rcases List.append_eq_append_iff.mp h with ⟨more, hrun, hrest⟩ | ⟨extra, hextra, hrest⟩
  · exact ⟨more, hrun, hrest⟩
  · cases extra with
    | nil => exact ⟨[], by rw [hextra, List.append_nil, List.append_nil], hrest.symm⟩
    | cons first extra =>
      have hblank := hbehind first (by rw [hrest]; rfl)
      rw [hshown first (hextra ▸ List.mem_append_right _ List.mem_cons_self)] at hblank
      cases hblank

namespace Assignment

variable {group : List (List Part)} {text front shown other rest lead : Text}
  {stop point : CodePoint}

/-- Where a text goes on with a point that stands in no name and is no blank, an assignment ends
ahead of it, or all that is shown behind the point is in its value. -/
theorem reach_shown (hgroup : group ⊆ keywords) (assignment : Assignment group text)
    (htext : text = front ++ stop :: (shown ++ rest)) (hstop : isNamePoint stop = false)
    (hstopGap : isGap stop = false) (hne : shown ≠ [])
    (hshown : ∀ point ∈ shown, isGap point = false) :
    (∃ left, left ≠ [] ∧ front = assignment.claimed ++ left ∧
        ∀ point ∈ left.head?, isGap point = true) ∨
      ∃ lead more, assignment.value = lead ++ (shown ++ more) ∧
        front ++ [stop] = assignment.name ++ (assignment.gap ++ assignment.sign ::
          (assignment.space ++ lead)) ∧ rest = more ++ assignment.rest := by
  have hname := assignment.exists_name_within hgroup htext hstop
  rcases assignment.reach htext hstopGap hname with ⟨left, hleft, hfront, hblank, -⟩ |
    ⟨lead, more, hvalue, hfront, hbehind⟩ | ⟨hsign, hfront, hbehind⟩
  · exact Or.inl ⟨left, hleft, hfront, hblank⟩
  · obtain ⟨extra, rfl, hrest⟩ := exists_of_shown_append hbehind hshown assignment.rest_blank
    refine Or.inr ⟨lead ++ [stop], extra, ?_, ?_, hrest⟩
    · rw [hvalue, List.append_assoc, List.singleton_append]
    · rw [hfront]
      simp only [List.append_assoc, List.cons_append]
  · -- the blanks behind the sign would have to be shown
    have hspace : assignment.space = [] := by
      obtain ⟨first, tail, rfl⟩ := List.exists_cons_of_ne_nil hne
      exact eq_nil_of_blank_append assignment.space_blank hbehind.symm
        (hshown first List.mem_cons_self)
    rw [hspace, List.nil_append] at hbehind
    obtain ⟨extra, hvalue, hrest⟩ := exists_of_shown_append hbehind hshown assignment.rest_blank
    refine Or.inr ⟨[], extra, hvalue, ?_, hrest⟩
    rw [hfront, hspace, hsign, List.append_assoc, List.nil_append]

/-- An assignment that has ended is one whatever stands further behind. -/
theorem exists_ahead {left : Text} (assignment : Assignment group text) (hleft : left ≠ [])
    (hblank : ∀ point ∈ left.head?, isGap point = true)
    (hfront : front = assignment.claimed ++ left) (behind : Text) :
    ∃ original : Assignment group (front ++ behind),
      original.claimed = assignment.claimed ∧ original.masked = assignment.masked := by
  have hsplit : front ++ behind = assignment.name ++ (assignment.gap ++ assignment.sign ::
      (assignment.space ++ (assignment.value ++ (left ++ behind)))) := by
    rw [hfront, claimed]
    simp only [List.append_assoc, List.cons_append]
  refine ⟨assignment.reassigned hsplit assignment.value_ne assignment.value_shown ?_, rfl, rfl⟩
  intro point hpoint
  rw [List.head?_append_of_ne_nil _ hleft] at hpoint
  exact hblank point hpoint

theorem extended_eq (assignment : Assignment group text)
    (hfront : front = assignment.name ++ (assignment.gap ++ assignment.sign ::
      (assignment.space ++ lead))) (behind : Text) :
    front ++ behind = assignment.name ++ (assignment.gap ++ assignment.sign ::
      (assignment.space ++ ((lead ++ behind.takeWhile fun other => !isGap other) ++
        behind.dropWhile fun other => !isGap other))) := by
  rw [hfront, List.append_assoc lead, List.takeWhile_append_dropWhile]
  simp only [List.append_assoc, List.cons_append]

/-- The assignment whose value goes on with what is shown behind a text. -/
def extended (assignment : Assignment group text)
    (hfront : front = assignment.name ++ (assignment.gap ++ assignment.sign ::
      (assignment.space ++ lead))) (hlead : ∀ other ∈ lead, isGap other = false)
    (hpoint : isGap point = false) (behind : Text) : Assignment group (front ++ point :: behind) :=
  assignment.reassigned (assignment.extended_eq hfront (point :: behind))
    (by simp [hpoint])
    (by
      intro other hother
      rcases List.mem_append.mp hother with hmem | hmem
      · exact hlead other hmem
      · simpa using forall_mem_takeWhile _ _ other hmem)
    (by
      intro other hother
      simpa using head?_dropWhile _ _ other hother)

/-- Other shown characters in place of those behind the point make no difference to an
assignment. -/
theorem exists_beside (hgroup : group ⊆ keywords) (assignment : Assignment group text)
    (htext : text = front ++ stop :: (shown ++ rest)) (hstop : isNamePoint stop = false)
    (hstopGap : isGap stop = false) (hne : shown ≠ [])
    (hshown : ∀ point ∈ shown, isGap point = false) (hother : ∀ point ∈ other, isGap point = false)
    (hlength : shown.length = other.length) :
    (∃ beside : Assignment group (front ++ stop :: (other ++ rest)),
        beside.claim = assignment.claim) ∧
      ((∃ left, left ≠ [] ∧ front = assignment.claimed ++ left ∧
          ∀ point ∈ left.head?, isGap point = true) ∨
        front.length + 1 + shown.length ≤ assignment.claim.width) := by
  rcases assignment.reach_shown hgroup htext hstop hstopGap hne hshown with
    ⟨left, hleft, hfront, hblank⟩ | ⟨lead, more, hvalue, hfront, hrest⟩
  · obtain ⟨beside, hclaimed, hmasked⟩ :=
      assignment.exists_ahead hleft hblank hfront (stop :: (other ++ rest))
    exact ⟨⟨beside, by rw [claim, claim, hclaimed, hmasked]⟩, Or.inl ⟨left, hleft, hfront, hblank⟩⟩
  · have hsplit : front ++ stop :: (other ++ rest) = assignment.name ++ (assignment.gap ++
        assignment.sign :: (assignment.space ++ ((lead ++ (other ++ more)) ++
          assignment.rest))) := by
      rw [hrest, List.append_cons, hfront]
      simp only [List.append_assoc, List.cons_append]
    have hvalueShown : ∀ point ∈ lead ++ (other ++ more), isGap point = false := by
      have h := assignment.value_shown
      rw [hvalue] at h
      simp only [List.forall_mem_append] at h ⊢
      exact ⟨h.1, hother, h.2.2⟩
    have hsome : lead ++ (other ++ more) ≠ [] := by
      intro hnil
      rw [List.append_eq_nil_iff, List.append_eq_nil_iff] at hnil
      rw [hnil.2.1] at hlength
      exact hne (List.eq_nil_of_length_eq_zero hlength)
    have hfrontLength := congrArg List.length hfront
    refine ⟨⟨assignment.reassigned hsplit hsome hvalueShown assignment.rest_blank, ?_⟩,
      Or.inr ?_⟩
    · simp only [claim, claimed, masked, reassigned, hvalue, List.length_append,
        List.length_cons, hlength]
    · simp only [claim, claimed, hvalue, List.length_append, List.length_cons,
        List.length_nil] at hfrontLength ⊢
      omega

end Assignment

section

variable {group : List (List Part)} {before : Option CodePoint} {text : Text}

/-- No assignment starts with a blank. -/
theorem assignmentRule_of_blank (hgroup : group ⊆ keywords)
    (h : ∀ point ∈ text.head?, isGap point = true) : assignmentRule group before text = none := by
  cases hclaim : assignmentRule group before text with
  | none => rfl
  | some claim =>
    obtain ⟨-, assignment, -⟩ := exists_assignment hclaim
    obtain ⟨point, rest, letter, hname, -, hletter⟩ := assignment.isName.exists_initial hgroup
    have hpoint : isNamePoint point = true :=
      assignment.isName.isNamePoint hgroup point (hname ▸ List.mem_cons_self)
    have hblank := h point (by rw [assignment.text_eq, hname]; rfl)
    rw [isGap_of_isNamePoint hpoint] at hblank
    cases hblank

/-- A rule for assignments keeps the first code point. -/
theorem head?_substituteFrom_assignmentRule (hgroup : group ⊆ keywords)
    (before : Option CodePoint) (text : Text) :
    (substituteFrom (assignmentRule group) 0 before text).head? = text.head? := by
  cases text with
  | nil => rfl
  | cons point rest =>
    rw [substituteFrom]
    split
    next width replacement hclaim =>
      obtain ⟨-, assignment, heq⟩ := exists_assignment hclaim
      obtain ⟨first, more, letter, hname, -, -⟩ := assignment.isName.exists_initial hgroup
      have hreplacement : replacement = assignment.masked := congrArg Claim.replacement heq
      have hhead := congrArg List.head? assignment.text_eq
      rw [hname] at hhead
      rw [hreplacement, Assignment.masked, hname]
      exact hhead.symm
    next => rfl

/-- A rule for assignments keeps the first code point that is no blank. -/
theorem head?_dropWhile_substituteFrom_assignmentRule (hgroup : group ⊆ keywords)
    (before : Option CodePoint) (text : Text) :
    ((substituteFrom (assignmentRule group) 0 before text).dropWhile isGap).head? =
      (text.dropWhile isGap).head? := by
  induction text generalizing before with
  | nil => rfl
  | cons point rest ih =>
    by_cases hpoint : isGap point = true
    · have hnone : assignmentRule group before (point :: rest) = none :=
        assignmentRule_of_blank hgroup (by rintro _ ⟨⟩; exact hpoint)
      rw [substituteFrom, hnone]
      simp only [List.dropWhile_cons, hpoint, if_true]
      exact ih (some point)
    · have hkept := head?_substituteFrom_assignmentRule hgroup before (point :: rest)
      cases hresult : substituteFrom (assignmentRule group) 0 before (point :: rest) with
      | nil =>
        rw [hresult] at hkept
        cases hkept
      | cons first result =>
        rw [hresult] at hkept
        cases hkept
        rw [List.dropWhile_cons_of_neg hpoint, List.dropWhile_cons_of_neg hpoint]
        rfl

end

end HostLifecycle.Audit
