import HostLifecycle.Proofs.Audit.Keywords
import HostLifecycle.Proofs.Text.Runs
import Mathlib.Data.List.Basic

/-!
Assignments of secret values. An assignment is a spelling of a keyword, a sign with blanks around
it, and a value that goes on to the next blank or to the end of the text. A rule for assignments
claims exactly those that start at a word boundary, and a text starts with one of them at most.
-/

namespace HostLifecycle.Audit

open Text

/-- What is shown ahead of a blank. -/
theorem takeWhile_shown {shown rest : Text} (hshown : ∀ point ∈ shown, isGap point = false)
    (hrest : ∀ point ∈ rest.head?, isGap point = true) :
    (shown ++ rest).takeWhile (fun point => !isGap point) = shown := by
  apply takeWhile_run
  · intro point hpoint
    rw [hshown point hpoint]
    rfl
  · intro point hpoint
    rw [hrest point hpoint]
    rfl

/-- There are no blanks where none of them may be the first. -/
theorem eq_nil_of_blank {run : Text} (hblank : ∀ point ∈ run, isGap point = true)
    (hshown : ∀ point ∈ run.head?, isGap point = false) : run = [] := by
  cases run with
  | nil => rfl
  | cons first run =>
    have hfirst := hblank first List.mem_cons_self
    rw [hshown first rfl] at hfirst
    cases hfirst

/-- There are no blanks ahead of what is shown at the start of a text. -/
theorem eq_nil_of_blank_append {run rest behind : Text} {first : CodePoint}
    (hblank : ∀ point ∈ run, isGap point = true) (h : run ++ rest = first :: behind)
    (hfirst : isGap first = false) : run = [] := by
  apply eq_nil_of_blank hblank
  intro point hpoint
  obtain ⟨tail, rfl⟩ := List.head?_eq_some_iff.mp hpoint
  cases h
  exact hfirst

/-- Whether a code point is a sign of assignment. -/
def isSign (point : CodePoint) : Bool := point == '=' || point == ':'

theorem isGap_of_isSign {point : CodePoint} (h : isSign point = true) : isGap point = false := by
  simp only [isSign, Bool.or_eq_true, beq_iff_eq] at h
  rcases h with rfl | rfl <;> decide

theorem isNamePoint_of_isSign {point : CodePoint} (h : isSign point = true) :
    isNamePoint point = false := by
  simp only [isSign, Bool.or_eq_true, beq_iff_eq] at h
  rcases h with rfl | rfl <;> decide

structure Assignment (group : List (List Part)) (text : Text) where
  name : Text
  gap : Text
  sign : CodePoint
  space : Text
  value : Text
  rest : Text
  text_eq : text = name ++ (gap ++ sign :: (space ++ (value ++ rest)))
  isName : IsName group name
  gap_blank : ∀ point ∈ gap, isGap point = true
  sign_isSign : isSign sign = true
  space_blank : ∀ point ∈ space, isGap point = true
  value_ne : value ≠ []
  value_shown : ∀ point ∈ value, isGap point = false
  rest_blank : ∀ point ∈ rest.head?, isGap point = true

namespace Assignment

variable {group : List (List Part)} {text : Text}

def claimed (assignment : Assignment group text) : Text :=
  assignment.name ++
    (assignment.gap ++ assignment.sign :: (assignment.space ++ assignment.value))

def masked (assignment : Assignment group text) : Text := assignment.name ++ .char '=' :: mask

theorem text_eq_claimed (assignment : Assignment group text) :
    text = assignment.claimed ++ assignment.rest := by
  simp only [claimed, List.append_assoc, List.cons_append]
  exact assignment.text_eq

theorem head?_value (assignment : Assignment group text) :
    ∀ point ∈ (assignment.value ++ assignment.rest).head?, isGap point = false := by
  intro point hpoint
  cases hvalue : assignment.value with
  | nil => exact absurd hvalue assignment.value_ne
  | cons first value =>
    rw [hvalue] at hpoint
    cases hpoint
    exact assignment.value_shown point (hvalue ▸ List.mem_cons_self)

/-- Behind the name stands a blank or the sign. -/
theorem head?_behind_name (assignment : Assignment group text) :
    ∀ point ∈ (assignment.gap ++ assignment.sign ::
      (assignment.space ++ (assignment.value ++ assignment.rest))).head?,
      isGap point = true ∨ isSign point = true := by
  intro point hpoint
  cases hgap : assignment.gap with
  | nil =>
    rw [hgap] at hpoint
    cases hpoint
    exact Or.inr assignment.sign_isSign
  | cons first gap =>
    rw [hgap] at hpoint
    cases hpoint
    exact Or.inl (assignment.gap_blank point (hgap ▸ List.mem_cons_self))

/-- Behind the name stands what cannot stand in a name. -/
theorem head?_gap (assignment : Assignment group text) :
    ∀ point ∈ (assignment.gap ++ assignment.sign ::
      (assignment.space ++ (assignment.value ++ assignment.rest))).head?,
      isNamePoint point = false := by
  intro point hpoint
  rw [Bool.eq_false_iff]
  intro hname
  rcases assignment.head?_behind_name point hpoint with hblank | hsign
  · rw [isGap_of_isNamePoint hname] at hblank
    cases hblank
  · rw [isNamePoint_of_isSign hsign] at hname
    cases hname

/-- The name is all that may stand in a name. -/
theorem name_eq (hgroup : group ⊆ keywords) (assignment : Assignment group text) :
    assignment.name = text.takeWhile isNamePoint := by
  have hrun := takeWhile_run (assignment.isName.isNamePoint hgroup) assignment.head?_gap
  rw [← assignment.text_eq] at hrun
  exact hrun.symm

/-- A text starts with one assignment at most. -/
theorem unique (hgroup : group ⊆ keywords) (assignment other : Assignment group text) :
    assignment.name = other.name ∧ assignment.gap = other.gap ∧ assignment.sign = other.sign ∧
      assignment.space = other.space ∧ assignment.value = other.value ∧
      assignment.rest = other.rest := by
  have hname : assignment.name = other.name :=
    (assignment.name_eq hgroup).trans (other.name_eq hgroup).symm
  have hsign : ∀ some : Assignment group text, ∀ point ∈ (some.sign :: (some.space ++
      (some.value ++ some.rest))).head?, isGap point = false := by
    rintro some point ⟨⟩
    exact isGap_of_isSign some.sign_isSign
  have htext := assignment.text_eq.symm.trans other.text_eq
  rw [hname, List.append_cancel_left_eq] at htext
  have hgap := congrArg (List.takeWhile isGap) htext
  rw [takeWhile_run assignment.gap_blank (hsign _), takeWhile_run other.gap_blank (hsign _)] at hgap
  rw [hgap, List.append_cancel_left_eq, List.cons.injEq] at htext
  obtain ⟨hsigns, htext⟩ := htext
  have hspace := congrArg (List.takeWhile isGap) htext
  rw [takeWhile_run assignment.space_blank assignment.head?_value,
    takeWhile_run other.space_blank other.head?_value] at hspace
  rw [hspace, List.append_cancel_left_eq] at htext
  have hvalues := congrArg (List.takeWhile fun point => !isGap point) htext
  rw [takeWhile_shown assignment.value_shown assignment.rest_blank,
    takeWhile_shown other.value_shown other.rest_blank] at hvalues
  rw [hvalues, List.append_cancel_left_eq] at htext
  exact ⟨hname, hgap, hsigns, hspace, hvalues, htext⟩

/-- What a rule claims of the text. -/
def claim (assignment : Assignment group text) : Claim :=
  ⟨assignment.claimed.length, assignment.masked⟩

theorem claim_eq (hgroup : group ⊆ keywords) (assignment other : Assignment group text) :
    assignment.claim = other.claim := by
  obtain ⟨hname, hgap, hsign, hspace, hvalue, -⟩ := assignment.unique hgroup other
  simp only [claim, claimed, masked, hname, hgap, hsign, hspace, hvalue]

def reassigned {other value rest : Text} (assignment : Assignment group text)
    (hother : other = assignment.name ++ (assignment.gap ++ assignment.sign ::
      (assignment.space ++ (value ++ rest)))) (hvalue : value ≠ [])
    (hshown : ∀ point ∈ value, isGap point = false)
    (hrest : ∀ point ∈ rest.head?, isGap point = true) : Assignment group other where
  name := assignment.name
  gap := assignment.gap
  sign := assignment.sign
  space := assignment.space
  value := value
  rest := rest
  text_eq := hother
  isName := assignment.isName
  gap_blank := assignment.gap_blank
  sign_isSign := assignment.sign_isSign
  space_blank := assignment.space_blank
  value_ne := hvalue
  value_shown := hshown
  rest_blank := hrest

variable {front behind : Text} {point : CodePoint}

/-- A name ends ahead of what cannot stand in one. -/
theorem exists_name_within (hgroup : group ⊆ keywords)
    (assignment : Assignment group text) (htext : text = front ++ point :: behind)
    (hpoint : isNamePoint point = false) : ∃ more, front = assignment.name ++ more := by
  apply exists_append_of_not_mem (assignment.text_eq.symm.trans htext)
  intro hmem
  rw [assignment.isName.isNamePoint hgroup point hmem] at hpoint
  cases hpoint

/-- A name ends ahead of two hyphens. -/
theorem exists_name_within_hyphens (hgroup : group ⊆ keywords)
    (assignment : Assignment group text)
    (htext : text = front ++ .char '-' :: .char '-' :: behind) :
    ∃ more, front = assignment.name ++ more := by
  rcases List.append_eq_append_iff.mp (htext.symm.trans assignment.text_eq) with
    ⟨extra, hname, hextra⟩ | ⟨more, hfront, -⟩
  · cases extra with
    | nil => exact ⟨[], by rw [hname, List.append_nil, List.append_nil]⟩
    | cons first extra =>
      rw [List.cons_append, List.cons.injEq] at hextra
      obtain ⟨rfl, hextra⟩ := hextra
      -- behind a joint of a name comes a letter, but here comes the second hyphen or the end
      obtain ⟨parts, hparts, hspelled⟩ := assignment.isName
      obtain ⟨next, rest, rfl, hnext⟩ := hspelled.behind_joint
        (isSpelling_keywords parts (hgroup hparts)) hname rfl
      rw [List.cons_append, List.cons.injEq] at hextra
      rw [← hextra.1] at hnext
      cases hnext
  · exact ⟨more, hfront⟩

/-- Where a text goes on with a point that is no blank, an assignment with its name ahead of the
point ends ahead of it too, or the point stands in its value, or it is its sign. -/
theorem reach (assignment : Assignment group text) (htext : text = front ++ point :: behind)
    (hpoint : isGap point = false) (hname : ∃ more, front = assignment.name ++ more) :
    (∃ left, left ≠ [] ∧ front = assignment.claimed ++ left ∧
        (∀ other ∈ left.head?, isGap other = true) ∧
        assignment.rest = left ++ point :: behind) ∨
      (∃ value more, assignment.value = value ++ point :: more ∧
        front = assignment.name ++ (assignment.gap ++ assignment.sign ::
          (assignment.space ++ value)) ∧ behind = more ++ assignment.rest) ∨
      (assignment.sign = point ∧ front = assignment.name ++ assignment.gap ∧
        behind = assignment.space ++ (assignment.value ++ assignment.rest)) := by
  have hshown : ∀ run : Text, (∀ other ∈ run, isGap other = true) → point ∉ run := by
    intro run hrun hmem
    rw [hrun point hmem] at hpoint
    cases hpoint
  obtain ⟨more, hfront⟩ := hname
  have hsplit := assignment.text_eq.symm.trans htext
  rw [hfront, List.append_assoc, List.append_cancel_left_eq] at hsplit
  obtain ⟨behindGap, rfl⟩ :=
    exists_append_of_not_mem hsplit (hshown _ assignment.gap_blank)
  rw [List.append_assoc, List.append_cancel_left_eq] at hsplit
  cases behindGap with
  | nil =>
    rw [List.nil_append, List.cons.injEq] at hsplit
    exact Or.inr (Or.inr ⟨hsplit.1, by rw [hfront, List.append_nil], hsplit.2.symm⟩)
  | cons first behindSign =>
    rw [List.cons_append, List.cons.injEq] at hsplit
    obtain ⟨rfl, hsplit⟩ := hsplit
    obtain ⟨lead, rfl⟩ := exists_append_of_not_mem hsplit (hshown _ assignment.space_blank)
    rw [List.append_assoc, List.append_cancel_left_eq] at hsplit
    -- the rest starts with a blank, so it does not start with the point
    have hrest : ∀ other, assignment.rest ≠ point :: other := by
      intro other hother
      have hblank := assignment.rest_blank point (hother ▸ rfl)
      rw [hpoint] at hblank
      cases hblank
    rcases List.append_eq_append_iff.mp hsplit with ⟨left, hleft, hbehind⟩ |
      ⟨extra, hvalue, hextra⟩
    · have hne : left ≠ [] := by
        rintro rfl
        exact hrest behind hbehind
      refine Or.inl ⟨left, hne, ?_, fun other hother => assignment.rest_blank other ?_, hbehind⟩
      · rw [hfront, hleft, claimed]
        simp only [List.append_assoc, List.cons_append]
      · rwa [hbehind, List.head?_append_of_ne_nil _ hne]
    · cases extra with
      | nil => exact absurd hextra.symm (hrest behind)
      | cons next extra =>
        rw [List.cons_append, List.cons.injEq] at hextra
        obtain ⟨rfl, hextra⟩ := hextra
        exact Or.inr (Or.inl ⟨lead, extra, hvalue, hfront, hextra⟩)

/-- Where the point is no sign either, an assignment ends ahead of it, or it stands in its value. -/
theorem reach_unsigned (assignment : Assignment group text)
    (htext : text = front ++ point :: behind) (hpoint : isGap point = false)
    (hsign : isSign point = false) (hname : ∃ more, front = assignment.name ++ more) :
    (∃ left, left ≠ [] ∧ front = assignment.claimed ++ left ∧
        (∀ other ∈ left.head?, isGap other = true) ∧
        assignment.rest = left ++ point :: behind) ∨
      ∃ value more, assignment.value = value ++ point :: more ∧
        front = assignment.name ++ (assignment.gap ++ assignment.sign ::
          (assignment.space ++ value)) ∧ behind = more ++ assignment.rest := by
  rcases assignment.reach htext hpoint hname with hends | hvalue | ⟨rfl, -, -⟩
  · exact Or.inl hends
  · exact Or.inr hvalue
  · rw [assignment.sign_isSign] at hsign
    cases hsign

end Assignment

/-- What a sign of assignment and a value take at the start of a text. -/
theorem assignmentWidth?_eq_some_iff {text : Text} {width : Nat} :
    assignmentWidth? text = some width ↔ ∃ gap sign space value rest,
      text = gap ++ sign :: (space ++ (value ++ rest)) ∧
      (∀ point ∈ gap, isGap point = true) ∧ isSign sign = true ∧
      (∀ point ∈ space, isGap point = true) ∧ value ≠ [] ∧
      (∀ point ∈ value, isGap point = false) ∧ (∀ point ∈ rest.head?, isGap point = true) ∧
      width = (gap ++ sign :: (space ++ value)).length := by
  constructor
  · intro h
    unfold assignmentWidth? at h
    split at h
    next sign behind hbehind =>
      split at h
      next hsign =>
        simp only at h
        split at h
        next => cases h
        next hvalue =>
          refine ⟨text.takeWhile isGap, sign, behind.takeWhile isGap,
            (behind.dropWhile isGap).takeWhile fun point => !isGap point,
            (behind.dropWhile isGap).dropWhile fun point => !isGap point, ?_,
            forall_mem_takeWhile _ _, hsign, forall_mem_takeWhile _ _, ?_, ?_, ?_, ?_⟩
          · rw [List.takeWhile_append_dropWhile, List.takeWhile_append_dropWhile, ← hbehind,
              List.takeWhile_append_dropWhile]
          · simpa using hvalue
          · intro point hpoint
            simpa using forall_mem_takeWhile _ _ point hpoint
          · intro point hpoint
            simpa using head?_dropWhile _ _ point hpoint
          · cases h
            simp only [List.length_append, List.length_cons]
            omega
      next => cases h
    next => cases h
  · rintro ⟨gap, sign, space, value, rest, rfl, hgap, hsign, hspace, hvalue, hshown, hrest, rfl⟩
    have hsigns : ∀ point ∈ (sign :: (space ++ (value ++ rest))).head?, isGap point = false := by
      rintro point ⟨⟩
      exact isGap_of_isSign hsign
    have hvalues : ∀ point ∈ (value ++ rest).head?, isGap point = false := by
      intro point hpoint
      rw [List.head?_append_of_ne_nil _ hvalue] at hpoint
      exact hshown point (List.mem_of_head? hpoint)
    have hsign : (sign == '=' || sign == ':') = true := hsign
    have hempty : value.isEmpty = false := by simpa using hvalue
    rw [assignmentWidth?, dropWhile_run hgap hsigns, takeWhile_run hgap hsigns]
    simp only [hsign, if_true, takeWhile_run hspace hvalues, dropWhile_run hspace hvalues,
      takeWhile_shown hshown hrest, hempty, Bool.false_eq_true, if_false, Option.some_inj,
      List.length_append, List.length_cons]
    omega

section

variable {group : List (List Part)} {before : Option CodePoint} {text : Text}

/-- A rule for assignments claims an assignment that starts at a word boundary. -/
theorem exists_assignment {claim : Claim} (h : assignmentRule group before text = some claim) :
    boundary before text.head? = true ∧
      ∃ assignment : Assignment group text, claim = assignment.claim := by
  unfold assignmentRule at h
  split at h
  next hboundary =>
    refine ⟨hboundary, ?_⟩
    obtain ⟨parts, hparts, hclaim⟩ := List.exists_of_findSome?_eq_some h
    obtain ⟨width, hwidth, hclaim⟩ := Option.bind_eq_some_iff.mp hclaim
    obtain ⟨more, hmore, hclaim⟩ := Option.bind_eq_some_iff.mp hclaim
    obtain ⟨hle, hspelled⟩ := spelled_take hwidth
    obtain ⟨gap, sign, space, value, rest, hdrop, hgap, hsign, hspace, hvalue, hshown, hrest,
      rfl⟩ := assignmentWidth?_eq_some_iff.mp hmore
    cases hclaim
    refine ⟨⟨text.take width, gap, sign, space, value, rest, ?_, ⟨parts, hparts, hspelled⟩, hgap,
      hsign, hspace, hvalue, hshown, hrest⟩, ?_⟩
    · rw [← hdrop, List.take_append_drop]
    · have hlength : (text.take width).length = width := by
        rw [List.length_take, Nat.min_eq_left hle]
      simp only [Assignment.claim, Assignment.claimed, Assignment.masked, List.length_append,
        hlength]
  next => cases h

theorem assignmentRule_of_assignment (hgroup : group ⊆ keywords)
    (hboundary : boundary before text.head? = true) (assignment : Assignment group text) :
    assignmentRule group before text = some assignment.claim := by
  cases hclaim : assignmentRule group before text with
  | some claim =>
    obtain ⟨-, other, rfl⟩ := exists_assignment hclaim
    rw [other.claim_eq hgroup assignment]
  | none =>
    obtain ⟨parts, hparts, hspelled⟩ := assignment.isName
    rw [assignmentRule, if_pos hboundary, List.findSome?_eq_none_iff] at hclaim
    have hnone := hclaim parts hparts
    have hwidth : keywordWidth? parts text = some assignment.name.length := by
      have h := hspelled.keywordWidth?_append (isSpelling_keywords parts (hgroup hparts))
        (assignment.gap ++ assignment.sign ::
          (assignment.space ++ (assignment.value ++ assignment.rest)))
      rwa [← assignment.text_eq] at h
    have hmore : assignmentWidth? (text.drop assignment.name.length) =
        some (assignment.gap ++ assignment.sign ::
          (assignment.space ++ assignment.value)).length := by
      apply assignmentWidth?_eq_some_iff.mpr
      refine ⟨assignment.gap, assignment.sign, assignment.space, assignment.value,
        assignment.rest, ?_, assignment.gap_blank, assignment.sign_isSign,
        assignment.space_blank, assignment.value_ne, assignment.value_shown,
        assignment.rest_blank, rfl⟩
      exact (congrArg (List.drop assignment.name.length) assignment.text_eq).trans List.drop_left
    rw [hwidth] at hnone
    simp only [Option.bind_eq_bind, Option.bind_some, hmore] at hnone
    cases hnone

/-- A rule for assignments claims exactly those that start at a word boundary. -/
theorem assignmentRule_eq_some_iff (hgroup : group ⊆ keywords) {claim : Claim} :
    assignmentRule group before text = some claim ↔ boundary before text.head? = true ∧
      ∃ assignment : Assignment group text, claim = assignment.claim := by
  constructor
  · exact exists_assignment
  · rintro ⟨hboundary, assignment, rfl⟩
    exact assignmentRule_of_assignment hgroup hboundary assignment

end

end HostLifecycle.Audit
