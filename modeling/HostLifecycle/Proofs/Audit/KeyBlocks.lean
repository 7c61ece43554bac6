import HostLifecycle.Proofs.Audit.Blocks
import HostLifecycle.Proofs.Audit.Concealment
import HostLifecycle.Proofs.Audit.Idempotence

/-!
Private keys that redaction conceals. The rules for assignments come before the one for private
keys, and the value of an assignment goes on to the next blank. So a block stays one only if no
assignment ahead of it takes the hyphens of its opening marker, and none in its body takes those of
its closing marker. Then the block is still there when its own rule comes, with a body that the
result does not depend on.
-/

namespace HostLifecycle.Audit

open Text

/-- Whether a text is an assignment that what stands behind it goes on with: there is no value
behind the sign yet, or no blank behind the value. -/
def IsUnfinished (group : List (List Part)) (text : Text) : Prop :=
  ∃ name gap sign space lead, text = name ++ (gap ++ sign :: (space ++ lead)) ∧
    IsName group name ∧ (∀ point ∈ gap, isGap point = true) ∧ isSign sign = true ∧
    (∀ point ∈ space, isGap point = true) ∧ ∀ point ∈ lead, isGap point = false

/-- Whether no assignment at the start of a text goes on behind the text. -/
def Finishes (before : Option CodePoint) (text : Text) : Prop :=
  boundary before text.head? = true → ¬ IsUnfinished keywords text

section

variable {group others : List (List Part)} {before other : Option CodePoint}
  {text front rest behind piece replacement result label body ending : Text}

/-- To what stands ahead of them hyphens are like the end of the text. -/
theorem boundary_append_hyphens (before : Option CodePoint) (text behind : Text) :
    boundary before (text ++ (hyphens ++ behind)).head? = boundary before text.head? := by
  cases text with
  | nil =>
    have hhyphen : isWord (.char '-') = false := by decide
    exact congrArg (before.any isWord != ·) hhyphen
  | cons point rest => rfl

namespace Assignment

/-- An assignment ahead of hyphens ends there, or its value goes on with them. -/
theorem reach_hyphens {whole : Text} (hgroup : group ⊆ keywords)
    (assignment : Assignment group whole) (hwhole : whole = text ++ (hyphens ++ behind)) :
    (∃ left, left ≠ [] ∧ text = assignment.claimed ++ left ∧
        ∀ point ∈ left.head?, isGap point = true) ∨
      IsUnfinished keywords text ∧ text.length < assignment.claim.width := by
  have htext : whole = text ++ .char '-' :: .char '-' :: (("---" : Text) ++ behind) := hwhole
  have hname := assignment.exists_name_within_hyphens hgroup htext
  rcases assignment.reach_unsigned htext (by decide) (by decide) hname with
    ⟨left, hleft, hsplit, hblank, -⟩ | ⟨lead, more, hvalue, hsplit, -⟩
  · exact Or.inl ⟨left, hleft, hsplit, hblank⟩
  · refine Or.inr ⟨⟨assignment.name, assignment.gap, assignment.sign, assignment.space, lead,
      hsplit, assignment.isName.mono hgroup, assignment.gap_blank, assignment.sign_isSign,
      assignment.space_blank, fun point hpoint => assignment.value_shown point
        (hvalue ▸ List.mem_append_left _ hpoint)⟩, ?_⟩
    simp only [claim, claimed, hvalue, hsplit, List.length_append, List.length_cons]
    omega

end Assignment

/-- What goes on behind a text goes on with hyphens that stand there, to the end. -/
theorem IsUnfinished.exists_assignment (h : IsUnfinished group text) :
    ∃ assignment : Assignment group (text ++ hyphens), assignment.rest = [] ∧
      text.length < assignment.claim.width := by
  obtain ⟨name, gap, sign, space, lead, htext, hname, hgap, hsign, hspace, hlead⟩ := h
  have hsplit : text ++ hyphens =
      name ++ (gap ++ sign :: (space ++ ((lead ++ hyphens) ++ []))) := by
    rw [htext]
    simp only [List.append_assoc, List.cons_append, List.append_nil]
  have hshown : ∀ point ∈ lead ++ hyphens, isGap point = false := by
    rw [List.forall_mem_append]
    exact ⟨hlead, by decide⟩
  refine ⟨⟨name, gap, sign, space, lead ++ hyphens, [], hsplit, hname, hgap, hsign, hspace,
    List.append_ne_nil_of_right_ne_nil _ (by decide), hshown, by simp⟩, rfl, ?_⟩
  have hhyphens : hyphens.length = 5 := rfl
  simp only [Assignment.claim, Assignment.claimed, htext, List.length_append, List.length_cons,
    hhyphens]
  omega

/-- An assignment that is done claims what it does whatever stands behind the hyphens. -/
theorem Finishes.exists_claimed {claim : Claim} (h : Finishes before text)
    (hgroup : group ⊆ keywords)
    (hclaim : assignmentRule group before (text ++ (hyphens ++ behind)) = some claim) :
    ∃ assignment : Assignment group (text ++ (hyphens ++ behind)), claim = assignment.claim ∧
      boundary before text.head? = true ∧ ∃ left, left ≠ [] ∧ text = assignment.claimed ++ left ∧
        ∀ point ∈ left.head?, isGap point = true := by
  obtain ⟨hboundary, assignment, rfl⟩ := exists_assignment hclaim
  rw [boundary_append_hyphens] at hboundary
  rcases assignment.reach_hyphens hgroup rfl with hends | ⟨hunfinished, -⟩
  · exact ⟨assignment, rfl, hboundary, hends⟩
  · exact absurd hunfinished (h hboundary)

theorem Finishes.assignmentRule_eq (h : Finishes before text) (hgroup : group ⊆ keywords)
    (rest behind : Text) :
    assignmentRule group before (text ++ (hyphens ++ rest)) =
      assignmentRule group before (text ++ (hyphens ++ behind)) := by
  have hsome : ∀ {rest claim} behind,
      assignmentRule group before (text ++ (hyphens ++ rest)) = some claim →
        assignmentRule group before (text ++ (hyphens ++ behind)) = some claim := by
    intro rest claim behind hclaim
    obtain ⟨assignment, rfl, hboundary, left, hleft, hsplit, hblank⟩ :=
      h.exists_claimed hgroup hclaim
    obtain ⟨original, hclaimed, hmasked⟩ :=
      assignment.exists_ahead hleft hblank hsplit (hyphens ++ behind)
    rw [← boundary_append_hyphens before text behind] at hboundary
    rw [assignmentRule_of_assignment hgroup hboundary original, Assignment.claim,
      Assignment.claim, hclaimed, hmasked]
  exact Option.ext fun claim => ⟨hsome behind, hsome rest⟩

/-- Ahead of hyphens nothing is claimed but the text itself. -/
theorem Finishes.fits (h : Finishes before text) (hgroup : group ⊆ keywords) :
    ((assignmentRule group).ahead hyphens).Fits before text := by
  intro claim hclaim
  have hpositive := (fits_assignmentRule group _ _ claim hclaim).1
  rw [Rule.ahead, ← List.append_nil hyphens] at hclaim
  obtain ⟨assignment, rfl, -, left, -, hsplit, -⟩ := h.exists_claimed hgroup hclaim
  have hlength := congrArg List.length hsplit
  rw [List.length_append] at hlength
  exact ⟨hpositive, Nat.le.intro hlength.symm⟩

/-- Whether an assignment goes on is seen from what is claimed ahead of hyphens. -/
theorem finishes_iff : Finishes before text ↔
    ∀ claim ∈ assignmentRule keywords before (text ++ hyphens), claim.width ≤ text.length := by
  constructor
  · intro h claim hclaim
    exact (h.fits (List.Subset.refl _) claim hclaim).2
  · intro h hboundary hunfinished
    obtain ⟨assignment, -, hlong⟩ := hunfinished.exists_assignment
    rw [← boundary_append_hyphens before text [], List.append_nil] at hboundary
    have hclaim := assignmentRule_of_assignment (List.Subset.refl _) hboundary assignment
    exact absurd (h _ hclaim) (Nat.not_le.mpr hlong)

instance (before : Option CodePoint) (text : Text) : Decidable (Finishes before text) :=
  decidable_of_iff' _ finishes_iff

/-- Behind a star and a blank nothing goes on that starts ahead of the star. -/
theorem finishes_star (hbehind : behind ≠ [])
    (hblank : ∀ point ∈ behind.head?, isGap point = true) :
    Finishes before (front ++ .char '*' :: behind) := by
  intro _ hunfinished
  obtain ⟨assignment, hrest, -⟩ := hunfinished.exists_assignment
  have hsplit : (front ++ .char '*' :: behind) ++ hyphens =
      front ++ .char '*' :: (behind ++ hyphens) := by
    rw [List.append_assoc, List.cons_append]
  have hname := assignment.exists_name_within (List.Subset.refl _) hsplit (by decide)
  rcases assignment.reach_unsigned hsplit (by decide) (by decide) hname with
    ⟨left, -, -, -, hleft⟩ | ⟨value, more, hvalue, -, hmore⟩
  · rw [hrest] at hleft
    simp at hleft
  · rw [hrest, List.append_nil] at hmore
    obtain ⟨first, tail, rfl⟩ := List.exists_cons_of_ne_nil hbehind
    have hshown := assignment.value_shown first
      (hvalue ▸ List.mem_append_right _ (List.mem_cons_of_mem _ (hmore ▸ List.mem_cons_self)))
    rw [hblank first rfl] at hshown
    cases hshown

theorem sparesHyphens_star : SparesHyphens (front ++ .char '*' :: behind) := by
  intro left hmarker
  rw [List.append_assoc, List.cons_append,
    behindMarker?_across (Or.inr rfl) isOutside_star, Option.map_eq_some_iff] at hmarker
  obtain ⟨extra, -, rfl⟩ := hmarker
  simp only [List.length_append, List.length_cons]
  omega

/-- Markers hold no signs of assignment. -/
theorem isSign_of_mem_marker {start : Text} (hstart : start = opening ∨ start = closing)
    (hlabel : IsLabel label) : ∀ point ∈ marker start label, isSign point = false := by
  intro point hpoint
  rcases mem_marker hstart hlabel point hpoint with hinside | rfl
  · rw [Bool.eq_false_iff]
    intro hsign
    simp only [isSign, Bool.or_eq_true, beq_iff_eq] at hsign
    rcases hsign with rfl | rfl <;> cases hinside
  · decide

/-- No assignment starts within a marker, whatever follows it. -/
theorem assignmentRule_within_marker {start : Text} (hgroup : group ⊆ keywords)
    (hstart : start = opening ∨ start = closing) (hlabel : IsLabel label) (rest : Text) :
    Everywhere (fun ahead text => assignmentRule group ahead (text ++ rest) = none) before
      (marker start label) := by
  intro ahead point more hsplit
  apply Option.eq_none_iff_forall_ne_some.mpr
  intro claim hclaim
  obtain ⟨-, assignment, -⟩ := exists_assignment hclaim
  have hpoint : point ≠ .char '-' := by
    rintro rfl
    obtain ⟨first, tail, letter, hname, -, hletter⟩ := assignment.isName.exists_initial hgroup
    have hhead := congrArg List.head? assignment.text_eq
    rw [hname] at hhead
    cases hhead
    rw [letterOf?_of_isJoint (by decide)] at hletter
    cases hletter
  -- before the last two hyphens there is no sign that the name could have behind it
  obtain ⟨extra, hextra⟩ : ∃ extra, point :: more = extra ++ ("--" : Text) := by
    have hhyphens : marker start label = (start ++ (label ++ (keyLabel ++ "---"))) ++ "--" := by
      simp only [marker, List.append_assoc]
      rfl
    rcases List.append_eq_append_iff.mp (hhyphens.symm.trans hsplit) with
      ⟨short, -, hshort⟩ | ⟨extra, -, hextra⟩
    · have hmem : point ∈ ("--" : Text) := hshort ▸ List.mem_append_right _ List.mem_cons_self
      exact absurd hmem (by simpa [Text.ofString, Text.ofChars] using hpoint)
    · exact ⟨extra, hextra⟩
  have hwhole : marker start label = ahead ++ (extra ++ ("--" : Text)) := by rw [hsplit, hextra]
  have hsign : assignment.sign ∉ extra := by
    intro hmem
    have hnone := isSign_of_mem_marker hstart hlabel assignment.sign
      (hwhole ▸ List.mem_append_right _ (List.mem_append_left _ hmem))
    rw [assignment.sign_isSign] at hnone
    cases hnone
  have htext : point :: more ++ rest = extra ++ .char '-' :: .char '-' :: rest := by
    rw [hextra, List.append_assoc]
    rfl
  have hname := assignment.exists_name_within_hyphens hgroup htext
  rcases assignment.reach_unsigned htext (by decide) (by decide) hname with
    ⟨left, -, hclaimed, -, -⟩ | ⟨value, -, -, hlead, -⟩
  · exact hsign (by simp [hclaimed, Assignment.claimed])
  · exact hsign (by simp [hlead])

/-- What the rule for assignments makes of a text ahead of hyphens. -/
def assigned (group : List (List Part)) (before : Option CodePoint) (text : Text) : Text :=
  substituteFrom ((assignmentRule group).ahead hyphens) 0 before text

/-- A text whose assignments are done is substituted by itself, ahead of hyphens. -/
theorem substituteFrom_hyphens (hgroup : group ⊆ keywords) (h : Everywhere Finishes before text)
    (rest : Text) :
    substituteFrom (assignmentRule group) 0 before (text ++ (hyphens ++ rest)) =
      assigned group before text ++
        substituteFrom (assignmentRule group) 0 (lastOr before text) (hyphens ++ rest) := by
  have hagree : Everywhere (fun ahead text => (assignmentRule group).ahead (hyphens ++ rest) ahead
      text = (assignmentRule group).ahead hyphens ahead text) before text := by
    intro front point behind hsplit
    have hplace := (h front point behind hsplit).assignmentRule_eq hgroup rest []
    rwa [List.append_nil] at hplace
  obtain ⟨hsame, hextra⟩ := substituteFrom_congr 0 hagree
  have hzero : overhang ((assignmentRule group).ahead hyphens) 0 before text = 0 :=
    overhang_eq_zero fun front point behind hsplit claim hclaim =>
      ((h front point behind hsplit).fits hgroup claim hclaim).2
  rw [substituteFrom_append, hextra, hzero, hsame, assigned]

/-- A block between texts whose assignments are done is still there behind a rule for assignments,
with another body. -/
theorem substitute_block (hgroup : group ⊆ keywords) (hlabel : IsLabel label)
    (hending : IsLabel ending) (hfront : Everywhere Finishes none front)
    (hbody : Everywhere Finishes (some (.char '-')) body) :
    substitute (assignmentRule group) (front ++ (block label body ending ++ rest)) =
      assigned group none front ++ (block label (assigned group (some (.char '-')) body) ending ++
        substituteFrom (assignmentRule group) 0 (some (.char '-')) rest) := by
  obtain ⟨inner, hopening⟩ := exists_marker_hyphens (Or.inl rfl) label
  obtain ⟨innerEnding, hclosing⟩ := exists_marker_hyphens (Or.inr rfl) ending
  have hmarker : ∀ {start label before} behind, start = opening ∨ start = closing → IsLabel label →
      substituteFrom (assignmentRule group) 0 before (marker start label ++ behind) =
        marker start label ++
          substituteFrom (assignmentRule group) 0 (some (.char '-')) behind := by
    intro start label before behind hstart hlabel
    rw [substituteFrom_append_of_none (assignmentRule_within_marker hgroup hstart hlabel behind),
      lastOr_marker]
  simp only [substitute, block, List.append_assoc]
  rw [hopening, substituteFrom_hyphens hgroup hfront, ← hopening, hmarker _ (Or.inl rfl) hlabel,
    hclosing, substituteFrom_hyphens hgroup hbody, ← hclosing, hmarker _ (Or.inr rfl) hending]

/-! ### What the rules for assignments leave -/

theorem replaced_assigned (hgroup : group ⊆ keywords) (h : Everywhere Finishes before text) :
    Replaced ((assignmentRule group).ahead hyphens) before text (assigned group before text) :=
  replaced_substituteFrom fun front point rest hsplit => (h front point rest hsplit).fits hgroup

/-- An assignment that is done has a blank behind it, and a star comes in its place. -/
theorem exists_of_piece (hgroup : group ⊆ keywords) (h : Everywhere Finishes before (piece ++ rest))
    (hpiece : piece ≠ []) (hclaim : (assignmentRule group).ahead hyphens before (piece ++ rest) =
      some ⟨piece.length, replacement⟩) :
    rest ≠ [] ∧ (∀ point ∈ rest.head?, isGap point = true) ∧
      ∃ lead, replacement = lead ++ [.char '*'] := by
  have hplace : Finishes before (piece ++ rest) := by
    obtain ⟨first, tail, rfl⟩ := List.exists_cons_of_ne_nil hpiece
    exact h [] first (tail ++ rest) rfl
  rw [Rule.ahead, ← List.append_nil hyphens] at hclaim
  obtain ⟨assignment, hsame, -, left, hleft, hsplit, hblank⟩ := hplace.exists_claimed hgroup hclaim
  have hlength : piece.length = assignment.claimed.length := congrArg Claim.width hsame
  obtain ⟨-, rfl⟩ := List.append_inj hsplit hlength
  refine ⟨hleft, hblank, assignment.name ++ .char '=' :: mask.dropLast, ?_⟩
  have hmasked : replacement = assignment.masked := congrArg Claim.replacement hsame
  exact hmasked.trans (List.append_assoc _ (.char '=' :: mask.dropLast) [.char '*']).symm

/-- What holds of all texts with a star ahead of a blank is kept by the rules for assignments, if
what is ahead of a text matters to it only where the text starts with no blank. -/
theorem everywhere_assigned {property : Option CodePoint → Text → Prop}
    (hstar : ∀ ahead front {behind}, behind ≠ [] → (∀ point ∈ behind.head?, isGap point = true) →
      property ahead (front ++ .char '*' :: behind))
    (hblank : ∀ {ahead other text}, (∀ point ∈ text.head?, isGap point = true) →
      property ahead text → property other text)
    (hgroup : group ⊆ keywords) (hfinishes : Everywhere Finishes before text)
    (h : Everywhere property before text) :
    Everywhere property before (assigned group before text) := by
  -- behind a replacement the result starts with the blank that ended the assignment
  have hbehind : ∀ {before rest result}, rest ≠ [] → (∀ point ∈ rest.head?, isGap point = true) →
      Replaced ((assignmentRule group).ahead hyphens) before rest result →
      ∀ ahead front, property ahead (front ++ .char '*' :: result) := by
    intro before rest result hne hrest hreplaced ahead front
    have hhead := hreplaced.head?_of_none (assignmentRule_of_blank hgroup (by
      rwa [List.head?_append_of_ne_nil _ hne]))
    have hresult : result ≠ [] := by
      rintro rfl
      exact hne (List.head?_eq_none_iff.mp hhead.symm)
    rw [← hhead] at hrest
    exact hstar ahead front hresult hrest
  refine (replaced_assigned hgroup hfinishes).everywhere
    (fun ahead text => property ahead text ∧ Everywhere Finishes ahead text)
    (fun ahead other text => ahead = other ∨ ∀ point ∈ text.head?, isGap point = true)
    ?_ ?_ (fun _ _ => Or.inl rfl) ?_ (Or.inl rfl) ?_
  · rintro before other point rest result hmeets ⟨hproperty, hplaces⟩ hnone hrest
    rcases (Replaced.kept hnone hrest).first_claim with ⟨hsame, -⟩ |
      ⟨kept, piece, more, replacement, behind, htext, hresult, hpiece, hclaim, hmore⟩
    · rw [hsame]
      rcases hmeets with rfl | hblanks
      · exact hproperty
      · exact hblank hblanks hproperty
    · rw [htext, everywhere_append] at hplaces
      obtain ⟨hne, hblanks, lead, rfl⟩ := exists_of_piece hgroup hplaces.2 hpiece hclaim
      rw [hresult, List.append_assoc, List.singleton_append, ← List.append_assoc]
      exact hbehind hne hblanks hmore other (kept ++ lead)
  · rintro before other piece rest replacement result hpiece ⟨-, hplaces⟩ hclaim hrest
    obtain ⟨hne, hblanks, lead, rfl⟩ := exists_of_piece hgroup hplaces hpiece hclaim
    intro front point more hsplit
    obtain ⟨tail, htail⟩ : ∃ tail, point :: more = tail ++ [.char '*'] := by
      obtain ⟨tail, last, htail⟩ :=
        (List.eq_nil_or_concat' (point :: more)).resolve_left (List.cons_ne_nil _ _)
      rw [htail, ← List.append_assoc] at hsplit
      obtain ⟨-, hlast⟩ := List.append_inj' hsplit rfl
      exact ⟨tail, hlast ▸ htail⟩
    rw [htail, List.append_assoc, List.singleton_append]
    exact hbehind hne hblanks hrest _ tail
  · rintro before other piece rest replacement hpiece ⟨-, hplaces⟩ hclaim
    exact Or.inr (exists_of_piece hgroup hplaces hpiece hclaim).2.1
  · intro front point rest hsplit
    refine ⟨h front point rest hsplit, ?_⟩
    rw [hsplit, everywhere_append] at hfinishes
    exact hfinishes.2

/-- What one rule for assignments leaves is done for all of them. -/
theorem finishes_assigned (hgroup : group ⊆ keywords) (h : Everywhere Finishes before text) :
    Everywhere Finishes before (assigned group before text) := by
  refine everywhere_assigned (fun _ _ => finishes_star) ?_ hgroup h h
  rintro ahead other text hblank - - ⟨name, gap, sign, space, lead, rfl, hname, -⟩
  obtain ⟨point, tail, letter, rfl, -, -⟩ := hname.exists_initial (List.Subset.refl _)
  have hpoint := hname.isNamePoint (List.Subset.refl _) point List.mem_cons_self
  have hgap := hblank point rfl
  rw [isGap_of_isNamePoint hpoint] at hgap
  cases hgap

theorem sparesHyphens_assigned (hgroup : group ⊆ keywords) (h : Everywhere Finishes before text)
    (hspares : Everywhere (fun _ text => SparesHyphens text) before text) :
    Everywhere (fun _ text => SparesHyphens text) before (assigned group before text) :=
  everywhere_assigned (fun _ _ _ _ _ => sparesHyphens_star) (fun _ h => h) hgroup h hspares

/-- The body of a block stays one. -/
theorem isBody_assigned (hgroup : group ⊆ keywords) (h : Everywhere Finishes before body)
    (hbody : IsBody body) : IsBody (assigned group before body) := by
  have hreplacement : ∀ point ∉ .char '=' :: mask, ∀ before text claim,
      (assignmentRule group).ahead hyphens before text = some claim → point ∉ text →
        point ∉ claim.replacement := by
    intro point hpoint before text claim hclaim htext
    obtain ⟨-, assignment, rfl⟩ := exists_assignment hclaim
    obtain ⟨more, hmore⟩ := assignment.exists_name_within_hyphens hgroup
      (rfl : text ++ hyphens = text ++ .char '-' :: .char '-' :: ("---" : Text))
    intro hmem
    rcases List.mem_append.mp hmem with hname | hmask
    · exact htext (hmore ▸ List.mem_append_left _ hname)
    · exact hpoint hmask
  have hreplaced := replaced_assigned hgroup h
  exact ⟨hreplaced.not_mem (hreplacement _ (by decide)) hbody.1,
    hreplaced.not_mem (hreplacement _ (by decide)) hbody.2⟩

/-! ### The block behind the rules -/

/-- Behind the rules for assignments the block is still there, and what is around it does not
depend on its body. -/
theorem exists_block_behind {groups : List (List (List Part))}
    (hgroups : ∀ group ∈ groups, group ⊆ keywords) (hlabel : IsLabel label)
    (hending : IsLabel ending) (hfront : Everywhere Finishes none front)
    (hspares : Everywhere (fun _ text => SparesHyphens text) none front) :
    ∃ kept left, Everywhere (fun _ text => SparesHyphens text) none kept ∧
      ∀ body, IsBody body → Everywhere Finishes (some (.char '-')) body →
        ∃ other, IsBody other ∧
          (groups.map assignmentRule).foldl (fun text rule => substitute rule text)
            (front ++ (block label body ending ++ rest)) =
              kept ++ (block label other ending ++ left) := by
  induction groups generalizing front rest with
  | nil => exact ⟨front, rest, hspares, fun body hbody _ => ⟨body, hbody, rfl⟩⟩
  | cons group groups ih =>
    rw [List.forall_mem_cons] at hgroups
    obtain ⟨hgroup, hgroups⟩ := hgroups
    obtain ⟨kept, left, hkept, hblock⟩ := ih hgroups (finishes_assigned hgroup hfront)
      (sparesHyphens_assigned hgroup hfront hspares)
    refine ⟨kept, left, hkept, fun body hbody hfinishes => ?_⟩
    obtain ⟨other, hother, hsame⟩ := hblock _ (isBody_assigned hgroup hfinishes hbody)
      (finishes_assigned hgroup hfinishes)
    refine ⟨other, hother, ?_⟩
    rw [List.map_cons, List.foldl_cons, substitute_block hgroup hlabel hending hfront hfinishes]
    exact hsame

/-- The redacted message tells nothing of the body of a private key, if no assignment ahead of the
block and none in its body goes on with the hyphens of the next marker, and no closing marker ahead
of the block lacks them. -/
theorem redactMessage_conceals_key (front label first second ending rest : Text)
    (hlabel : IsLabel label) (hending : IsLabel ending) (hlength : first.length = second.length)
    (hbodies : ∀ body ∈ [first, second], IsBody body ∧ Everywhere Finishes (some (.char '-')) body)
    (hfront : Everywhere Finishes none front)
    (hclosed : Everywhere (fun _ text => ¬ IsUnclosed text) none front)
    (hshort : (front ++ (block label first ending ++ rest)).length ≤ maximalLength) :
    redactMessage true (.str (front ++ (block label first ending ++ rest))) =
      redactMessage true (.str (front ++ (block label second ending ++ rest))) := by
  have hspares : Everywhere (fun _ text => SparesHyphens text) none front :=
    hclosed.imp fun _ _ _ => sparesHyphens_iff.mpr
  obtain ⟨kept, left, hkept, hblock⟩ :=
    exists_block_behind subset_keywords hlabel hending hfront hspares
  obtain ⟨result, hresult⟩ := exists_kept_block hlabel hending left hkept (Nat.zero_le _)
  have hrules : ∀ body ∈ [first, second], rules.foldl (fun text rule => substitute rule text)
      (front ++ (block label body ending ++ rest)) = substitute tokenRule
        (result ++ (keyMask ++ substituteFrom keyBlockRule 0 (some (.char '-')) left)) := by
    intro body hmem
    obtain ⟨hbody, hfinishes⟩ := hbodies body hmem
    obtain ⟨other, hother, hsame⟩ := hblock body hbody hfinishes
    rw [rules_eq, List.foldl_append, hsame]
    simp only [List.foldl_cons, List.foldl_nil, substitute, hresult other hother]
  apply redactMessage_congr
  · simp only [block, List.length_append, hlength]
  · rw [hrules first (by simp), hrules second (by simp)]
  · exact hshort

/-- A key among assignments that are done, one of them in its body, and behind a closing marker. -/
theorem redactMessage_conceals_key_among_assignments :
    redactMessage true (.str (("password: hunter2 wrote -----END PRIVATE KEY-----" : Text) ++
        (block "RSA " "MIIEow==\ntoken=\nAAECAw==\n" "" ++ (" token=x" : Text)))) =
      redactMessage true (.str (("password: hunter2 wrote -----END PRIVATE KEY-----" : Text) ++
        (block "RSA " "api/key+0123456789abcdefg" "" ++ (" token=x" : Text)))) :=
  redactMessage_conceals_key "password: hunter2 wrote -----END PRIVATE KEY-----" "RSA "
    "MIIEow==\ntoken=\nAAECAw==\n" "api/key+0123456789abcdefg" "" " token=x"
    (by unfold IsLabel; decide) (by unfold IsLabel; decide) (by decide)
    (by unfold IsBody; decide) (by decide) (by decide) (by decide +kernel)

/-- Behind a sign of assignment a block loses its opening marker, and the body stays. -/
example : redact (("private_key=" : Text) ++ block "" "\nMIIEow==\n" "") =
    "private_key=***REDACTED*** PRIVATE KEY-----\nMIIEow==\n-----END PRIVATE KEY-----" := by
  decide +kernel

end

end HostLifecycle.Audit
