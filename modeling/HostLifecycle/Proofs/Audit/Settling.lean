import HostLifecycle.Proofs.Audit.Hiding
import HostLifecycle.Proofs.Audit.Tokens
import HostLifecycle.Proofs.Text.Replaced
import Mathlib.Data.List.Infix

/-!
Assignments that read as they are redacted. A replacement brings in no new assignment: what is
read as one in a result was one in the text already, at the same place, or its value is the mask.
So a rule for assignments leaves nothing that it would change, and no later rule brings any of it
back. Only a word that starts with a long s could become a keyword behind a token, since no token
goes on with that letter.
-/

namespace HostLifecycle.Audit

open Text

/-- The letter of keywords that stands in no access token. -/
def longS : CodePoint := .char 'ſ'

/-- Whether a word of letters and digits that starts behind one code point starts behind another
one too. -/
def Meets (before other : Option CodePoint) (text : Text) : Prop :=
  ∀ point ∈ text.head?, isTokenChar point = true → boundary other (some point) = true →
    boundary before (some point) = true

/-- Every keyword starts with a letter of tokens or with a long s. -/
theorem isTokenChar_of_initial {letter : Char} {point : CodePoint} (hletter : letter ∈ initials)
    (h : letterOf? point = some letter) (hlong : point ≠ longS) : isTokenChar point = true := by
  obtain ⟨hmem, hspells⟩ := letterOf?_eq_some_iff.mp h
  have hnumber := toNat_of_spells hspells
  have hbounds := bounds_of_mem_alphabet hmem
  have hinitial : ∀ letter ∈ initials, letter.toNat ≠ 107 ∧ letter.toNat ≠ 105 := by
    simp [initials]
  have hother := hinitial letter hletter
  have hpoint : point.toNat = letter.toNat ∨ point.toNat + 32 = letter.toNat := by
    rcases hnumber with hsame | hupper | ⟨hspecial, -⟩ | ⟨-, hkelvin⟩ | ⟨-, hdotless⟩
    · exact Or.inl hsame
    · exact Or.inr hupper
    · refine absurd ?_ hlong
      rw [← CodePoint.ofNat_toNat point, hspecial]
      decide
    · exact absurd hkelvin hother.1
    · exact absurd hdotless hother.2
  cases point with
  | half n =>
    simp only [CodePoint.toNat] at hpoint
    omega
  | char c =>
    simp only [CodePoint.toNat, Char.toNat] at hpoint hbounds
    simp only [isTokenChar, CodePoint.isIn, isAlphanum_iff, Char.toNat]
    omega

section

variable {group : List (List Part)} {before : Option CodePoint} {text : Text}

namespace Assignment

/-- What a claim takes is the assignment. -/
theorem eq_of_claim {piece rest replacement : Text} (assignment : Assignment group text)
    (htext : text = piece ++ rest) (h : assignment.claim = ⟨piece.length, replacement⟩) :
    piece = assignment.claimed ∧ rest = assignment.rest ∧ replacement = assignment.masked := by
  have hlength : piece.length = assignment.claimed.length := (congrArg Claim.width h).symm
  obtain ⟨hpiece, hrest⟩ := List.append_inj (htext.symm.trans assignment.text_eq_claimed) hlength
  exact ⟨hpiece, hrest, (congrArg Claim.replacement h).symm⟩

/-- An assignment reads as it is redacted only if its value is the mask. -/
theorem value_of_claimed_eq_masked (assignment : Assignment group text)
    (h : assignment.claimed = assignment.masked) :
    assignment.gap = [] ∧ assignment.sign = .char '=' ∧ assignment.space = [] ∧
      assignment.value = mask := by
  rw [claimed, masked, List.append_cancel_left_eq] at h
  have hgap := eq_nil_of_blank_append assignment.gap_blank h (by decide)
  rw [hgap, List.nil_append, List.cons.injEq] at h
  have hspace := eq_nil_of_blank_append assignment.space_blank h.2 (by decide)
  exact ⟨hgap, h.1, hspace, by rw [← h.2, hspace, List.nil_append]⟩

end Assignment

/-- A rule for assignments is settled where every assignment reads as it is redacted. -/
theorem settled_assignmentRule_iff (hgroup : group ⊆ keywords) :
    (assignmentRule group).Settled before text ↔
      (boundary before text.head? = true → ∀ assignment : Assignment group text,
        assignment.claimed = assignment.masked) := by
  have htake : ∀ assignment : Assignment group text,
      text.take assignment.claim.width = assignment.claimed := fun assignment =>
    (congrArg (List.take assignment.claimed.length) assignment.text_eq_claimed).trans List.take_left
  constructor
  · intro h hboundary assignment
    have hclaim := h _ (assignmentRule_of_assignment hgroup hboundary assignment)
    rw [htake] at hclaim
    exact hclaim.symm
  · intro h claim hclaim
    obtain ⟨hboundary, assignment, rfl⟩ := exists_assignment hclaim
    rw [htake]
    exact (h hboundary assignment).symm

/-- The word boundary of an assignment is one behind another code point too, if words start
there. -/
theorem boundary_of_meets {other : Option CodePoint} {point : CodePoint} {rest result : Text}
    (hgroup : group ⊆ keywords) (assignment : Assignment group (point :: result))
    (hlong : longS ∉ point :: rest) (hmeets : Meets before other (point :: rest))
    (h : boundary other (some point) = true) : boundary before (some point) = true := by
  obtain ⟨first, more, letter, hname, hinitial, hletter⟩ :=
    assignment.isName.exists_initial hgroup
  obtain rfl : point = first := by
    have hhead := congrArg List.head? assignment.text_eq
    rw [hname] at hhead
    exact Option.some.inj hhead
  have hne : point ≠ longS := by
    rintro rfl
    exact hlong List.mem_cons_self
  exact hmeets point rfl (isTokenChar_of_initial hinitial hletter hne) h

end

/-- What a rule has to do for settled assignments to stay settled: it makes no words start behind
its claims, brings in no assignment within its replacements, and what is read as an assignment
across a replacement was one across the piece that was replaced. -/
structure Spares (rule : Rule) (group : List (List Part)) : Prop where
  behind : ∀ {before other piece rest replacement}, piece ≠ [] → longS ∉ rest →
    rule before (piece ++ rest) = some ⟨piece.length, replacement⟩ →
    Meets (lastOr before piece) (lastOr other replacement) rest
  within : ∀ {before other piece rest replacement result}, piece ≠ [] →
    rule before (piece ++ rest) = some ⟨piece.length, replacement⟩ →
    Replaced rule (lastOr before piece) rest result →
    Everywhere (fun ahead text => (assignmentRule group).Settled ahead (text ++ result)) other
      replacement
  across : ∀ {before kept piece rest replacement result}, kept ≠ [] → piece ≠ [] →
    rule before (piece ++ rest) = some ⟨piece.length, replacement⟩ →
    ∀ assignment : Assignment group (kept ++ (replacement ++ result)),
      ∃ original : Assignment group (kept ++ (piece ++ rest)),
        original.claimed = original.masked → assignment.claimed = assignment.masked

/-- All assignments of a result are settled if those of the text are, wherever nothing was
claimed. -/
theorem Spares.settled {rule : Rule} {group : List (List Part)} {before : Option CodePoint}
    {text result : Text} (hrule : Spares rule group) (hgroup : group ⊆ keywords)
    (hlong : longS ∉ text)
    (hsettled : Everywhere (fun ahead text => rule ahead text = none →
      (assignmentRule group).Settled ahead text) before text)
    (h : Replaced rule before text result) :
    Everywhere (assignmentRule group).Settled before result := by
  have horiginal : Everywhere (fun ahead text => longS ∉ text ∧ (rule ahead text = none →
      (assignmentRule group).Settled ahead text)) before text := by
    intro front point rest htext
    refine ⟨fun hmem => hlong ?_, hsettled front point rest htext⟩
    exact htext ▸ List.mem_append_right _ hmem
  have hkept : ∀ {before other point rest result}, Meets before other (point :: rest) →
      (longS ∉ point :: rest ∧ (rule before (point :: rest) = none →
        (assignmentRule group).Settled before (point :: rest))) →
      rule before (point :: rest) = none → Replaced rule (some point) rest result →
      (assignmentRule group).Settled other (point :: result) := by
    intro before other point rest result hmeets ⟨hlong, hplace⟩ hnone hrest
    rw [settled_assignmentRule_iff hgroup]
    intro hboundary assignment
    have hsettled := (settled_assignmentRule_iff hgroup).mp (hplace hnone)
      (boundary_of_meets hgroup assignment hlong hmeets hboundary)
    rcases (Replaced.kept hnone hrest).first_claim with ⟨hsame, -⟩ |
      ⟨kept, piece, more, replacement, behind, htext, hresult, hpiece, hclaim, -⟩
    · cases hsame
      exact hsettled assignment
    · have hne : kept ≠ [] := by
        rintro rfl
        rw [List.nil_append] at htext
        rw [htext, ← lastOr_nil before, hclaim] at hnone
        cases hnone
      rw [htext] at hsettled
      revert assignment
      rw [hresult]
      intro assignment
      obtain ⟨original, horiginal⟩ := hrule.across hne hpiece hclaim assignment
      exact horiginal (hsettled original)
  have hmeets : Meets before before text := fun _ _ _ h => h
  refine h.everywhere _ Meets hkept ?_ (fun _ _ _ _ _ h => h) ?_ hmeets horiginal
  · intro before other piece rest replacement result hpiece _ hclaim hrest
    exact hrule.within hpiece hclaim hrest
  · intro before other piece rest replacement hpiece hplace hclaim
    exact hrule.behind hpiece (fun hmem => hplace.1 (List.mem_append_right _ hmem)) hclaim

/-! ### Masks and blocks -/

/-- No keyword is spelled from a place within a mask on. -/
theorem keywordWidth?_mask : ∀ masked ∈ [mask, keyMask], ∀ suffix ∈ masked.tails, suffix ≠ [] →
    suffix.getLast? = some (.char '*') ∧ ∀ parts ∈ keywords, keywordWidth? parts suffix = none := by
  decide

section

variable {group : List (List Part)} {text kept lead suffix masked behind : Text}
  {point : CodePoint}

namespace Assignment

/-- No assignment starts within a mask. -/
theorem not_masked (hgroup : group ⊆ keywords) (assignment : Assignment group text)
    (htext : text = suffix ++ behind) (hmasked : masked ∈ [mask, keyMask])
    (hsuffix : suffix <:+ masked) (hne : suffix ≠ []) : False := by
  obtain ⟨hlast, hnone⟩ :=
    keywordWidth?_mask masked hmasked suffix ((List.mem_tails _ _).mpr hsuffix) hne
  obtain ⟨ahead, star, rfl⟩ := (List.eq_nil_or_concat' suffix).resolve_left hne
  rw [List.getLast?_concat, Option.some_inj] at hlast
  subst hlast
  obtain ⟨more, hmore⟩ := assignment.exists_name_within hgroup
    (htext.trans (List.append_assoc _ _ _)) (by decide)
  obtain ⟨parts, hparts, hspelled⟩ := assignment.isName
  have hwidth := hspelled.keywordWidth?_append (isSpelling_keywords parts (hgroup hparts))
    (more ++ [.char '*'])
  rw [← List.append_assoc, ← hmore, hnone parts (hgroup hparts)] at hwidth
  cases hwidth

/-- What is read as an assignment across a star was one across what stood there, with a value
that goes on with it. -/
theorem across_star (hgroup : group ⊆ keywords) (assignment : Assignment group text)
    (htext : text = kept ++ .char '*' :: lead) (hpoint : isGap point = false)
    (hmask : point ∉ mask) : ∃ original : Assignment group (kept ++ point :: behind),
      original.claimed = original.masked → assignment.claimed = assignment.masked := by
  have hname := assignment.exists_name_within hgroup htext (by decide)
  rcases assignment.reach_unsigned htext (by decide) (by decide) hname with
    ⟨left, hleft, hkept, hblank, -⟩ | ⟨value, more, hvalue, hkept, -⟩
  · obtain ⟨original, hclaimed, hmasked⟩ :=
      assignment.exists_ahead hleft hblank hkept (point :: behind)
    exact ⟨original, fun h => by rwa [hclaimed, hmasked] at h⟩
  · have hshown : ∀ other ∈ value, isGap other = false := fun other hother =>
      assignment.value_shown other (hvalue ▸ List.mem_append_left _ hother)
    refine ⟨assignment.extended hkept hshown hpoint _, fun h => absurd ?_ hmask⟩
    -- the value would be the mask, which does not hold the point
    have hvalueMask : value ++ (point :: behind).takeWhile (fun other => !isGap other) = mask :=
      (value_of_claimed_eq_masked _ h).2.2.2
    rw [← hvalueMask]
    exact List.mem_append_right _ (by simp [hpoint])

end Assignment

variable {before other : Option CodePoint} {piece rest replacement result : Text}

/-- Within a mask nothing is assigned. -/
theorem settled_within_mask (hgroup : group ⊆ keywords) (hmasked : masked ∈ [mask, keyMask]) :
    Everywhere (fun ahead text => (assignmentRule group).Settled ahead (text ++ result)) other
      masked := by
  intro front point more hsplit
  rw [settled_assignmentRule_iff hgroup]
  intro _ assignment
  exact (assignment.not_masked hgroup rfl hmasked ⟨front, hsplit.symm⟩ (List.cons_ne_nil _ _)).elim

/-- What is read as an assignment across a mask was one across what the mask replaced, unless that
could start within a mask. -/
theorem exists_across_mask (hgroup : group ⊆ keywords) (hmasked : masked ∈ [mask, keyMask])
    (hpiece : ∃ point ∈ piece.head?, isGap point = false ∧ point ∉ mask)
    (assignment : Assignment group (kept ++ (masked ++ result))) :
    ∃ original : Assignment group (kept ++ (piece ++ rest)),
      original.claimed = original.masked → assignment.claimed = assignment.masked := by
  have hstar : ∀ masked ∈ [mask, keyMask], masked = .char '*' :: masked.tail := by decide
  obtain ⟨point, hpoint, hgap, hmask⟩ := hpiece
  obtain ⟨tail, rfl⟩ := List.head?_eq_some_iff.mp hpoint
  have htext : kept ++ (masked ++ result) = kept ++ .char '*' :: (masked.tail ++ result) := by
    conv => lhs; rw [hstar masked hmasked]
    rfl
  exact assignment.across_star hgroup htext hgap hmask

theorem spares_keyBlockRule (hgroup : group ⊆ keywords) : Spares keyBlockRule group where
  behind {before other piece rest replacement} _ _ hclaim := by
    obtain ⟨rfl, label, between, ending, -, -, rfl⟩ := keyBlockRule_piece hclaim
    intro point _ _ hboundary
    -- a hyphen and a star are alike to a word
    have hlast : lastOr other keyMask = some (.char '*') := rfl
    rw [hlast] at hboundary
    rw [lastOr_append, lastOr_append, lastOr_marker]
    exact hboundary
  within _ hclaim _ := by
    rw [(keyBlockRule_piece hclaim).1]
    exact settled_within_mask hgroup (by decide)
  across _ _ hclaim := by
    obtain ⟨rfl, label, between, ending, -, -, rfl⟩ := keyBlockRule_piece hclaim
    exact exists_across_mask hgroup (by decide) ⟨.char '-', rfl, by decide, by decide⟩

theorem spares_tokenRule (hgroup : group ⊆ keywords) : Spares tokenRule group where
  behind _ _ hclaim := by
    obtain ⟨-, hrest, -⟩ := tokenRule_piece hclaim
    intro point hpoint htoken
    rw [hrest point hpoint] at htoken
    cases htoken
  within _ hclaim _ := by
    rw [(tokenRule_piece hclaim).1]
    exact settled_within_mask hgroup (by decide)
  across _ _ hclaim := by
    obtain ⟨rfl, -, name, hname, body, rfl, -⟩ := tokenRule_piece hclaim
    obtain ⟨first, tail, rfl, hfirst, hmask, -⟩ := exists_head_of_mem_tokenNames hname
    exact exists_across_mask hgroup (by decide) ⟨first, rfl, isGap_of_isTokenChar hfirst, hmask⟩

/-! ### Assignments of other keywords -/

namespace Assignment

variable {name : Text}

/-- A mask that is assigned to the end of a name reads as it is redacted. -/
theorem claimed_eq_masked_of_mask (hgroup : group ⊆ keywords) (assignment : Assignment group text)
    (htext : text = name ++ .char '=' :: (mask ++ result))
    (hname : ∀ point ∈ name, isNamePoint point = true)
    (hresult : ∀ point ∈ result.head?, isGap point = true) :
    assignment.claimed = assignment.masked := by
  have hsign : ∀ rest, name ≠ assignment.name ++ (assignment.gap ++ assignment.sign :: rest) := by
    intro rest hsplit
    have hpoint := hname assignment.sign (by simp [hsplit])
    rw [isNamePoint_of_isSign assignment.sign_isSign] at hpoint
    cases hpoint
  have hwithin := assignment.exists_name_within hgroup htext (by decide)
  rcases assignment.reach htext (by decide) hwithin with ⟨left, -, hsplit, -, -⟩ |
    ⟨value, more, -, hsplit, -⟩ | ⟨hequals, hsplit, hbehind⟩
  · refine absurd ?_ (hsign (assignment.space ++ (assignment.value ++ left)))
    rw [hsplit, claimed]
    simp only [List.append_assoc, List.cons_append]
  · exact absurd hsplit (hsign _)
  · have hgap := eq_nil_of_blank assignment.gap_blank fun point hpoint =>
      isGap_of_isNamePoint (hname point (by simp [hsplit, List.mem_of_head? hpoint]))
    have hspace := eq_nil_of_blank_append assignment.space_blank hbehind.symm (by decide)
    have hvalue := congrArg (List.takeWhile fun point => !isGap point) hbehind
    rw [hspace, List.nil_append, takeWhile_shown (by decide) hresult,
      takeWhile_shown assignment.value_shown assignment.rest_blank] at hvalue
    rw [claimed, masked, hgap, hspace, hequals, ← hvalue]
    rfl

/-- The last code point ahead of a value is a blank or the sign. -/
theorem getLast?_ahead (assignment : Assignment group text) :
    ∀ point ∈ (assignment.name ++ (assignment.gap ++ assignment.sign :: assignment.space)).getLast?,
      isNamePoint point = false := by
  intro point hpoint
  obtain hspace | ⟨space, last, hspace⟩ := List.eq_nil_or_concat' assignment.space
  · rw [hspace, ← List.append_assoc, List.getLast?_concat] at hpoint
    cases hpoint
    exact isNamePoint_of_isSign assignment.sign_isSign
  · rw [hspace, ← List.cons_append, ← List.append_assoc, ← List.append_assoc,
      List.getLast?_concat] at hpoint
    cases hpoint
    rw [Bool.eq_false_iff]
    intro hname
    have hblank := assignment.space_blank point
      (hspace ▸ List.mem_append_right _ List.mem_cons_self)
    rw [isGap_of_isNamePoint hname] at hblank
    cases hblank

/-- What stands ahead of a sign ends in no other name than that of the assignment. -/
theorem eq_nil_of_name_suffix (hgroup : group ⊆ keywords) (assignment : Assignment group text)
    (hname : IsName keywords name) (h : kept ++ name = assignment.name ++ assignment.gap) :
    kept = [] := by
  have hshown : ∀ point ∈ name, isGap point = false := fun point hpoint =>
    isGap_of_isNamePoint (hname.isNamePoint (List.Subset.refl _) point hpoint)
  rcases List.append_eq_append_iff.mp h with ⟨extra, hextra, hsplit⟩ | ⟨extra, -, hgap⟩
  · have hnone := eq_nil_of_blank assignment.gap_blank fun point hpoint =>
      hshown point (by simp [hsplit, List.mem_of_head? hpoint])
    rw [hnone, List.append_nil] at hsplit
    rw [← hsplit] at hextra
    exact (assignment.isName.mono hgroup).eq_nil_of_suffix hname hextra
  · obtain ⟨first, tail, letter, hcons, -, -⟩ := hname.exists_initial (List.Subset.refl _)
    have hfirst := hshown first (hcons ▸ List.mem_cons_self)
    rw [assignment.gap_blank first (by simp [hgap, hcons])] at hfirst
    cases hfirst

/-- Where a text goes on with a name and a sign, an assignment ends ahead of the name, or the name
is in its value. -/
theorem reach_name (hgroup : group ⊆ keywords) (assignment : Assignment group text)
    (hname : IsName keywords name) (htext : text = (kept ++ name) ++ .char '=' :: result)
    (hkept : kept ≠ []) :
    (∃ left, left ≠ [] ∧ kept = assignment.claimed ++ left ∧
        ∀ point ∈ left.head?, isGap point = true) ∨
      ∃ lead, (∀ point ∈ lead, isGap point = false) ∧ kept = assignment.name ++ (assignment.gap ++
        assignment.sign :: (assignment.space ++ lead)) := by
  have hpoints := hname.isNamePoint (List.Subset.refl _)
  have hshown : ∀ point ∈ name, ¬ isGap point = true := fun point hpoint =>
    Bool.eq_false_iff.mp (isGap_of_isNamePoint (hpoints point hpoint))
  have hwithin := assignment.exists_name_within hgroup htext (by decide)
  rcases assignment.reach htext (by decide) hwithin with ⟨left, hleft, hsplit, hhead, -⟩ |
    ⟨value, more, hvalue, hsplit, -⟩ | ⟨-, hsplit, -⟩
  · left
    obtain ⟨first, tail, rfl⟩ := List.exists_cons_of_ne_nil hleft
    have hblank : isGap first = true := hhead first rfl
    rcases List.append_eq_append_iff.mp hsplit with ⟨extra, -, hextra⟩ | ⟨extra, hextra, hleftSplit⟩
    · exact absurd hblank (hshown first (hextra ▸ List.mem_append_right _ List.mem_cons_self))
    · cases extra with
      | nil =>
        rw [List.nil_append] at hleftSplit
        exact absurd hblank (hshown first (hleftSplit ▸ List.mem_cons_self))
      | cons next extra =>
        cases hleftSplit
        exact ⟨first :: extra, List.cons_ne_nil _ _, hextra, by rintro point ⟨⟩; exact hblank⟩
  · right
    have hvalueShown : ∀ point ∈ value, isGap point = false := fun point hpoint =>
      assignment.value_shown point (hvalue ▸ List.mem_append_left _ hpoint)
    have hahead : kept ++ name = (assignment.name ++ (assignment.gap ++ assignment.sign ::
        assignment.space)) ++ value := by
      rw [hsplit]
      simp only [List.append_assoc, List.cons_append]
    rcases List.append_eq_append_iff.mp hahead with ⟨extra, hextra, hnameSplit⟩ |
      ⟨lead, hlead, hvalueSplit⟩
    · -- what stands ahead of a value does not end in a name
      obtain rfl | ⟨front, last, rfl⟩ := List.eq_nil_or_concat' extra
      · refine ⟨[], fun point hnone => absurd hnone List.not_mem_nil, ?_⟩
        rw [List.append_nil] at hextra
        rw [← hextra, List.append_nil]
      · have hlast := assignment.getLast?_ahead last (by
          rw [hextra, ← List.append_assoc, List.getLast?_concat]
          rfl)
        rw [hpoints last (by simp [hnameSplit])] at hlast
        cases hlast
    · refine ⟨lead, fun point hpoint => hvalueShown point (by simp [hvalueSplit, hpoint]), ?_⟩
      rw [hlead]
      simp only [List.append_assoc, List.cons_append]
  · exact absurd (assignment.eq_nil_of_name_suffix hgroup hname hsplit) hkept

/-- What is read as an assignment across a name and its sign was one across the name and what stood
behind it. -/
theorem across_name (hgroup : group ⊆ keywords) (assignment : Assignment group text)
    (hname : IsName keywords name) (htext : text = (kept ++ name) ++ .char '=' :: result)
    (hkept : kept ≠ []) (behind : Text) : ∃ original : Assignment group (kept ++ (name ++ behind)),
      original.claimed = original.masked → assignment.claimed = assignment.masked := by
  rcases assignment.reach_name hgroup hname htext hkept with ⟨left, hleft, hsplit, hblank⟩ |
    ⟨lead, hlead, hsplit⟩
  · obtain ⟨original, hclaimed, hmasked⟩ :=
      assignment.exists_ahead hleft hblank hsplit (name ++ behind)
    exact ⟨original, fun h => by rwa [hclaimed, hmasked] at h⟩
  · obtain ⟨first, tail, letter, hcons, -, -⟩ := hname.exists_initial (List.Subset.refl _)
    have hpoints := hname.isNamePoint (List.Subset.refl _)
    have hfirst : isGap first = false :=
      isGap_of_isNamePoint (hpoints first (hcons ▸ List.mem_cons_self))
    obtain ⟨parts, hparts, hspelled⟩ := hname
    subst hcons
    refine ⟨assignment.extended hsplit hlead hfirst _, fun h => ?_⟩
    -- the value would be the mask, within which no keyword is spelled
    exfalso
    have hvalue : lead ++ ((first :: tail) ++ behind).takeWhile (fun other => !isGap other) =
        mask := (value_of_claimed_eq_masked _ h).2.2.2
    rw [List.takeWhile_append_of_pos (by
      intro point hpoint
      rw [isGap_of_isNamePoint (hpoints point hpoint)]
      rfl)] at hvalue
    have hnone := (keywordWidth?_mask mask List.mem_cons_self _
      ((List.mem_tails _ _).mpr ⟨lead, hvalue⟩) (by simp)).2 parts hparts
    rw [hspelled.keywordWidth?_append (isSpelling_keywords parts hparts)] at hnone
    cases hnone

end Assignment

/-- The rules for assignments spare those of other keywords, and of their own. -/
theorem spares_assignmentRule {others : List (List Part)} (hgroup : group ⊆ keywords)
    (hothers : others ⊆ keywords) : Spares (assignmentRule others) group where
  behind _ _ hclaim := by
    obtain ⟨-, inner, heq⟩ := exists_assignment hclaim
    obtain ⟨-, hrest, -⟩ := inner.eq_of_claim rfl heq.symm
    intro point hpoint htoken
    have hblank := inner.rest_blank point (hrest ▸ hpoint)
    rw [isGap_of_isTokenChar htoken] at hblank
    cases hblank
  within {before other piece rest replacement result} _ hclaim hresult := by
    obtain ⟨-, inner, heq⟩ := exists_assignment hclaim
    obtain ⟨-, hrest, rfl⟩ := inner.eq_of_claim rfl heq.symm
    have hrestBlank : ∀ point ∈ rest.head?, isGap point = true := hrest ▸ inner.rest_blank
    have hblank : ∀ point ∈ result.head?, isGap point = true := by
      rw [hresult.head?_of_none (assignmentRule_of_blank hothers hrestBlank)]
      exact hrestBlank
    have hname := inner.isName.isNamePoint hothers
    intro front point more hsplit
    rw [settled_assignmentRule_iff hgroup]
    intro _ assignment
    rcases List.append_eq_append_iff.mp hsplit with ⟨extra, -, hextra⟩ | ⟨extra, hextra, hmore⟩
    · cases extra with
      | nil =>
        obtain ⟨lead, hlead⟩ := assignment.exists_name_within hgroup (List.nil_append _).symm (by
          rw [List.nil_append, List.cons.injEq] at hextra
          rw [← hextra.1]
          decide)
        obtain ⟨first, tail, letter, hcons, -, -⟩ := assignment.isName.exists_initial hgroup
        rw [hcons] at hlead
        cases hlead
      | cons first extra =>
        rw [List.cons_append, List.cons.injEq] at hextra
        exact (assignment.not_masked hgroup rfl List.mem_cons_self ⟨extra, hextra.2.symm⟩
          (List.cons_ne_nil _ _)).elim
    · have htext : point :: more ++ result = extra ++ .char '=' :: (mask ++ result) := by
        rw [hmore, List.append_assoc, List.cons_append]
      exact assignment.claimed_eq_masked_of_mask hgroup htext
        (fun other hother => hname other (by simp [hextra, hother])) hblank
  across {before kept piece rest replacement result} hkept _ hclaim assignment := by
    obtain ⟨-, inner, heq⟩ := exists_assignment hclaim
    obtain ⟨-, -, rfl⟩ := inner.eq_of_claim rfl heq.symm
    have htext : kept ++ (inner.masked ++ result) =
        (kept ++ inner.name) ++ .char '=' :: (mask ++ result) := by
      simp only [Assignment.masked, List.append_assoc, List.cons_append]
    have hpiece : kept ++ (piece ++ rest) = kept ++ (inner.name ++ (inner.gap ++ inner.sign ::
        (inner.space ++ (inner.value ++ inner.rest)))) := congrArg (kept ++ ·) inner.text_eq
    rw [hpiece]
    exact assignment.across_name hgroup (inner.isName.mono hothers) htext hkept _

end

end HostLifecycle.Audit
