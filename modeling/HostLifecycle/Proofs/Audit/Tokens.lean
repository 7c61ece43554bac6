import HostLifecycle.Proofs.Audit.Assignments

/-!
Access tokens. A token is one of two beginnings, each of which ends in its only dot, and a body of
letters and digits that goes on as far as there are any. The rule for tokens claims exactly those
that start at a word boundary and have a body of some length.
-/

namespace HostLifecycle.Audit

open Text

/-- The letters ahead of the dots that access tokens start with. -/
def tokenNames : List Text := ["hvs", "s"]

theorem tokenStarts_eq : tokenStarts = tokenNames.map (· ++ [.char '.']) := by decide

/-- The numbers of the characters in access tokens. -/
theorem toNat_of_isTokenChar {point : CodePoint} (h : isTokenChar point = true) :
    48 ≤ point.toNat ∧ point.toNat ≤ 122 ∧ point.toNat ≠ 58 ∧ point.toNat ≠ 61 := by
  cases point with
  | half n => cases h
  | char c =>
    simp only [isTokenChar, CodePoint.isIn, isAlphanum_iff] at h
    simp only [CodePoint.toNat]
    omega

theorem isWord_of_isTokenChar {point : CodePoint} (h : isTokenChar point = true) :
    isWord point = true := by
  have hsmall : point.toNat < 128 := Nat.lt_of_le_of_lt (toNat_of_isTokenChar h).2.1 (by decide)
  rw [isWord, if_pos hsmall, Bool.or_eq_true]
  exact Or.inl h

theorem isGap_of_isTokenChar {point : CodePoint} (h : isTokenChar point = true) :
    isGap point = false := by
  have hnumber := toNat_of_isTokenChar h
  cases point with
  | half n => rfl
  | char c =>
    rw [Bool.eq_false_iff]
    intro hgap
    have hblank := bounds_of_inRanges_blankTable hgap
    simp only [CodePoint.toNat] at hnumber
    omega

theorem isSign_of_isTokenChar {point : CodePoint} (h : isTokenChar point = true) :
    isSign point = false := by
  have hnumber := toNat_of_isTokenChar h
  rw [Bool.eq_false_iff]
  intro hsign
  simp only [isSign, Bool.or_eq_true, beq_iff_eq] at hsign
  rcases hsign with rfl | rfl
  · exact hnumber.2.2.2 rfl
  · exact hnumber.2.2.1 rfl

theorem isTokenChar_of_mem_tokenNames :
    ∀ name ∈ tokenNames, name.length < 20 ∧ ∀ point ∈ name, isTokenChar point = true := by decide

theorem head?_tokenNames : ∀ name ∈ tokenNames, ∃ point ∈ name.head?,
    isTokenChar point = true ∧ point ∉ mask ∧ isLabel point = false := by decide

/-- Access tokens start with letters that stand neither in masks nor in markers. -/
theorem exists_head_of_mem_tokenNames {name : Text} (hname : name ∈ tokenNames) :
    ∃ first tail, name = first :: tail ∧ isTokenChar first = true ∧ first ∉ mask ∧
      isLabel first = false := by
  obtain ⟨first, hfirst, hkind⟩ := head?_tokenNames name hname
  obtain ⟨tail, htail⟩ := List.head?_eq_some_iff.mp hfirst
  exact ⟨first, tail, htail, hkind⟩

/-- No access token is the start of another one. -/
theorem eq_of_tokenNames {name other rest otherRest : Text} (hname : name ∈ tokenNames)
    (hother : other ∈ tokenNames)
    (h : name ++ .char '.' :: rest = other ++ .char '.' :: otherRest) :
    name = other ∧ rest = otherRest := by
  have hdot : isTokenChar (.char '.') = false := by decide
  have hruns := congrArg (List.takeWhile isTokenChar) h
  rw [takeWhile_run (isTokenChar_of_mem_tokenNames name hname).2 (by rintro point ⟨⟩; exact hdot),
    takeWhile_run (isTokenChar_of_mem_tokenNames other hother).2 (by rintro point ⟨⟩; exact hdot)]
    at hruns
  rw [hruns, List.append_cancel_left_eq, List.cons.injEq] at h
  exact ⟨hruns, h.2⟩

/-- The rule for access tokens claims exactly those that start at a word boundary. -/
theorem tokenRule_eq_some_iff {before : Option CodePoint} {text : Text} {claim : Claim} :
    tokenRule before text = some claim ↔ boundary before text.head? = true ∧
      ∃ name ∈ tokenNames, ∃ body rest, text = name ++ .char '.' :: (body ++ rest) ∧
        20 ≤ body.length ∧ (∀ point ∈ body, isTokenChar point = true) ∧
        (∀ point ∈ rest.head?, isTokenChar point = false) ∧
        claim = ⟨name.length + 1 + body.length, mask⟩ := by
  have hread : ∀ name behind, behind? (name ++ [.char '.']) (name ++ .char '.' :: behind) =
      some behind := by
    intro name behind
    have h := behind?_append (name ++ [.char '.']) behind
    rwa [List.append_assoc, List.singleton_append] at h
  constructor
  · intro h
    unfold tokenRule at h
    split at h
    next hboundary =>
      refine ⟨hboundary, ?_⟩
      obtain ⟨start, hstart, h⟩ := List.exists_of_findSome?_eq_some h
      obtain ⟨behind, hbehind, h⟩ := Option.bind_eq_some_iff.mp h
      rw [tokenStarts_eq, List.mem_map] at hstart
      obtain ⟨name, hname, rfl⟩ := hstart
      simp only at h
      split at h
      next hlength =>
        cases h
        refine ⟨name, hname, behind.takeWhile isTokenChar, behind.dropWhile isTokenChar, ?_,
          hlength, forall_mem_takeWhile _ _, head?_dropWhile _ _, ?_⟩
        · rw [eq_append_of_behind? hbehind, List.takeWhile_append_dropWhile, List.append_assoc,
            List.singleton_append]
        · rw [List.length_append, List.length_singleton]
      next => cases h
    next => cases h
  · rintro ⟨hboundary, name, hname, body, rest, rfl, hlength, hbody, hrest, rfl⟩
    rw [tokenRule, if_pos hboundary, tokenStarts_eq, List.findSome?_map]
    cases hfound : tokenNames.findSome? _ with
    | none =>
      have hnone := List.findSome?_eq_none_iff.mp hfound name hname
      simp only [Function.comp_apply, hread, Option.bind_eq_bind, Option.bind_some,
        takeWhile_run hbody hrest, ge_iff_le, hlength, if_true] at hnone
      cases hnone
    | some claim =>
      obtain ⟨other, hother, hclaim⟩ := List.exists_of_findSome?_eq_some hfound
      obtain ⟨behind, hbehind, hclaim⟩ := Option.bind_eq_some_iff.mp hclaim
      have hsplit := eq_append_of_behind? hbehind
      rw [List.append_assoc, List.singleton_append] at hsplit
      obtain ⟨rfl, rfl⟩ := eq_of_tokenNames hname hother hsplit
      simp only [takeWhile_run hbody hrest, ge_iff_le, hlength, if_true] at hclaim
      cases hclaim
      rw [List.length_append, List.length_singleton]

/-- What the rule for tokens claims is a whole token. -/
theorem tokenRule_piece {before : Option CodePoint} {piece rest replacement : Text}
    (h : tokenRule before (piece ++ rest) = some ⟨piece.length, replacement⟩) :
    replacement = mask ∧ (∀ point ∈ rest.head?, isTokenChar point = false) ∧
      ∃ name ∈ tokenNames, ∃ body, piece = name ++ .char '.' :: body ∧
        ∀ point ∈ body, isTokenChar point = true := by
  obtain ⟨-, name, hname, body, left, htext, -, hbody, hleft, hclaim⟩ :=
    tokenRule_eq_some_iff.mp h
  have hwidth := congrArg Claim.width hclaim
  simp only at hwidth
  have hsplit : piece ++ rest = (name ++ .char '.' :: body) ++ left := by
    rw [htext]
    simp only [List.append_assoc, List.cons_append]
  obtain ⟨hpiece, rfl⟩ := List.append_inj hsplit (by
    rw [hwidth, List.length_append, List.length_cons]
    omega)
  exact ⟨congrArg Claim.replacement hclaim, hleft, name, hname, body, hpiece, hbody⟩

/-- What is neither a letter or digit nor a dot stands in no token. -/
theorem not_mem_token {name body : Text} {point : CodePoint} (hname : name ∈ tokenNames)
    (hbody : ∀ point ∈ body, isTokenChar point = true) (hpoint : isTokenChar point = false)
    (hdot : point ≠ .char '.') : point ∉ name ++ .char '.' :: body := by
  intro hmem
  rcases List.mem_append.mp hmem with hmem | hmem
  · rw [(isTokenChar_of_mem_tokenNames name hname).2 point hmem] at hpoint
    cases hpoint
  · rcases List.mem_cons.mp hmem with heq | hmem
    · exact hdot heq
    · rw [hbody point hmem] at hpoint
      cases hpoint

/-- A body that is long enough is one of a token, however far it goes on. -/
theorem tokenRule_ne_none {before : Option CodePoint} {name body rest : Text}
    (hname : name ∈ tokenNames) (hlong : 20 ≤ body.length)
    (hbody : ∀ point ∈ body, isTokenChar point = true)
    (hboundary : boundary before name.head? = true) :
    tokenRule before (name ++ .char '.' :: (body ++ rest)) ≠ none := by
  obtain ⟨first, tail, rfl, -⟩ := exists_head_of_mem_tokenNames hname
  have hclaim : tokenRule before (first :: tail ++ .char '.' :: (body ++ rest)) = some _ :=
    tokenRule_eq_some_iff.mpr ⟨hboundary, first :: tail, hname, body ++ rest.takeWhile isTokenChar,
      rest.dropWhile isTokenChar, by rw [List.append_assoc, List.takeWhile_append_dropWhile],
      by rw [List.length_append]; omega, by
        rw [List.forall_mem_append]
        exact ⟨hbody, forall_mem_takeWhile _ _⟩, head?_dropWhile _ _, rfl⟩
  rw [hclaim]
  exact Option.some_ne_none _

end HostLifecycle.Audit
