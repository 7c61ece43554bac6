import HostLifecycle.Proofs.Audit.Settling

/-!
Redaction is done in one pass. The rule for private keys leaves no block, since a replaced block
takes its closing marker along, and the rule for tokens leaves no token, since what it puts in
their place ends no word. Neither brings back what an earlier rule took. So no rule finds anything
to change in a redacted text, and redacting it once more changes nothing, however long it has
become.
-/

namespace HostLifecycle.Audit

open Text

section

variable {group : List (List Part)} {before other : Option CodePoint}
  {text front rest result : Text} {point : CodePoint}

/-! ### Claims fit -/

theorem fits_assignmentRule (group : List (List Part)) (before : Option CodePoint) (text : Text) :
    (assignmentRule group).Fits before text := by
  intro claim hclaim
  obtain ⟨-, assignment, rfl⟩ := exists_assignment hclaim
  have hlength := congrArg List.length assignment.text_eq_claimed
  rw [List.length_append] at hlength
  have hpositive := List.length_pos_iff.mpr assignment.claimed_ne
  simp only [Assignment.claim]
  omega

theorem fits_keyBlockRule (before : Option CodePoint) (text : Text) :
    keyBlockRule.Fits before text := by
  intro claim hclaim
  obtain ⟨label, body, left, -, rfl, hleft, rfl⟩ := keyBlockRule_eq_some_iff.mp hclaim
  obtain ⟨between, ending, -, rfl⟩ := exists_of_behindClosing? hleft
  obtain ⟨ahead, hahead⟩ := exists_marker_concat opening label
  simp only [hahead, List.length_append, List.length_singleton]
  omega

theorem fits_tokenRule (before : Option CodePoint) (text : Text) : tokenRule.Fits before text := by
  intro claim hclaim
  obtain ⟨-, name, -, body, left, rfl, -, -, -, rfl⟩ := tokenRule_eq_some_iff.mp hclaim
  simp only [List.length_append, List.length_cons]
  omega

/-! ### Private keys -/

theorem behindClosing?_append_ne_none (front : Text) (h : behindClosing? rest ≠ none) :
    behindClosing? (front ++ rest) ≠ none := by
  induction front with
  | nil => exact h
  | cons first front ih =>
    rw [List.cons_append, behindClosing?]
    cases behindMarker? "-----END " (first :: (front ++ rest)) with
    | some left => exact Option.some_ne_none left
    | none => exact ih

theorem isOutside_star : IsOutside (.char '*') := ⟨by decide, by decide⟩

/-- Masks hold no hyphens, so no block starts there. -/
theorem keyBlockRule_within_mask {masked : Text} (hmasked : masked ∈ [mask, keyMask]) :
    Everywhere (fun ahead text => keyBlockRule ahead (text ++ result) = none) other masked := by
  have hhyphen : ∀ masked ∈ [mask, keyMask], ∀ point ∈ masked, point ≠ .char '-' := by decide
  intro front point more hsplit
  have hpoint := hhyphen masked hmasked point (hsplit ▸ List.mem_append_right _ List.mem_cons_self)
  exact keyBlockRule_of_ne hpoint

/-- The rule for private keys leaves no block. -/
theorem keyBlockRule_replaced (h : Replaced keyBlockRule before text result) :
    Everywhere (fun ahead text => keyBlockRule ahead text = none) other result := by
  refine h.everywhere (fun _ _ => True) (fun _ _ _ => True) ?_ ?_ (fun _ _ => trivial)
    (fun _ _ _ => trivial) trivial (fun _ _ _ _ => trivial)
  · intro before other point rest result _ _ hnone hrest
    rcases (Replaced.kept hnone hrest).first_claim with ⟨hsame, -⟩ |
      ⟨kept, piece, more, replacement, behind, htext, hresult, -, hclaim, -⟩
    · rw [hsame]
      exact hnone
    · -- an opening marker ahead of the mask would have been closed by the end of the block
      obtain ⟨rfl, label, between, ending, -, hending, rfl⟩ := keyBlockRule_piece hclaim
      have hclosing : behindClosing? (marker closing ending ++ more) ≠ none := by
        rw [behindClosing?_marker hending]
        exact Option.some_ne_none _
      have hopening : behindMarker? opening kept = none := by
        cases hopening : behindMarker? opening kept with
        | none => rfl
        | some body =>
          obtain ⟨first, hfirst, rfl⟩ := behindMarker?_eq_some_iff.mp hopening
          have hbody := behindClosing?_append_ne_none (body ++ (marker opening label ++ between))
            hclosing
          obtain ⟨left, hleft⟩ := Option.ne_none_iff_exists'.mp hbody
          have hsome : keyBlockRule before (point :: rest) = some _ :=
            keyBlockRule_eq_some_iff.mpr ⟨first, body ++ (marker opening label ++ between) ++
              (marker closing ending ++ more), left, hfirst, by
              rw [htext]
              simp only [List.append_assoc], hleft, rfl⟩
          rw [hnone] at hsome
          cases hsome
      have hstar : kept ++ (keyMask ++ behind) = kept ++ .char '*' :: (keyMask.tail ++ behind) :=
        rfl
      rw [hresult, hstar, keyBlockRule_across isOutside_star, hopening]
      rfl
  · intro before other piece rest replacement result _ _ hclaim _
    rw [(keyBlockRule_piece hclaim).1]
    exact keyBlockRule_within_mask (by decide)

/-- The rule for tokens closes no block that was open. -/
theorem behindClosing?_replaced (h : Replaced tokenRule before text result)
    (hnone : behindClosing? text = none) : behindClosing? result = none := by
  induction h with
  | done => rfl
  | @kept before point rest result hplace hrest ih =>
    have hmarker : behindMarker? closing (point :: rest) = none ∧ behindClosing? rest = none := by
      rw [behindClosing?] at hnone
      cases hmarker : behindMarker? "-----END " (point :: rest) with
      | none =>
        rw [hmarker] at hnone
        exact ⟨hmarker, hnone⟩
      | some left =>
        rw [hmarker] at hnone
        cases hnone
    have hkept : behindMarker? "-----END " (point :: result) = none := by
      rcases (Replaced.kept hplace hrest).first_claim with ⟨hsame, -⟩ |
        ⟨kept, piece, more, replacement, behind, htext, hresult, -, hclaim, -⟩
      · rw [hsame]
        exact hmarker.1
      · obtain ⟨rfl, -⟩ := tokenRule_piece hclaim
        have hstar : kept ++ (mask ++ behind) = kept ++ .char '*' :: (mask.tail ++ behind) := rfl
        have hacross : behindMarker? closing (kept ++ .char '*' :: (mask.tail ++ behind)) =
            (behindMarker? closing kept).map (· ++ .char '*' :: (mask.tail ++ behind)) :=
          behindMarker?_across (Or.inr rfl) isOutside_star
        cases hopen : behindMarker? closing kept with
        | none =>
          rw [hopen, Option.map_none] at hacross
          rw [hresult, hstar]
          exact hacross
        | some left =>
          have hsome := behindMarker?_append hopen (piece ++ more)
          rw [← htext, hmarker.1] at hsome
          cases hsome
    rw [behindClosing?, hkept]
    exact ih hmarker.2
  | @claimed before piece rest replacement result hpiece hclaim hrest ih =>
    obtain ⟨rfl, -, name, hname, body, rfl, hbody⟩ := tokenRule_piece hclaim
    have hmask : CodePoint.char '-' ∉ mask := by decide
    rw [behindClosing?_of_no_hyphen hmask]
    apply ih
    rwa [behindClosing?_of_no_hyphen (not_mem_token hname hbody (by decide) (by decide))] at hnone

/-- The rule for tokens leaves no private keys if there are none. -/
theorem keyBlockRule_tokens_replaced (h : Replaced tokenRule before text result)
    (hnone : Everywhere (fun ahead text => keyBlockRule ahead text = none) before text) :
    Everywhere (fun ahead text => keyBlockRule ahead text = none) other result := by
  refine h.everywhere _ (fun _ _ _ => True) ?_ ?_ (fun _ _ => trivial) (fun _ _ _ => trivial)
    trivial hnone
  · intro before other point rest result _ hblock hplace hrest
    rcases (Replaced.kept hplace hrest).first_claim with ⟨hsame, -⟩ |
      ⟨kept, piece, more, replacement, behind, htext, hresult, -, hclaim, hbehind⟩
    · rw [hsame]
      exact hblock
    · obtain ⟨rfl, -, name, hname, body, rfl, hbody⟩ := tokenRule_piece hclaim
      have hhyphen := not_mem_token hname hbody (by decide) (by decide : CodePoint.char '-' ≠ _)
      obtain ⟨first, tail, rfl, -, -, hfirst⟩ := exists_head_of_mem_tokenNames hname
      have hpiece : kept ++ (first :: tail ++ .char '.' :: body ++ more) =
          kept ++ first :: (tail ++ .char '.' :: body ++ more) := rfl
      rw [List.cons_append, List.mem_cons, not_or] at hhyphen
      have hoff : IsOutside first := ⟨hfirst, fun h => hhyphen.1 h.symm⟩
      rw [htext, hpiece, keyBlockRule_across hoff, behindClosing?_of_no_hyphen hhyphen.2] at hblock
      have hstar : kept ++ (mask ++ behind) = kept ++ .char '*' :: (mask.tail ++ behind) := rfl
      have htail : CodePoint.char '-' ∉ mask.tail := by decide
      rw [hresult, hstar, keyBlockRule_across isOutside_star, behindClosing?_of_no_hyphen htail]
      cases hopening : behindMarker? opening kept with
      | none => rfl
      | some inner =>
        rw [hopening, Option.bind_some, Option.map_eq_none_iff, Option.or_eq_none_iff,
          Option.map_eq_none_iff] at hblock
        rw [Option.bind_some, hblock.1, behindClosing?_replaced hbehind hblock.2]
        rfl
  · intro before other piece rest replacement result _ _ hclaim _
    rw [(tokenRule_piece hclaim).1]
    exact keyBlockRule_within_mask (by decide)

/-! ### Access tokens -/

/-- The rule for tokens leaves no token. -/
theorem tokenRule_replaced (h : Replaced tokenRule before text result) :
    Everywhere (fun ahead text => tokenRule ahead text = none) before result := by
  refine h.everywhere (fun _ _ => True) Meets ?_ ?_ (fun _ _ _ _ _ h => h) ?_
    (fun _ _ _ h => h) (fun _ _ _ _ => trivial)
  · intro before other point rest result hmeets _ hplace hrest
    apply Option.eq_none_iff_forall_ne_some.mpr
    intro claim hclaim
    obtain ⟨hboundary, name, hname, body, left, hresult, hlong, hbody, -, -⟩ :=
      tokenRule_eq_some_iff.mp hclaim
    obtain ⟨first, tail, hcons, hfirst, -⟩ := exists_head_of_mem_tokenNames hname
    obtain rfl : point = first := by
      rw [hcons, List.cons_append, List.cons.injEq] at hresult
      exact hresult.1
    have hahead := hmeets point rfl hfirst hboundary
    -- the token is all ahead of the next one, so the text had it too
    obtain ⟨behind, hbehind⟩ : ∃ behind, point :: rest = name ++ .char '.' :: (body ++ behind) := by
      rcases (Replaced.kept hplace hrest).first_claim with ⟨hsame, -⟩ |
        ⟨kept, piece, more, replacement, behind, htext, hsplit, -, hnext, -⟩
      · exact ⟨left, hsame ▸ hresult⟩
      · obtain ⟨rfl, -⟩ := tokenRule_piece hnext
        have hstar := not_mem_token hname hbody (by decide) (by decide : CodePoint.char '*' ≠ _)
        have hcut : (name ++ .char '.' :: body) ++ left = kept ++ .char '*' ::
            (mask.tail ++ behind) := by
          rw [List.append_assoc, List.cons_append, ← hresult, hsplit]
          rfl
        obtain ⟨extra, hextra⟩ := exists_append_of_not_mem hcut hstar
        refine ⟨extra ++ (piece ++ more), ?_⟩
        rw [htext, hextra]
        simp only [List.append_assoc, List.cons_append]
    have hhead : boundary before name.head? = true := by
      rw [hcons]
      exact hahead
    rw [hbehind] at hplace
    exact tokenRule_ne_none hname hlong hbody hhead hplace
  · intro before other piece rest replacement result _ _ hclaim _
    obtain ⟨rfl, -⟩ := tokenRule_piece hclaim
    intro front point more hsplit
    apply Option.eq_none_iff_forall_ne_some.mpr
    intro claim hclaim
    obtain ⟨-, name, hname, body, left, htext, -⟩ := tokenRule_eq_some_iff.mp hclaim
    obtain ⟨first, tail, rfl, -, hmask, -⟩ := exists_head_of_mem_tokenNames hname
    rw [List.cons_append, List.cons_append, List.cons.injEq] at htext
    rw [← htext.1, hsplit] at hmask
    exact hmask (List.mem_append_right _ List.mem_cons_self)
  · intro before other piece rest replacement _ _ hclaim
    obtain ⟨-, hrest, -⟩ := tokenRule_piece hclaim
    intro point hpoint htoken
    rw [hrest point hpoint] at htoken
    cases htoken

/-! ### One rule after the other -/

theorem replaced_substitute {rule : Rule} (hfits : ∀ before text, rule.Fits before text)
    (text : Text) : Replaced rule none text (substitute rule text) :=
  replaced_substituteFrom fun _ _ _ _ => hfits _ _

/-- The names of keywords are of the text, and masks hold no long s. -/
theorem longS_not_mem_assignmentRule (h : longS ∉ text) :
    longS ∉ substitute (assignmentRule group) text := by
  refine (replaced_substitute (fits_assignmentRule group) text).not_mem ?_ h
  intro before text claim hclaim htext
  obtain ⟨-, assignment, rfl⟩ := exists_assignment hclaim
  intro hmem
  rcases List.mem_append.mp hmem with hname | hmask
  · rw [assignment.text_eq] at htext
    exact htext (List.mem_append_left _ hname)
  · revert hmask
    decide

theorem longS_not_mem_keyBlockRule (h : longS ∉ text) : longS ∉ substitute keyBlockRule text := by
  refine (replaced_substitute fits_keyBlockRule text).not_mem ?_ h
  intro before text claim hclaim _
  obtain ⟨label, body, left, -, -, -, rfl⟩ := keyBlockRule_eq_some_iff.mp hclaim
  exact (by decide : longS ∉ keyMask)

/-- What the rule of its own keywords or an earlier one has settled stays settled. -/
theorem settled_substitute {rule : Rule} (hfits : ∀ before text, rule.Fits before text)
    (hspares : Spares rule group) (hgroup : group ⊆ keywords) (hlong : longS ∉ text)
    (h : rule = assignmentRule group ∨ Everywhere (assignmentRule group).Settled none text) :
    Everywhere (assignmentRule group).Settled none (substitute rule text) := by
  refine hspares.settled hgroup hlong ?_ (replaced_substitute hfits text)
  intro front point rest htext hnone
  rcases h with rfl | hsettled
  · intro claim hclaim
    rw [hnone] at hclaim
    cases hclaim
  · exact hsettled front point rest htext

/-- The rules for assignments settle the assignments of all their keywords. -/
theorem settled_foldl {groups settled : List (List (List Part))}
    (hgroups : ∀ group ∈ settled ++ groups, group ⊆ keywords) (hlong : longS ∉ text)
    (h : ∀ group ∈ settled, Everywhere (assignmentRule group).Settled none text) :
    longS ∉ (groups.map assignmentRule).foldl (fun text rule => substitute rule text) text ∧
      ∀ group ∈ settled ++ groups, Everywhere (assignmentRule group).Settled none
        ((groups.map assignmentRule).foldl (fun text rule => substitute rule text) text) := by
  induction groups generalizing settled text with
  | nil =>
    rw [List.append_nil]
    exact ⟨hlong, h⟩
  | cons first groups ih =>
    rw [List.append_cons] at hgroups ⊢
    have hfirst : first ⊆ keywords := hgroups first (by simp)
    apply ih hgroups (longS_not_mem_assignmentRule hlong)
    intro group hmem
    have hgroup : group ⊆ keywords := hgroups group (List.mem_append_left _ hmem)
    apply settled_substitute (fits_assignmentRule first) (spares_assignmentRule hgroup hfirst)
      hgroup hlong
    rcases List.mem_append.mp hmem with hsettled | hsame
    · exact Or.inr (h group hsettled)
    · exact Or.inl (by rw [List.mem_singleton.mp hsame])

/-- Behind the last rule no assignment is left to be redacted, no private key and no token. -/
theorem settled_rules (hlong : longS ∉ text) :
    (∀ group ∈ keywordGroups, Everywhere (assignmentRule group).Settled none
      (rules.foldl (fun text rule => substitute rule text) text)) ∧
    Everywhere (fun ahead text => keyBlockRule ahead text = none) none
      (rules.foldl (fun text rule => substitute rule text) text) ∧
    Everywhere (fun ahead text => tokenRule ahead text = none) none
      (rules.foldl (fun text rule => substitute rule text) text) := by
  rw [rules_eq, List.foldl_append]
  have hassigned : longS ∉ (keywordGroups.map assignmentRule).foldl
      (fun text rule => substitute rule text) text ∧
      ∀ group ∈ [] ++ keywordGroups, Everywhere (assignmentRule group).Settled none
        ((keywordGroups.map assignmentRule).foldl (fun text rule => substitute rule text) text) :=
    settled_foldl subset_keywords hlong fun group hnone => absurd hnone List.not_mem_nil
  generalize (keywordGroups.map assignmentRule).foldl (fun text rule => substitute rule text) text =
    assigned at hassigned ⊢
  obtain ⟨hlong, hsettled⟩ := hassigned
  have hblocks := replaced_substitute fits_keyBlockRule assigned
  have htokens := replaced_substitute fits_tokenRule (substitute keyBlockRule assigned)
  refine ⟨fun group hmem => ?_,
    keyBlockRule_tokens_replaced htokens (keyBlockRule_replaced hblocks),
    tokenRule_replaced htokens⟩
  have hgroup := subset_keywords group hmem
  apply settled_substitute fits_tokenRule (spares_tokenRule hgroup) hgroup
    (longS_not_mem_keyBlockRule hlong)
  right
  exact settled_substitute fits_keyBlockRule (spares_keyBlockRule hgroup) hgroup hlong
    (Or.inr (hsettled group hmem))

/-- A rule changes nothing where its claims are settled. -/
theorem substitute_of_settled {rule : Rule} (hfits : ∀ before text, rule.Fits before text)
    (h : Everywhere rule.Settled none text) : substitute rule text = text :=
  (replaced_substitute hfits text).eq_of_settled h

theorem redactMessage_eq (text : Text) :
    redactMessage true (.str text) = .ok (.str (redact text)) := by
  cases text with
  | nil => rfl
  | cons point rest => rfl

/-- Whether a text holds nothing that redaction would take: no rule changes it, every assignment of
a keyword reads as it is redacted, and there are neither private keys nor tokens. -/
structure IsRedacted (text : Text) : Prop where
  unchanged : ∀ rule ∈ rules, substitute rule text = text
  assigned : ∀ group ∈ keywordGroups, Everywhere (fun ahead text => ∀ claim,
    assignmentRule group ahead text = some claim →
      ∃ name, IsName group name ∧ text.take claim.width = name ++ .char '=' :: mask) none text
  hidden : Everywhere (fun ahead text =>
    keyBlockRule ahead text = none ∧ tokenRule ahead text = none) none text

/-- Redaction leaves nothing that it would redact, so redacting once more changes nothing. -/
theorem redactMessage_settles (text : Text) (hlong : longS ∉ text)
    (hshort : text.length ≤ maximalLength) :
    ∃ result, redactMessage true (.str text) = .ok (.str result) ∧ IsRedacted result ∧
      redactMessage true (.str result) = .ok (.str result) := by
  obtain ⟨hassigned, hblocks, htokens⟩ := settled_rules hlong
  have hredact : redact text = rules.foldl (fun text rule => substitute rule text) text := by
    rw [redact, if_neg (Nat.not_lt.mpr hshort)]
  rw [← hredact] at hassigned hblocks htokens
  have hnone : ∀ {rule : Rule}, Everywhere (fun ahead text => rule ahead text = none) none
      (redact text) → Everywhere rule.Settled none (redact text) := by
    intro rule h front point rest hsplit claim hclaim
    rw [h front point rest hsplit] at hclaim
    cases hclaim
  have hrules : ∀ rule ∈ rules, substitute rule (redact text) = redact text := by
    rw [rules_eq, List.forall_mem_append, List.forall_mem_map, List.forall_mem_cons,
      List.forall_mem_singleton]
    exact ⟨fun group hgroup =>
        substitute_of_settled (fits_assignmentRule group) (hassigned group hgroup),
      substitute_of_settled fits_keyBlockRule (hnone hblocks),
      substitute_of_settled fits_tokenRule (hnone htokens)⟩
  refine ⟨redact text, redactMessage_eq text, ⟨hrules, ?_, ?_⟩, ?_⟩
  · intro group hgroup front point rest hsplit claim hclaim
    have hreads := hassigned group hgroup front point rest hsplit claim hclaim
    obtain ⟨-, assignment, rfl⟩ := exists_assignment hclaim
    exact ⟨assignment.name, assignment.isName, hreads.symm⟩
  · exact fun front point rest hsplit =>
      ⟨hblocks front point rest hsplit, htokens front point rest hsplit⟩
  · have hagain : ∀ chain ⊆ rules, chain.foldl (fun text rule => substitute rule text)
        (redact text) = redact text := by
      intro chain hchain
      induction chain with
      | nil => rfl
      | cons rule chain ih =>
        rw [List.cons_subset] at hchain
        rw [List.foldl_cons, hrules rule hchain.1, ih hchain.2]
    rw [redactMessage_eq (redact text)]
    congr 2
    conv => lhs; rw [redact]
    split
    · rfl
    · exact hagain rules (List.Subset.refl _)

/-- A value that looks like another assignment, whose value is a token. -/
theorem redactMessage_settles_nested :
    ∃ result, redactMessage true (.str "Pwd : token=s.ABCDEFGHIJ0123456789 -----BEGIN ") =
        .ok (.str result) ∧ IsRedacted result ∧
      redactMessage true (.str result) = .ok (.str result) :=
  redactMessage_settles "Pwd : token=s.ABCDEFGHIJ0123456789 -----BEGIN " (by decide) (by decide)

end

end HostLifecycle.Audit
