import HostLifecycle.Proofs.Audit.Hiding

/-!
Secrets that redaction conceals. The bodies of access tokens stand behind a dot, which no keyword,
no marker and no other token goes across. So every rule respects them, and the last rule claims
them. With the values that are assigned to keywords, that makes two forms of secrets of which the
redacted text does not tell anything but how long they are.
-/

namespace HostLifecycle.Audit

open Text

def tokenBody (name : Text) : Secret where
  start := name ++ [.char '.']
  IsHidden hidden := 20 ≤ hidden.length ∧ ∀ point ∈ hidden, isTokenChar point = true
  IsBehind rest := ∀ point ∈ rest.head?, isTokenChar point = false
  start_ne := by simp
  hidden_ne hidden h := by
    rintro rfl
    simp at h

section

variable {group : List (List Part)} {name front hidden lead rest behind : Text} {point : CodePoint}
  {before : Option CodePoint}

theorem isOutside_dot : IsOutside (.char '.') := ⟨by decide, by decide⟩

theorem dot_not_mem (h : ∀ point ∈ hidden, isTokenChar point = true) :
    CodePoint.char '.' ∉ hidden := by
  intro hmem
  cases h _ hmem

theorem ne_hyphen_of_isTokenChar (h : isTokenChar point = true) : point ≠ .char '-' := by
  rintro rfl
  cases h

/-- No word starts within the body of a token. -/
theorem boundary_within_body (hhidden : ∀ point ∈ hidden, isTokenChar point = true)
    (hsplit : hidden = front ++ point :: behind) (hfront : front ≠ []) :
    boundary (lastOr before front) (point :: behind ++ rest).head? = false := by
  obtain ⟨ahead, last, rfl⟩ := (List.eq_nil_or_concat' front).resolve_left hfront
  simp only [hsplit, List.forall_mem_append, List.forall_mem_cons] at hhidden
  rw [lastOr_append, List.cons_append, List.head?_cons, lastOr_cons, lastOr_nil, boundary]
  simp [isWord_of_isTokenChar hhidden.1.2.1, isWord_of_isTokenChar hhidden.2.1]

/-- Behind a body the rules see the end of a word. -/
theorem boundary_behind_body {first second : Text} (hfirst : (tokenBody name).IsHidden first)
    (hsecond : (tokenBody name).IsHidden second) (next : Option CodePoint) :
    boundary first.getLast? next = boundary second.getLast? next := by
  have hword : ∀ hidden, (tokenBody name).IsHidden hidden →
      hidden.getLast?.any isWord = true := by
    intro hidden hsome
    obtain ⟨ahead, last, rfl⟩ :=
      (List.eq_nil_or_concat' hidden).resolve_left ((tokenBody name).hidden_ne hidden hsome)
    rw [List.getLast?_concat, Option.any_some]
    exact isWord_of_isTokenChar (hsome.2 last (List.mem_append_right _ List.mem_cons_self))
  rw [boundary, boundary, hword first hfirst, hword second hsecond]

/-- No keyword is as long as a body, and what follows one stands in no body. -/
theorem Assignment.not_body {text : Text} (hgroup : group ⊆ keywords)
    (assignment : Assignment group text) (htext : text = hidden ++ rest)
    (hlong : 20 ≤ hidden.length) (hhidden : ∀ point ∈ hidden, isTokenChar point = true) :
    False := by
  have hshort := assignment.isName.length_lt hgroup
  rcases List.append_eq_append_iff.mp (htext.symm.trans assignment.text_eq) with
    ⟨extra, hextra, -⟩ | ⟨extra, hextra, hgap⟩
  · rw [hextra, List.length_append] at hshort
    omega
  · cases extra with
    | nil =>
      rw [hextra, List.append_nil] at hlong
      omega
    | cons next extra =>
      have hnext := hhidden next (hextra ▸ List.mem_append_right _ List.mem_cons_self)
      have hbehind := assignment.head?_behind_name next (by rw [hgap]; rfl)
      rw [isGap_of_isTokenChar hnext, isSign_of_isTokenChar hnext] at hbehind
      simp at hbehind

/-- The rules for assignments respect the bodies of tokens. -/
theorem respects_tokenBody_assignmentRule (hgroup : group ⊆ keywords) (hname : name ∈ tokenNames) :
    Respects (assignmentRule group) (tokenBody name) where
  alike hne hends hlength hfirst hsecond _ hclaim :=
    assignmentRule_alike hgroup
      (fun point hpoint =>
        isGap_of_isTokenChar ((isTokenChar_of_mem_tokenNames name hname).2 point hpoint))
      (by decide) (by decide) hlength ((tokenBody name).hidden_ne _ hfirst)
      (fun point hpoint => isGap_of_isTokenChar (hfirst.2 point hpoint))
      (fun point hpoint => isGap_of_isTokenChar (hsecond.2 point hpoint)) hne
      (hends.imp_left fun ⟨front, hfront, _⟩ => ⟨front, hfront⟩) hclaim
  inside {hidden rest} hhidden _ ahead point behind hsplit := by
    apply Option.eq_none_iff_forall_ne_some.mpr
    intro claim hclaim
    obtain ⟨hboundary, assignment, -⟩ := exists_assignment hclaim
    cases ahead with
    | cons first ahead =>
      rw [boundary_within_body hhidden.2 hsplit (List.cons_ne_nil _ _)] at hboundary
      cases hboundary
    | nil =>
      exact assignment.not_body hgroup (congrArg (· ++ rest) hsplit.symm) hhidden.1 hhidden.2
  behind {first second rest} hfirst hsecond _ := by
    rw [assignmentRule, assignmentRule, boundary_behind_body hfirst hsecond]
  kept {hidden rest} _ hrest := by
    intro point hpoint
    rw [head?_substituteFrom_assignmentRule hgroup] at hpoint
    exact hrest point hpoint

/-- What ends in a point that stands in no name goes at most to the point, if it stands ahead of
the name. -/
theorem length_le_of_not_mem {first second : Text} (hname : point ∉ name)
    (hlead : (∃ front, lead = front ++ name) ∨ lead <:+ name)
    (hsplit : lead = (first ++ [point]) ++ second) : name.length ≤ second.length := by
  rcases hlead with ⟨front, hfront⟩ | hsuffix
  · rcases List.append_eq_append_iff.mp (hsplit.symm.trans hfront) with
      ⟨more, -, hsecond⟩ | ⟨more, hmore, hsecond⟩
    · rw [hsecond, List.length_append]
      omega
    · obtain rfl | ⟨ahead, last, rfl⟩ := List.eq_nil_or_concat' more
      · exact Nat.le_of_eq (congrArg List.length hsecond)
      · rw [← List.append_assoc] at hmore
        obtain ⟨-, hlast⟩ := List.append_inj' hmore rfl
        cases hlast
        refine absurd ?_ hname
        rw [hsecond]
        exact List.mem_append_left _ (List.mem_append_right _ List.mem_cons_self)
  · refine absurd (hsuffix.subset ?_) hname
    rw [hsplit]
    exact List.mem_append_left _ (List.mem_append_right _ List.mem_cons_self)

/-- What the rule for private keys makes of a body is told from what stands around it. -/
theorem keyBlockRule_across_body (hhidden : ∀ point ∈ hidden, isTokenChar point = true) :
    keyBlockRule before (lead ++ .char '.' :: (hidden ++ rest)) =
      (behindMarker? opening lead).bind fun body =>
        (((behindClosing? body).map (· ++ .char '.' :: (hidden ++ rest))).or
          (behindClosing? rest)).map fun left =>
            ⟨(lead ++ .char '.' :: (hidden ++ rest)).length - left.length, keyMask⟩ := by
  rw [keyBlockRule_across isOutside_dot, behindClosing?_of_no_hyphen
    (fun hmem => ne_hyphen_of_isTokenChar (hhidden _ hmem) rfl)]

/-- The rule for private keys respects the bodies of tokens. -/
theorem respects_tokenBody_keyBlockRule (hname : name ∈ tokenNames) :
    Respects keyBlockRule (tokenBody name) where
  alike {ahead text first second rest claim} hne hends hlength hfirst hsecond _ hclaim := by
    obtain ⟨lead, rfl, hlead⟩ := exists_concat_of_endsStart hne
      (hends.imp_left fun ⟨front, hfront, _⟩ => ⟨front, hfront⟩)
    rw [List.append_assoc, List.singleton_append, keyBlockRule_across_body hfirst.2,
      Option.bind_eq_some_iff] at hclaim
    obtain ⟨body, hbody, hclaim⟩ := hclaim
    rw [List.append_assoc, List.singleton_append, keyBlockRule_across_body hsecond.2, hbody,
      Option.bind_some]
    cases hclosing : behindClosing? body with
    | some left =>
      -- the block ends ahead of the dot
      rw [hclosing, Option.map_some, Option.some_or, Option.map_some] at hclaim
      cases hclaim
      obtain ⟨label, -, hopening⟩ := behindMarker?_eq_some_iff.mp hbody
      obtain ⟨between, other, -, rfl⟩ := exists_of_behindClosing? hclosing
      obtain ⟨start, hstart⟩ := exists_marker_concat closing other
      have hsplit : lead = (marker opening label ++ (between ++ start) ++ [.char '-']) ++ left := by
        rw [hopening, hstart]
        simp only [List.append_assoc]
      have hlong := length_le_of_not_mem (fun hmem => ne_hyphen_of_isTokenChar
        ((isTokenChar_of_mem_tokenNames name hname).2 _ hmem) rfl) hlead hsplit
      have hlengths := congrArg List.length hsplit
      simp only [Option.map_some, Option.some_or, List.length_append, List.length_cons,
        List.length_nil] at hlengths ⊢
      refine ⟨by rw [hlength], Or.inl ⟨by omega, ?_, .char '*', rfl, by decide⟩⟩
      simp only [tokenBody, List.length_append, List.length_singleton]
      omega
    | none =>
      rw [hclosing, Option.map_none, Option.none_or, Option.map_eq_some_iff] at hclaim
      obtain ⟨left, hleft, rfl⟩ := hclaim
      obtain ⟨between, other, -, hrest⟩ := exists_of_behindClosing? hleft
      have hshort := congrArg List.length hrest
      simp only [hleft, Option.map_none, Option.none_or, Option.map_some, List.length_append,
        List.length_cons, List.length_nil] at hshort ⊢
      refine ⟨by rw [hlength], Or.inr ?_⟩
      omega
  inside {hidden rest} hhidden _ ahead point behind hsplit := by
    have hpoint := hhidden.2 point (hsplit ▸ List.mem_append_right _ List.mem_cons_self)
    exact keyBlockRule_of_ne (ne_hyphen_of_isTokenChar hpoint)
  behind _ _ _ := rfl
  kept {hidden rest} _ hrest := by
    apply head?_substituteFrom hrest
    intro claim hclaim
    obtain ⟨label, body, left, -, -, -, rfl⟩ := keyBlockRule_eq_some_iff.mp hclaim
    exact ⟨.char '*', rfl, by decide⟩

/-- The rule for tokens claims the bodies of tokens. -/
theorem claims_tokenBody (hname : name ∈ tokenNames) : Claims tokenRule (tokenBody name) := by
  intro ahead hidden rest hahead hhidden hrest
  obtain ⟨first, tail, rfl, hfirst, -⟩ := exists_head_of_mem_tokenNames hname
  have hboundary := boundary_of_isWord hahead (isWord_of_isTokenChar hfirst)
  rw [tokenBody, List.append_assoc, List.singleton_append]
  exact tokenRule_ne_none hname hhidden.1 hhidden.2 hboundary

/-- Ahead of a dot a token has ended, or the dot is the one behind its name. -/
theorem token_across_dot {other body behind : Text} (hother : other ∈ tokenNames)
    (hbody : ∀ point ∈ body, isTokenChar point = true)
    (h : lead ++ .char '.' :: rest = other ++ .char '.' :: (body ++ behind)) :
    (lead = other ∧ rest = body ++ behind) ∨
      ∃ more, lead = (other ++ .char '.' :: body) ++ more ∧ behind = more ++ .char '.' :: rest := by
  have hname := dot_not_mem (isTokenChar_of_mem_tokenNames other hother).2
  obtain ⟨more, rfl⟩ := exists_append_of_not_mem h.symm hname
  rw [List.append_assoc, List.append_cancel_left_eq] at h
  cases more with
  | nil =>
    rw [List.nil_append, List.cons.injEq] at h
    exact Or.inl ⟨List.append_nil _, h.2⟩
  | cons first more =>
    rw [List.cons_append, List.cons.injEq] at h
    obtain ⟨rfl, h⟩ := h
    obtain ⟨left, rfl⟩ := exists_append_of_not_mem h.symm (dot_not_mem hbody)
    rw [List.append_assoc, List.append_cancel_left_eq] at h
    exact Or.inr ⟨left, by simp only [List.append_assoc, List.cons_append], h.symm⟩

/-- A token that has ended ahead of the dot behind another name has ended ahead of the name. -/
theorem length_le_behind_token {other body more : Text} (hname : name ∈ tokenNames)
    (hlong : 20 ≤ body.length) (hbody : ∀ point ∈ body, isTokenChar point = true)
    (hlead : (∃ front, lead = front ++ name ∧ ∀ point ∈ front.getLast?, isWord point = false) ∨
      lead <:+ name)
    (hsplit : lead = (other ++ .char '.' :: body) ++ more) : name.length ≤ more.length := by
  obtain ⟨hshort, hchars⟩ := isTokenChar_of_mem_tokenNames name hname
  rcases hlead with ⟨front, hfront, hlast⟩ | hsuffix
  · rcases List.append_eq_append_iff.mp (hsplit.symm.trans hfront) with
      ⟨extra, -, hmore⟩ | ⟨extra, hextra, hmore⟩
    · rw [hmore, List.length_append]
      omega
    · have hextraShort : extra.length < body.length := by
        rw [hmore, List.length_append] at hshort
        omega
      rw [List.append_cons] at hextra
      rcases List.append_eq_append_iff.mp hextra with ⟨start, hstart, hbodySplit⟩ |
        ⟨start, -, hextraSplit⟩
      · -- the token would end within a word, ahead of which there is none
        obtain rfl | ⟨ahead, last, rfl⟩ := List.eq_nil_or_concat' start
        · rw [hbodySplit, List.nil_append] at hextraShort
          exact absurd hextraShort (Nat.lt_irrefl _)
        · have hword : isTokenChar last = true := by
            apply hbody
            rw [hbodySplit]
            exact List.mem_append_left _ (List.mem_append_right _ List.mem_cons_self)
          have hnone := hlast last (by rw [hstart, ← List.append_assoc, List.getLast?_concat]; rfl)
          rw [isWord_of_isTokenChar hword] at hnone
          cases hnone
      · rw [hextraSplit, List.length_append] at hextraShort
        omega
  · have hdot := hchars (.char '.') (hsuffix.subset (by simp [hsplit]))
    cases hdot

/-- No token starts within the body of one. -/
theorem tokenRule_within_body (hhidden : (tokenBody name).IsHidden hidden) :
    Everywhere (fun ahead text => tokenRule ahead (text ++ rest) = none) before hidden := by
  intro ahead point behind hsplit
  apply Option.eq_none_iff_forall_ne_some.mpr
  intro claim hclaim
  obtain ⟨hboundary, other, hother, body, left, htext, -, hbody, -, -⟩ :=
    tokenRule_eq_some_iff.mp hclaim
  cases ahead with
  | cons first ahead =>
    rw [boundary_within_body hhidden.2 hsplit (List.cons_ne_nil _ _)] at hboundary
    cases hboundary
  | nil =>
    -- the dot behind a name stands in no body, and names are shorter than bodies
    obtain ⟨hshort, -⟩ := isTokenChar_of_mem_tokenNames other hother
    have hwhole : hidden ++ rest = other ++ .char '.' :: (body ++ left) :=
      (congrArg (· ++ rest) hsplit).trans htext
    obtain ⟨more, hmore⟩ := exists_append_of_not_mem hwhole (dot_not_mem hhidden.2)
    have hlong := hhidden.1
    rw [hmore, List.length_append] at hshort
    omega

/-- The rule for tokens respects their bodies. -/
theorem respects_tokenBody_tokenRule (hname : name ∈ tokenNames) :
    Respects tokenRule (tokenBody name) where
  alike {ahead text first second rest claim} hne hends hlength hfirst hsecond hrest hclaim := by
    obtain ⟨lead, rfl, -⟩ := exists_concat_of_endsStart hne
      (hends.imp_left fun ⟨front, hfront, _⟩ => ⟨front, hfront⟩)
    have hlead : (∃ front, lead = front ++ name ∧ ∀ point ∈ front.getLast?, isWord point = false) ∨
        lead <:+ name := by
      rcases hends with ⟨front, hfront, hlast⟩ | ⟨extra, hextra⟩
      · rw [tokenBody, ← List.append_assoc] at hfront
        exact Or.inl ⟨front, (List.append_inj' hfront rfl).1, hlast⟩
      · rw [tokenBody, ← List.append_assoc] at hextra
        exact Or.inr ⟨extra, (List.append_inj' hextra rfl).1⟩
    simp only [List.append_assoc, List.singleton_append] at hclaim ⊢
    obtain ⟨hboundary, other, hother, body, behind, hsplit, hlong, hbody, hbehind, rfl⟩ :=
      tokenRule_eq_some_iff.mp hclaim
    have hboundarySecond : boundary ahead (lead ++ .char '.' :: (second ++ rest)).head? = true := by
      cases lead <;> exact hboundary
    rcases token_across_dot hother hbody hsplit with ⟨rfl, hbodySplit⟩ | ⟨more, hmore, rfl⟩
    · -- the token is the secret
      have hrun := congrArg (List.takeWhile isTokenChar) hbodySplit
      rw [takeWhile_run hfirst.2 hrest, takeWhile_run hbody hbehind] at hrun
      subst hrun
      refine ⟨tokenRule_eq_some_iff.mpr ⟨hboundarySecond, lead, hother, second, rest, rfl,
        hsecond.1, hsecond.2, hrest, by rw [hlength]⟩, Or.inr ?_⟩
      exact Nat.le_of_eq (by rw [List.length_append, List.length_singleton])
    · have hheads : ∀ hidden : Text, ∀ point ∈ (more ++ .char '.' :: (hidden ++ rest)).head?,
          isTokenChar point = false := by
        intro hidden point hpoint
        apply hbehind
        cases more <;> exact hpoint
      refine ⟨tokenRule_eq_some_iff.mpr ⟨hboundarySecond, other, hother, body,
        more ++ .char '.' :: (second ++ rest), ?_, hlong, hbody, hheads second, rfl⟩, Or.inl ?_⟩
      · rw [hmore]
        simp only [List.append_assoc, List.cons_append]
      · have hname := length_le_behind_token hname hlong hbody hlead hmore
        have hlengths := congrArg List.length hmore
        simp only [tokenBody, List.length_append, List.length_cons, List.length_nil] at hlengths ⊢
        exact ⟨by omega, by omega, .char '*', rfl, by decide⟩
  inside hhidden _ := tokenRule_within_body hhidden
  behind {first second rest} hfirst hsecond _ := by
    rw [tokenRule, tokenRule, boundary_behind_body hfirst hsecond]
  kept {hidden rest} _ hrest := by
    apply head?_substituteFrom hrest
    intro claim hclaim
    obtain ⟨-, other, -, body, left, -, -, -, -, rfl⟩ := tokenRule_eq_some_iff.mp hclaim
    exact ⟨.char '*', rfl, by decide⟩

end

/-- Messages that the rules make the same are redacted alike, if they are as long as each other. -/
theorem redactMessage_congr {one other : Text} (hlength : one.length = other.length)
    (h : rules.foldl (fun text rule => substitute rule text) one =
      rules.foldl (fun text rule => substitute rule text) other)
    (hshort : one.length ≤ maximalLength) :
    redactMessage true (.str one) = redactMessage true (.str other) := by
  have hredact : redact one = redact other := by
    rw [redact, redact, if_neg (Nat.not_lt.mpr hshort),
      if_neg (Nat.not_lt.mpr (hlength ▸ hshort)), h]
  cases one with
  | nil => rw [List.eq_nil_of_length_eq_zero hlength.symm]
  | cons point rest =>
    cases other with
    | nil => cases hlength
    | cons next behind => exact congrArg (fun text => Except.ok (Value.str text)) hredact

/-- Two messages that differ in a secret only are redacted alike if the first rules respect the
secret and one of them claims it. -/
theorem redactMessage_veiled {secret : Secret} {chain more : List Rule}
    (hsplit : rules = chain ++ more) (hrules : ∀ rule ∈ chain, Respects rule secret)
    (hclaims : ∃ rule ∈ chain, Claims rule secret) {one other : Text}
    (h : Veiled secret one other) (hshort : one.length ≤ maximalLength) :
    redactMessage true (.str one) = redactMessage true (.str other) := by
  have hsame : rules.foldl (fun text rule => substitute rule text) one =
      rules.foldl (fun text rule => substitute rule text) other := by
    rw [hsplit, List.foldl_append, List.foldl_append, foldl_substitute_eq hrules hclaims h]
  obtain ⟨front, first, second, rest, -, hlength, -, -⟩ := h
  exact redactMessage_congr (by simp only [List.length_append, hlength]) hsame hshort

/-- The redacted message tells nothing of a value that is assigned to a keyword, and nothing of
the body of an access token. -/
theorem redactMessage_conceals (front first second rest : Text)
    (hfront : ∀ point ∈ front.getLast?, isWord point = false)
    (hlength : first.length = second.length) :
    (∀ group ∈ keywordGroups, ∀ name, IsName group name → ∀ sign, isSign sign = true →
      first ≠ [] → (∀ point ∈ first ++ second, isGap point = false ∧ isSign point = false) →
      ClosesValue rest →
      (front ++ (name ++ [sign] ++ (first ++ rest))).length ≤ maximalLength →
      redactMessage true (.str (front ++ (name ++ [sign] ++ (first ++ rest)))) =
        redactMessage true (.str (front ++ (name ++ [sign] ++ (second ++ rest))))) ∧
    (∀ start ∈ tokenStarts, 20 ≤ first.length →
      (∀ point ∈ first ++ second, isTokenChar point = true) →
      (∀ point ∈ rest.head?, isTokenChar point = false) →
      (front ++ (start ++ (first ++ rest))).length ≤ maximalLength →
      redactMessage true (.str (front ++ (start ++ (first ++ rest)))) =
        redactMessage true (.str (front ++ (start ++ (second ++ rest))))) := by
  constructor
  · intro group hgroup name hname sign hsign hne hchars hrest hshort
    rw [List.forall_mem_append] at hchars
    have hsecond : second ≠ [] := by
      rintro rfl
      exact hne (List.eq_nil_of_length_eq_zero hlength)
    have hveiled : Veiled (assignedValue name sign) (front ++ (name ++ [sign] ++ (first ++ rest)))
        (front ++ (name ++ [sign] ++ (second ++ rest))) := by
      refine .intro front first second rest hfront hlength ?_ hrest
      rw [List.forall_mem_cons, List.forall_mem_singleton]
      exact ⟨⟨hne, hchars.1⟩, hsecond, hchars.2⟩
    refine redactMessage_veiled rules_eq ?_ ⟨assignmentRule group, List.mem_map_of_mem hgroup,
      claims_assignedValue (subset_keywords group hgroup) hname hsign⟩ hveiled hshort
    rw [List.forall_mem_map]
    exact fun other hother =>
      respects_assignedValue (subset_keywords other hother) (subset_keywords group hgroup) hname
        hsign
  · intro start hstart hlong hchars hrest hshort
    rw [List.forall_mem_append] at hchars
    rw [tokenStarts_eq, List.mem_map] at hstart
    obtain ⟨name, hname, rfl⟩ := hstart
    have hveiled : Veiled (tokenBody name) (front ++ (name ++ [.char '.'] ++ (first ++ rest)))
        (front ++ (name ++ [.char '.'] ++ (second ++ rest))) := by
      refine .intro front first second rest hfront hlength ?_ hrest
      rw [List.forall_mem_cons, List.forall_mem_singleton]
      exact ⟨⟨hlong, hchars.1⟩, hlength ▸ hlong, hchars.2⟩
    refine redactMessage_veiled (List.append_nil rules).symm ?_
      ⟨tokenRule, by simp [rules_eq], claims_tokenBody hname⟩ hveiled hshort
    rw [rules_eq, List.forall_mem_append, List.forall_mem_map, List.forall_mem_cons,
      List.forall_mem_singleton]
    exact ⟨fun other hother =>
        respects_tokenBody_assignmentRule (subset_keywords other hother) hname,
      respects_tokenBody_keyBlockRule hname, respects_tokenBody_tokenRule hname⟩

/-- A password whose keyword is spelled with a long s, behind a keyword that could take it, and an
access token behind a keyword that takes it, ahead of an opening marker. -/
theorem redactMessage_conceals_password_and_token :
    redactMessage true (.str (("token= " : Text) ++
        (("PaſSwd" : Text) ++ [.char ':'] ++ (("hunter2" : Text) ++ (" now" : Text))))) =
      redactMessage true (.str (("token= " : Text) ++
        (("PaſSwd" : Text) ++ [.char ':'] ++ (("-----EN" : Text) ++ (" now" : Text))))) ∧
    redactMessage true (.str (("api-key:" : Text) ++
        (("s." : Text) ++ (("abcdefghijklmnopqrst" : Text) ++ (" -----BEGIN " : Text))))) =
      redactMessage true (.str (("api-key:" : Text) ++
        (("s." : Text) ++ (("ABCDEFGHIJ0123456789" : Text) ++ (" -----BEGIN " : Text))))) :=
  ⟨(redactMessage_conceals "token= " "hunter2" "-----EN" " now" (by decide) (by decide)).1
      (["password", "passwd", "pwd"].map keyword) (by decide) "PaſSwd"
      ⟨keyword "passwd", by decide, by unfold Spelled; decide⟩ (.char ':') (by decide) (by decide)
      (by decide) ⟨by decide, by decide⟩ (by decide),
    (redactMessage_conceals "api-key:" "abcdefghijklmnopqrst" "ABCDEFGHIJ0123456789"
      " -----BEGIN " (by decide) (by decide)).2 "s." (by decide) (by decide) (by decide)
      (by decide) (by decide)⟩

end HostLifecycle.Audit
