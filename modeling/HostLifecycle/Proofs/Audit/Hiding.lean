import HostLifecycle.Proofs.Audit.Markers
import HostLifecycle.Proofs.Audit.Surroundings
import HostLifecycle.Proofs.Audit.Tokens

/-!
Secrets that do not show. Two texts that differ in a secret only are taken through the rules side
by side. A rule that respects the secret either makes them the same or keeps the secret in its
place, with what stands ahead of it; and at the latest the rule that claims the secret makes them
the same. So the redacted text does not depend on the secret.
-/

namespace HostLifecycle.Audit

open Text

/-- A word starts behind what stands in none. -/
theorem boundary_of_isWord {before : Option CodePoint} {point : CodePoint}
    (hbefore : ∀ last ∈ before, isWord last = false) (hpoint : isWord point = true) :
    boundary before (some point) = true := by
  have hfirst : before.any isWord = false := by
    cases before with
    | none => rfl
    | some last => exact hbefore last rfl
  simp [boundary, hfirst, hpoint]

/-- The form of a secret: what it stands behind, what it may be and what may follow it. -/
structure Secret where
  start : Text
  IsHidden : Text → Prop
  IsBehind : Text → Prop
  start_ne : start ≠ []
  hidden_ne : ∀ hidden, IsHidden hidden → hidden ≠ []

/-- Two texts that differ in a secret only, which does not start within a word. -/
inductive Veiled (secret : Secret) : Text → Text → Prop where
  | intro (front first second rest : Text)
      (hfront : ∀ point ∈ front.getLast?, isWord point = false)
      (hlength : first.length = second.length)
      (hhidden : ∀ hidden ∈ [first, second], secret.IsHidden hidden)
      (hrest : secret.IsBehind rest) :
      Veiled secret (front ++ (secret.start ++ (first ++ rest)))
        (front ++ (secret.start ++ (second ++ rest)))

def Secret.EndsStart (secret : Secret) (text : Text) : Prop :=
  (∃ front, text = front ++ secret.start ∧ ∀ point ∈ front.getLast?, isWord point = false) ∨
    text <:+ secret.start

/-- What a rule has to do for a secret to stay hidden. Its claims ahead of the secret are alike for
all secrets: they end ahead of what the secret stands behind, or they take the secret too. It
claims nothing from within the secret on. -/
structure Respects (rule : Rule) (secret : Secret) : Prop where
  alike : ∀ {ahead text first second rest claim}, text ≠ [] → secret.EndsStart text →
    first.length = second.length → secret.IsHidden first → secret.IsHidden second →
    secret.IsBehind rest → rule ahead (text ++ (first ++ rest)) = some claim →
      rule ahead (text ++ (second ++ rest)) = some claim ∧
        ((0 < claim.width ∧ claim.width + secret.start.length ≤ text.length ∧
            ∃ point ∈ claim.replacement.getLast?, isWord point = false) ∨
          text.length + first.length ≤ claim.width)
  inside : ∀ {hidden rest}, secret.IsHidden hidden → secret.IsBehind rest →
    Everywhere (fun ahead text => rule ahead (text ++ rest) = none) secret.start.getLast? hidden
  behind : ∀ {first second rest}, secret.IsHidden first → secret.IsHidden second →
    secret.IsBehind rest → rule first.getLast? rest = rule second.getLast? rest
  kept : ∀ {hidden rest}, secret.IsHidden hidden → secret.IsBehind rest →
    secret.IsBehind (substituteFrom rule 0 hidden.getLast? rest)

def Claims (rule : Rule) (secret : Secret) : Prop :=
  ∀ ahead hidden rest, (∀ point ∈ ahead, isWord point = false) → secret.IsHidden hidden →
    secret.IsBehind rest → rule ahead (secret.start ++ (hidden ++ rest)) ≠ none

section

variable {rule : Rule} {secret : Secret} {one other : Text}

/-- A rule makes two texts the same or leaves them different in the secret only, and it does the
former if it claims the secret. -/
theorem Respects.substitute_veiled (hrule : Respects rule secret)
    (h : Veiled secret one other) : substitute rule one = substitute rule other ∨
      ¬ Claims rule secret ∧ Veiled secret (substitute rule one) (substitute rule other) := by
  obtain ⟨front, first, second, rest, hfront, hlength, hhidden, hrest⟩ := h
  rw [List.forall_mem_cons, List.forall_mem_singleton] at hhidden
  obtain ⟨hfirst, hsecond⟩ := hhidden
  have hplaces : ∀ ahead point behind, front ++ secret.start = ahead ++ point :: behind →
      secret.EndsStart (point :: behind) := by
    intro ahead point behind hsplit
    rcases List.append_eq_append_iff.mp hsplit with ⟨extra, hahead, hextra⟩ | ⟨more, hmore, hextra⟩
    · exact Or.inr ⟨extra, hextra.symm⟩
    · refine Or.inl ⟨more, hextra, fun last hlast => hfront last ?_⟩
      rw [hmore, List.getLast?_append, hlast]
      rfl
  have hlast : ∀ hidden, secret.IsHidden hidden →
      lastOr (lastOr none (front ++ secret.start)) hidden = hidden.getLast? := by
    intro hidden hsome
    rw [lastOr_of_ne_nil _ none (secret.hidden_ne hidden hsome), lastOr_none]
  have hahead : lastOr none (front ++ secret.start) = secret.start.getLast? := by
    rw [lastOr_append, lastOr_of_ne_nil _ none secret.start_ne, lastOr_none]
  have hinside : ∀ hidden, secret.IsHidden hidden →
      Everywhere (fun ahead text => rule ahead (text ++ rest) = none)
        (lastOr none (front ++ secret.start)) hidden := by
    intro hidden hsome
    rw [hahead]
    exact hrule.inside hsome hrest
  have hbehind : rule (lastOr (lastOr none (front ++ secret.start)) first) rest =
      rule (lastOr (lastOr none (front ++ secret.start)) second) rest := by
    rw [hlast first hfirst, hlast second hsecond]
    exact hrule.behind hfirst hsecond hrest
  rcases substitute_hidden hlength (secret.hidden_ne first hfirst) hfront
    (fun ahead point behind hsplit => Option.ext fun claim =>
      ⟨fun hclaim => (hrule.alike (List.cons_ne_nil _ _) (hplaces _ _ _ hsplit) hlength hfirst
          hsecond hrest hclaim).1,
        fun hclaim => (hrule.alike (List.cons_ne_nil _ _) (hplaces _ _ _ hsplit) hlength.symm
          hsecond hfirst hrest hclaim).1⟩)
    (fun ahead point behind hsplit claim hclaim =>
      (hrule.alike (List.cons_ne_nil _ _) (hplaces _ _ _ hsplit) hlength hfirst hsecond hrest
        hclaim).2)
    (hinside first hfirst) (hinside second hsecond) hbehind with hsame | ⟨hnone, kept, hkept, hform⟩
  · exact Or.inl hsame
  · refine Or.inr ⟨fun hclaims => ?_, ?_⟩
    · obtain ⟨point, tail, htail⟩ := List.exists_cons_of_ne_nil secret.start_ne
      have hplace : rule (lastOr none front) (secret.start ++ (first ++ rest)) = none := by
        have h := hnone [] point tail htail
        rwa [← htail] at h
      rw [lastOr_none] at hplace
      exact hclaims _ first rest hfront hfirst hrest hplace
    · rw [List.forall_mem_cons, List.forall_mem_singleton] at hform
      rw [hform.1, hform.2, hlast first hfirst]
      exact .intro kept first second _ hkept hlength
        (by rw [List.forall_mem_cons, List.forall_mem_singleton]; exact ⟨hfirst, hsecond⟩)
        (hrule.kept hfirst hrest)

/-- Rules that respect a secret hide it if one of them claims it. -/
theorem foldl_substitute_eq {chain : List Rule} (hrules : ∀ rule ∈ chain, Respects rule secret)
    (hclaims : ∃ rule ∈ chain, Claims rule secret) (h : Veiled secret one other) :
    chain.foldl (fun text rule => substitute rule text) one =
      chain.foldl (fun text rule => substitute rule text) other := by
  induction chain generalizing one other with
  | nil => simp at hclaims
  | cons rule chain ih =>
    rw [List.forall_mem_cons] at hrules
    rw [List.foldl_cons, List.foldl_cons]
    rcases hrules.1.substitute_veiled h with hsame | ⟨hnone, hveiled⟩
    · rw [hsame]
    · obtain ⟨claiming, hmem, hclaiming⟩ := hclaims
      rcases List.mem_cons.mp hmem with rfl | hmem
      · exact absurd hclaiming hnone
      · exact ih hrules.2 ⟨claiming, hmem, hclaiming⟩ hveiled

end

section

variable {group : List (List Part)} {ahead : Option CodePoint}
  {name text first second rest : Text} {stop : CodePoint} {claim : Claim}

theorem Assignment.getLast?_masked (assignment : Assignment group text) :
    assignment.masked.getLast? = some (.char '*') := by
  rw [masked, List.getLast?_append]
  rfl

theorem Assignment.claimed_ne (assignment : Assignment group text) : assignment.claimed ≠ [] := by
  simp [claimed]

/-- What a text goes on to, up to the last point of a start. -/
theorem exists_concat_of_endsStart (hne : text ≠ [])
    (h : (∃ front, text = front ++ (name ++ [stop])) ∨ text <:+ name ++ [stop]) :
    ∃ lead, text = lead ++ [stop] ∧ ((∃ front, lead = front ++ name) ∨ lead <:+ name) := by
  rcases h with ⟨front, rfl⟩ | ⟨front, hfront⟩
  · exact ⟨front ++ name, by rw [List.append_assoc], Or.inl ⟨front, rfl⟩⟩
  · obtain ⟨lead, last, rfl⟩ := (List.eq_nil_or_concat' text).resolve_left hne
    rw [← List.append_assoc] at hfront
    obtain ⟨hname, hlast⟩ := List.append_inj' hfront rfl
    cases hlast
    exact ⟨lead, rfl, Or.inr ⟨front, hname⟩⟩

/-- A rule for assignments makes no difference between two shown texts behind a name. -/
theorem assignmentRule_alike (hgroup : group ⊆ keywords)
    (hname : ∀ point ∈ name, isGap point = false) (hstop : isNamePoint stop = false)
    (hstopGap : isGap stop = false) (hlength : first.length = second.length) (hne : first ≠ [])
    (hfirst : ∀ point ∈ first, isGap point = false)
    (hsecond : ∀ point ∈ second, isGap point = false) (hsome : text ≠ [])
    (hends : (∃ front, text = front ++ (name ++ [stop])) ∨ text <:+ name ++ [stop])
    (hclaim : assignmentRule group ahead (text ++ (first ++ rest)) = some claim) :
    assignmentRule group ahead (text ++ (second ++ rest)) = some claim ∧
      ((0 < claim.width ∧ claim.width + (name ++ [stop]).length ≤ text.length ∧
          ∃ point ∈ claim.replacement.getLast?, isWord point = false) ∨
        text.length + first.length ≤ claim.width) := by
  obtain ⟨lead, rfl, hlead⟩ := exists_concat_of_endsStart hsome hends
  obtain ⟨hboundary, assignment, rfl⟩ := exists_assignment hclaim
  have hsplit : ∀ hidden, lead ++ [stop] ++ (hidden ++ rest) = lead ++ stop :: (hidden ++ rest) :=
    fun hidden => List.append_assoc lead [stop] (hidden ++ rest)
  obtain ⟨⟨beside, hbeside⟩, hwidth⟩ := assignment.exists_beside hgroup (hsplit first) hstop
    hstopGap hne hfirst hsecond hlength
  constructor
  · rw [hsplit second, ← hbeside]
    apply assignmentRule_of_assignment hgroup
    cases lead <;> exact hboundary
  · rcases hwidth with ⟨left, hleft, hsplit, hblank⟩ | hwidth
    · left
      refine ⟨List.length_pos_iff.mpr assignment.claimed_ne, ?_, _, assignment.getLast?_masked,
        by decide⟩
      -- the name holds no blank, so it stands behind the one that ends the assignment
      have hnotName : ∀ point behind, left = point :: behind → ¬ left <:+ name := by
        rintro point behind rfl hsuffix
        have hshown := hname point (hsuffix.subset List.mem_cons_self)
        rw [hblank point rfl] at hshown
        cases hshown
      obtain ⟨point, behind, hcons⟩ := List.exists_cons_of_ne_nil hleft
      have hnot := hnotName point behind hcons
      rcases hlead with ⟨front, hfront⟩ | ⟨extra, hextra⟩
      · rcases List.append_eq_append_iff.mp (hsplit.symm.trans hfront) with
          ⟨more, hmore, hleftSplit⟩ | ⟨more, -, hnameSplit⟩
        · simp only [Assignment.claim, hsplit, hleftSplit, List.length_append]
          omega
        · exact absurd ⟨more, hnameSplit.symm⟩ hnot
      · refine absurd ⟨extra ++ assignment.claimed, ?_⟩ hnot
        rw [List.append_assoc, ← hsplit, hextra]
    · right
      rw [List.length_append, List.length_singleton]
      exact hwidth

end

/-! ### Assigned values -/

/-- Whether an assignment of the values of an earlier assignment could start ahead of a text: it
starts with a blank, and no sign is the first code point behind its blanks. -/
def ClosesValue (rest : Text) : Prop :=
  (∀ point ∈ rest.head?, isGap point = true) ∧
    ∀ point ∈ (rest.dropWhile isGap).head?, isSign point = false

def assignedValue (name : Text) (sign : CodePoint) : Secret where
  start := name ++ [sign]
  IsHidden hidden := hidden ≠ [] ∧ ∀ point ∈ hidden, isGap point = false ∧ isSign point = false
  IsBehind := ClosesValue
  start_ne := by simp
  hidden_ne _ h := h.1

section

variable {group others : List (List Part)} {name shown rest : Text} {sign : CodePoint}

/-- What a name and the blanks behind it end in is blank if it starts with a blank. -/
theorem Assignment.blank_of_suffix {text lead extra : Text} (hgroup : group ⊆ keywords)
    (assignment : Assignment group text) (h : assignment.name ++ assignment.gap = lead ++ extra)
    (hextra : ∀ point ∈ extra.head?, isGap point = true) : ∀ point ∈ extra, isGap point = true := by
  rcases List.append_eq_append_iff.mp h with ⟨more, -, hgap⟩ | ⟨more, hname, hmore⟩
  · exact fun point hpoint => assignment.gap_blank point (hgap ▸ List.mem_append_right _ hpoint)
  · cases more with
    | nil =>
      rw [List.nil_append] at hmore
      exact fun point hpoint => assignment.gap_blank point (hmore ▸ hpoint)
    | cons next more =>
      have hnext := hextra next (by rw [hmore]; rfl)
      have hpoint := assignment.isName.isNamePoint hgroup next
        (hname ▸ List.mem_append_right _ List.mem_cons_self)
      rw [isGap_of_isNamePoint hpoint] at hnext
      cases hnext

/-- No assignment starts within what holds no signs, unless a sign follows. -/
theorem Assignment.not_unsigned {text : Text} (hgroup : group ⊆ keywords)
    (assignment : Assignment group text) (htext : text = shown ++ rest)
    (hshown : ∀ point ∈ shown, isSign point = false) (hrest : ClosesValue rest) : False := by
  have hsplit := htext.symm.trans assignment.text_eq
  rw [← List.append_assoc] at hsplit
  rcases List.append_eq_append_iff.mp hsplit with ⟨extra, hextra, hsign⟩ | ⟨extra, hextra, hsign⟩
  · -- the sign is behind the shown text, and what is ahead of it there is blank
    have hblank : ∀ point ∈ extra, isGap point = true := by
      apply assignment.blank_of_suffix hgroup hextra
      intro point hpoint
      apply hrest.1
      rw [hsign, List.head?_append, hpoint]
      rfl
    have hdrop : rest.dropWhile isGap = assignment.sign :: (assignment.space ++
        (assignment.value ++ assignment.rest)) := by
      rw [hsign]
      apply dropWhile_run hblank
      rintro point ⟨⟩
      exact isGap_of_isSign assignment.sign_isSign
    have hunsigned := hrest.2 assignment.sign (by rw [hdrop]; rfl)
    rw [assignment.sign_isSign] at hunsigned
    cases hunsigned
  · cases extra with
    | nil =>
      have hblank := hrest.1 assignment.sign (congrArg List.head? hsign).symm
      rw [isGap_of_isSign assignment.sign_isSign] at hblank
      cases hblank
    | cons first extra =>
      rw [List.cons_append, List.cons.injEq] at hsign
      have hunsigned := hshown first (hextra ▸ List.mem_append_right _ List.mem_cons_self)
      rw [← hsign.1, assignment.sign_isSign] at hunsigned
      cases hunsigned

/-- The rules for assignments respect assigned values. -/
theorem respects_assignedValue (hgroup : group ⊆ keywords) (hothers : others ⊆ keywords)
    (hname : IsName others name) (hsign : isSign sign = true) :
    Respects (assignmentRule group) (assignedValue name sign) where
  alike hne hends hlength hfirst hsecond _ hclaim :=
    assignmentRule_alike hgroup
      (fun point hpoint => isGap_of_isNamePoint (hname.isNamePoint hothers point hpoint))
      (isNamePoint_of_isSign hsign) (isGap_of_isSign hsign) hlength hfirst.1
      (fun point hpoint => (hfirst.2 point hpoint).1)
      (fun point hpoint => (hsecond.2 point hpoint).1) hne
      (hends.imp_left fun ⟨front, hfront, _⟩ => ⟨front, hfront⟩) hclaim
  inside hhidden hrest ahead point behind hsplit := by
    apply Option.eq_none_iff_forall_ne_some.mpr
    intro claim hclaim
    obtain ⟨-, assignment, -⟩ := exists_assignment hclaim
    apply assignment.not_unsigned hgroup rfl _ hrest
    intro other hother
    exact (hhidden.2 other (hsplit ▸ List.mem_append_right _ hother)).2
  behind _ _ hrest := by
    rw [assignmentRule_of_blank hgroup hrest.1, assignmentRule_of_blank hgroup hrest.1]
  kept _ hrest := by
    refine ⟨?_, ?_⟩
    · rw [head?_substituteFrom_assignmentRule hgroup]
      exact hrest.1
    · rw [head?_dropWhile_substituteFrom_assignmentRule hgroup]
      exact hrest.2

/-- The rule for the keyword claims the values that are assigned to it. -/
theorem claims_assignedValue (hgroup : group ⊆ keywords) (hname : IsName group name)
    (hsign : isSign sign = true) : Claims (assignmentRule group) (assignedValue name sign) := by
  intro ahead hidden rest hahead hhidden hrest
  obtain ⟨point, behind, letter, hhead, -, hletter⟩ := hname.exists_initial hgroup
  have hboundary : boundary ahead (name ++ [sign] ++ (hidden ++ rest)).head? = true := by
    rw [hhead]
    exact boundary_of_isWord hahead (isWord_of_letterOf? hletter)
  have assignment : Assignment group (name ++ [sign] ++ (hidden ++ rest)) :=
    { name := name, gap := [], sign := sign, space := [], value := hidden, rest := rest
      text_eq := List.append_assoc _ _ _
      isName := hname
      gap_blank := fun point hnone => absurd hnone List.not_mem_nil
      sign_isSign := hsign
      space_blank := fun point hnone => absurd hnone List.not_mem_nil
      value_ne := hhidden.1
      value_shown := fun point hpoint => (hhidden.2 point hpoint).1
      rest_blank := hrest.1 }
  rw [assignedValue, assignmentRule_of_assignment hgroup hboundary assignment]
  exact Option.some_ne_none _

end

end HostLifecycle.Audit
