import HostLifecycle.Text.Substitution

/-!
Substitution, place by place. A rule is tried at the places of a text one after the other, each
with the code point ahead of it. What stands in the first part of a text may claim some of what
is behind it, its overhang; so the substitution of a text that is put together is that of its first
part, which looks ahead at the second one, and that of the second one behind the overhang.
-/

namespace HostLifecycle.Text

variable {before : Option CodePoint} {text rest : Text} {rule : Rule}

def lastOr (before : Option CodePoint) (text : Text) : Option CodePoint :=
  text.getLast?.or before

@[simp] theorem lastOr_nil (before : Option CodePoint) : lastOr before [] = before := rfl

@[simp] theorem lastOr_cons (before : Option CodePoint) (point : CodePoint) (rest : Text) :
    lastOr before (point :: rest) = lastOr (some point) rest := by
  cases rest with
  | nil => rfl
  | cons next rest => simp [lastOr, List.getLast?_cons]

@[simp] theorem lastOr_append (before : Option CodePoint) (front rest : Text) :
    lastOr before (front ++ rest) = lastOr (lastOr before front) rest := by
  induction front generalizing before with
  | nil => rfl
  | cons point front ih => simp only [List.cons_append, lastOr_cons, ih]

theorem lastOr_none (text : Text) : lastOr none text = text.getLast? :=
  Option.or_none

theorem lastOr_of_ne_nil (before other : Option CodePoint) (h : text ≠ []) :
    lastOr before text = lastOr other text := by
  cases text with
  | nil => exact absurd rfl h
  | cons point rest => simp only [lastOr_cons]

/-- Whether a property holds at every place of a text, told of the code point ahead of the place
and of the text from there on. -/
def Everywhere (property : Option CodePoint → Text → Prop) (before : Option CodePoint)
    (text : Text) : Prop :=
  ∀ front point rest, text = front ++ point :: rest →
    property (lastOr before front) (point :: rest)

section

variable {property : Option CodePoint → Text → Prop}

theorem everywhere_nil : Everywhere property before [] := by
  intro front point rest h
  simp at h

theorem everywhere_cons {point : CodePoint} :
    Everywhere property before (point :: rest) ↔
      property before (point :: rest) ∧ Everywhere property (some point) rest := by
  constructor
  · intro h
    refine ⟨h [] point rest rfl, fun front next behind hrest => ?_⟩
    have hplace := h (point :: front) next behind (by rw [hrest, List.cons_append])
    rwa [lastOr_cons] at hplace
  · rintro ⟨hfirst, hrest⟩ front next behind htext
    cases front with
    | nil =>
      cases htext
      exact hfirst
    | cons other front =>
      cases htext
      rw [lastOr_cons]
      exact hrest front next behind rfl

def decideEverywhere [∀ ahead text, Decidable (property ahead text)] :
    (before : Option CodePoint) → (text : Text) → Decidable (Everywhere property before text)
  | _, [] => isTrue everywhere_nil
  | _, point :: rest =>
    have := decideEverywhere (some point) rest
    decidable_of_iff' _ everywhere_cons

instance [∀ ahead text, Decidable (property ahead text)] (before : Option CodePoint) (text : Text) :
    Decidable (Everywhere property before text) :=
  decideEverywhere before text

theorem everywhere_append {front : Text} :
    Everywhere property before (front ++ rest) ↔
      Everywhere (fun ahead text => property ahead (text ++ rest)) before front ∧
        Everywhere property (lastOr before front) rest := by
  induction front generalizing before with
  | nil => simp [everywhere_nil]
  | cons point front ih =>
    simp only [List.cons_append, everywhere_cons, ih, lastOr_cons, and_assoc]

theorem Everywhere.imp {other : Option CodePoint → Text → Prop}
    (h : Everywhere property before text)
    (himp : ∀ ahead text, text ≠ [] → property ahead text → other ahead text) :
    Everywhere other before text :=
  fun front point rest htext =>
    himp _ _ (List.cons_ne_nil _ _) (h front point rest htext)

end

def Rule.ahead (rule : Rule) (behind : Text) : Rule :=
  fun before text => rule before (text ++ behind)

def overhang (rule : Rule) : (skip : Nat) → (before : Option CodePoint) → Text → Nat
  | skip, _, [] => skip
  | skip + 1, _, point :: rest => overhang rule skip (some point) rest
  | 0, before, point :: rest =>
    match rule before (point :: rest) with
    | some ⟨width + 1, _⟩ => overhang rule width (some point) rest
    | _ => overhang rule 0 (some point) rest

/-- A text that is put together is substituted part by part. -/
theorem substituteFrom_append (rule : Rule) (skip : Nat) (before : Option CodePoint)
    (text behind : Text) :
    substituteFrom rule skip before (text ++ behind) =
      substituteFrom (rule.ahead behind) skip before text ++
        substituteFrom rule (overhang (rule.ahead behind) skip before text)
          (lastOr before text) behind := by
  induction text generalizing skip before with
  | nil => cases skip <;> rfl
  | cons point rest ih =>
    cases skip with
    | succ skip =>
      simp only [List.cons_append, substituteFrom, overhang, lastOr_cons]
      exact ih skip (some point)
    | zero =>
      simp only [List.cons_append, substituteFrom, overhang, lastOr_cons]
      have hahead : rule.ahead behind before (point :: rest) =
          rule before (point :: (rest ++ behind)) := rfl
      rw [hahead]
      rcases rule before (point :: (rest ++ behind)) with _ | ⟨_ | width, replacement⟩ <;>
        simp only [ih, List.cons_append, List.append_assoc]

/-- Two rules that claim the same at every place of a text do the same to it. -/
theorem substituteFrom_congr {other : Rule} (skip : Nat)
    (h : Everywhere (fun ahead text => rule ahead text = other ahead text) before text) :
    substituteFrom rule skip before text = substituteFrom other skip before text ∧
      overhang rule skip before text = overhang other skip before text := by
  induction text generalizing skip before with
  | nil => cases skip <;> exact ⟨rfl, rfl⟩
  | cons point rest ih =>
    rw [everywhere_cons] at h
    cases skip with
    | succ skip => exact ih skip h.2
    | zero =>
      simp only [substituteFrom, overhang, h.1]
      rcases other before (point :: rest) with _ | ⟨_ | width, replacement⟩ <;>
        simp only [ih _ h.2, and_self]

/-- What is claimed already is left out. -/
theorem substituteFrom_skip (rule : Rule) (more : Nat) (before : Option CodePoint)
    (skipped rest : Text) :
    substituteFrom rule (skipped.length + more) before (skipped ++ rest) =
      substituteFrom rule more (lastOr before skipped) rest := by
  induction skipped generalizing before with
  | nil => simp
  | cons point skipped ih =>
    rw [List.length_cons, Nat.add_right_comm, List.cons_append, lastOr_cons, substituteFrom]
    exact ih (some point)

/-- A claim at the start of a text is replaced, and the search goes on behind it. -/
theorem substituteFrom_claimed {piece replacement : Text} (hpiece : piece ≠ [])
    (hclaim : rule before (piece ++ rest) = some ⟨piece.length, replacement⟩) :
    substituteFrom rule 0 before (piece ++ rest) =
      replacement ++ substituteFrom rule 0 (lastOr before piece) rest := by
  obtain ⟨point, tail, rfl⟩ := List.exists_cons_of_ne_nil hpiece
  rw [List.cons_append] at hclaim ⊢
  rw [substituteFrom, hclaim, lastOr_cons]
  exact congrArg _ (substituteFrom_skip rule 0 (some point) tail rest)

/-- Where nothing is claimed at any place, all is kept and nothing behind it is claimed. -/
theorem substituteFrom_of_none
    (h : Everywhere (fun ahead text => rule ahead text = none) before text) :
    substituteFrom rule 0 before text = text ∧ overhang rule 0 before text = 0 := by
  induction text generalizing before with
  | nil => exact ⟨rfl, rfl⟩
  | cons point rest ih =>
    rw [everywhere_cons] at h
    simp only [substituteFrom, overhang, h.1]
    exact ⟨congrArg _ (ih h.2).1, (ih h.2).2⟩

/-- What stands behind a place where nothing is claimed does not depend on what stands ahead of
the place. -/
theorem substituteFrom_congr_before {other : Option CodePoint}
    (h : rule before text = rule other text) :
    substituteFrom rule 0 before text = substituteFrom rule 0 other text := by
  cases text with
  | nil => rfl
  | cons point rest => simp only [substituteFrom, h]

/-- The first code point is kept, or it is that of a replacement. -/
theorem head?_substituteFrom {property : CodePoint → Prop}
    (htext : ∀ point ∈ text.head?, property point)
    (hclaim : ∀ claim, rule before text = some claim →
      ∃ point ∈ claim.replacement.head?, property point) :
    ∀ point ∈ (substituteFrom rule 0 before text).head?, property point := by
  intro point hpoint
  cases text with
  | nil => cases hpoint
  | cons first rest =>
    rw [substituteFrom] at hpoint
    split at hpoint
    next width replacement hsome =>
      obtain ⟨head, hhead, hproperty⟩ := hclaim _ hsome
      rw [List.head?_append, Option.mem_def.mp hhead] at hpoint
      cases hpoint
      exact hproperty
    next =>
      cases hpoint
      exact htext _ rfl

/-- Where nothing is claimed at any place of a first part, that part is kept. -/
theorem substituteFrom_append_of_none
    (h : Everywhere (fun ahead text => rule ahead (text ++ rest) = none) before text) :
    substituteFrom rule 0 before (text ++ rest) =
      text ++ substituteFrom rule 0 (lastOr before text) rest := by
  have hahead : Everywhere (fun ahead text => rule.ahead rest ahead text = none) before text := h
  obtain ⟨hkept, hover⟩ := substituteFrom_of_none hahead
  rw [substituteFrom_append, hkept, hover]

/-- The overhang is that of one claim, or nothing. -/
theorem overhang_cases (rule : Rule) (skip : Nat) (before : Option CodePoint) (text : Text) :
    overhang rule skip before text = skip - text.length ∨
      ∃ front point rest claim, text = front ++ point :: rest ∧
        rule (lastOr before front) (point :: rest) = some claim ∧
        overhang rule skip before text = claim.width - (point :: rest).length := by
  induction text generalizing skip before with
  | nil => exact Or.inl rfl
  | cons point rest ih =>
    cases skip with
    | succ skip =>
      rcases ih skip (some point) with hskip | ⟨front, next, behind, claim, rfl, hclaim, hover⟩
      · exact Or.inl (by rw [overhang, hskip, List.length_cons, Nat.add_sub_add_right])
      · refine Or.inr ⟨point :: front, next, behind, claim, rfl, ?_, hover⟩
        rwa [lastOr_cons]
    | zero =>
      rw [overhang]
      split
      next width replacement hclaim =>
        rcases ih width (some point) with hskip | ⟨front, next, behind, claim, rfl, hnext, hover⟩
        · refine Or.inr ⟨[], point, rest, _, rfl, hclaim, ?_⟩
          rw [hskip, List.length_cons]
          exact (Nat.add_sub_add_right width 1 rest.length).symm
        · refine Or.inr ⟨point :: front, next, behind, claim, rfl, ?_, hover⟩
          rwa [lastOr_cons]
      next =>
        rcases ih 0 (some point) with hskip | ⟨front, next, behind, claim, rfl, hnext, hover⟩
        · exact Or.inl (by rw [hskip, Nat.zero_sub, Nat.zero_sub])
        · refine Or.inr ⟨point :: front, next, behind, claim, rfl, ?_, hover⟩
          rwa [lastOr_cons]

/-- Nothing behind a text is claimed if no claim in it reaches beyond its end. -/
theorem overhang_eq_zero
    (h : Everywhere (fun ahead text => ∀ claim, rule ahead text = some claim →
      claim.width ≤ text.length) before text) : overhang rule 0 before text = 0 := by
  rcases overhang_cases rule 0 before text with
    hnone | ⟨front, point, rest, claim, htext, hclaim, hover⟩
  · rw [hnone, Nat.zero_sub]
  · rw [hover]
    exact Nat.sub_eq_zero_of_le (h front point rest htext claim hclaim)

/-- A claim that reaches beyond a text is what hangs over. -/
theorem overhang_of_length_le {skip : Nat} (h : text.length ≤ skip) :
    overhang rule skip before text = skip - text.length := by
  induction text generalizing skip before with
  | nil => rfl
  | cons point rest ih =>
    cases skip with
    | zero => simp at h
    | succ skip =>
      rw [overhang, ih (Nat.le_of_succ_le_succ h), List.length_cons, Nat.add_sub_add_right]

/-- Where every claim would reach beyond a text and nothing hangs over, nothing is claimed. -/
theorem everywhere_none_of_overhang
    (h : Everywhere (fun ahead text => ∀ claim, rule ahead text = some claim →
      text.length < claim.width) before text) (hover : overhang rule 0 before text = 0) :
    Everywhere (fun ahead text => rule ahead text = none) before text := by
  induction text generalizing before with
  | nil => exact everywhere_nil
  | cons point rest ih =>
    rw [everywhere_cons] at h ⊢
    cases hclaim : rule before (point :: rest) with
    | none =>
      simp only [overhang, hclaim] at hover
      exact ⟨rfl, ih h.2 hover⟩
    | some claim =>
      obtain ⟨width, replacement⟩ := claim
      have hlt := h.1 _ hclaim
      simp only [List.length_cons] at hlt
      cases width with
      | zero => simp at hlt
      | succ width =>
        simp only [overhang, hclaim] at hover
        rw [overhang_of_length_le (by omega)] at hover
        omega

/-- Where a first part ends as asked for, all of a text does if the second one does. -/
theorem forall_getLast?_append {closes : CodePoint → Prop} {front : Text}
    (hfront : ∃ point ∈ front.getLast?, closes point)
    (hrest : ∀ point ∈ rest.getLast?, closes point) :
    ∀ point ∈ (front ++ rest).getLast?, closes point := by
  obtain ⟨last, hlast, hcloses⟩ := hfront
  intro point hpoint
  rw [List.getLast?_append] at hpoint
  cases hend : rest.getLast? with
  | none =>
    rw [hend, Option.none_or, hlast] at hpoint
    cases hpoint
    exact hcloses
  | some next =>
    rw [hend, Option.some_or] at hpoint
    cases hpoint
    exact hrest point hend

/-- If nothing hangs over, a tail that no claim ends in is kept. What comes ahead of it ends as it
did or as a replacement does. -/
theorem exists_kept_tail {closes : CodePoint → Prop} {front tail : Text} {skip : Nat}
    (h : Everywhere (fun ahead text => ∀ claim, rule ahead text = some claim →
      (0 < claim.width ∧ claim.width + tail.length ≤ text.length ∧
          ∃ point ∈ claim.replacement.getLast?, closes point) ∨
        text.length < claim.width) before (front ++ tail))
    (hskip : skip ≤ front.length) (hover : overhang rule skip before (front ++ tail) = 0)
    (hfront : ∀ point ∈ front.getLast?, closes point) :
    ∃ kept, substituteFrom rule skip before (front ++ tail) = kept ++ tail ∧
      (∀ point ∈ kept.getLast?, closes point) ∧ (kept = [] → skip = front.length) ∧
      Everywhere (fun ahead text => rule ahead text = none) (lastOr before front) tail := by
  induction front generalizing skip before with
  | nil =>
    obtain rfl : skip = 0 := Nat.le_zero.mp hskip
    have hbeyond : Everywhere (fun ahead text => ∀ claim, rule ahead text = some claim →
        text.length < claim.width) before tail := by
      intro ahead point rest htail claim hclaim
      rcases h ahead point rest htail claim hclaim with ⟨hpositive, hle, -⟩ | hbeyond
      · rw [htail, List.length_append] at hle
        omega
      · exact hbeyond
    have hnone := everywhere_none_of_overhang hbeyond hover
    exact ⟨[], (substituteFrom_of_none hnone).1, by simp, fun _ => rfl, hnone⟩
  | cons point rest ih =>
    rw [List.cons_append, everywhere_cons] at h
    have hrest : ∀ other ∈ rest.getLast?, closes other := by
      intro other hother
      apply hfront
      rw [Option.mem_def, List.getLast?_cons, Option.mem_def.mp hother]
      rfl
    cases skip with
    | succ skip =>
      obtain ⟨kept, hkept, hcloses, hempty, hnone⟩ :=
        ih h.2 (Nat.le_of_succ_le_succ hskip) hover hrest
      refine ⟨kept, hkept, hcloses, fun hnil => ?_, by rwa [lastOr_cons]⟩
      rw [hempty hnil, List.length_cons]
    | zero =>
      cases hclaim : rule before (point :: (rest ++ tail)) with
      | none =>
        simp only [List.cons_append, overhang, hclaim] at hover
        obtain ⟨kept, hkept, hcloses, hempty, hnone⟩ := ih h.2 (Nat.zero_le _) hover hrest
        refine ⟨point :: kept, ?_, ?_, by simp, by rwa [lastOr_cons]⟩
        · simp only [List.cons_append, substituteFrom, hclaim, hkept]
        · intro other hother
          cases kept with
          | nil =>
            obtain rfl : rest = [] := List.eq_nil_of_length_eq_zero (hempty rfl).symm
            exact hfront other hother
          | cons next kept => exact hcloses other (by simpa using hother)
      | some claim =>
        obtain ⟨width, replacement⟩ := claim
        have hwidth := h.1 _ hclaim
        simp only [List.length_cons, List.length_append] at hwidth
        cases width with
        | zero => omega
        | succ width =>
          simp only [List.cons_append, overhang, hclaim] at hover
          rcases hwidth with ⟨-, hle, last, hlast, hlastCloses⟩ | hbeyond
          · obtain ⟨kept, hkept, hcloses, hempty, hnone⟩ := ih h.2 (by omega) hover hrest
            refine ⟨replacement ++ kept, ?_, ?_, ?_, by rwa [lastOr_cons]⟩
            · simp only [List.cons_append, substituteFrom, hclaim, hkept, List.append_assoc]
            · exact forall_getLast?_append ⟨last, hlast, hlastCloses⟩ hcloses
            · intro hnil
              rw [(List.append_eq_nil_iff.mp hnil).1] at hlast
              cases hlast
          · rw [overhang_of_length_le (by rw [List.length_append]; omega),
              List.length_append] at hover
            omega

/-- Two texts with as many code points in one place, which no claim starts in or ends in, are
substituted to the same text or keep those code points. -/
theorem substitute_agree {front first second rest : Text}
    (hlength : first.length = second.length)
    (hagree : Everywhere (fun ahead text => rule.ahead (first ++ rest) ahead text =
      rule.ahead (second ++ rest) ahead text) none front)
    (hreach : Everywhere (fun ahead text => ∀ claim, rule.ahead (first ++ rest) ahead text =
      some claim → claim.width ≤ text.length ∨ text.length + first.length ≤ claim.width) none front)
    (hfirst : Everywhere (fun ahead text => rule ahead (text ++ rest) = none)
      (lastOr none front) first)
    (hsecond : Everywhere (fun ahead text => rule ahead (text ++ rest) = none)
      (lastOr none front) second)
    (hrest : rule (lastOr (lastOr none front) first) rest =
      rule (lastOr (lastOr none front) second) rest) :
    (overhang (rule.ahead (first ++ rest)) 0 none front ≠ 0 ∧
        substitute rule (front ++ (first ++ rest)) = substitute rule (front ++ (second ++ rest))) ∨
      overhang (rule.ahead (first ++ rest)) 0 none front = 0 ∧
        ∀ hidden ∈ [first, second], substitute rule (front ++ (hidden ++ rest)) =
          substituteFrom (rule.ahead (first ++ rest)) 0 none front ++
            (hidden ++ substituteFrom rule 0 (lastOr (lastOr none front) first) rest) := by
  obtain ⟨hsame, hover⟩ := substituteFrom_congr 0 hagree
  have hbehind := substituteFrom_congr_before hrest
  simp only [substitute, substituteFrom_append rule 0 none front]
  have hcases := overhang_cases (rule.ahead (first ++ rest)) 0 none front
  by_cases hzero : overhang (rule.ahead (first ++ rest)) 0 none front = 0
  · refine Or.inr ⟨hzero, ?_⟩
    rw [List.forall_mem_cons, List.forall_mem_singleton]
    constructor
    · rw [hzero, substituteFrom_append_of_none hfirst]
    · rw [hover.symm.trans hzero, hsame, substituteFrom_append_of_none hsecond, hbehind]
  · refine Or.inl ⟨hzero, ?_⟩
    -- a claim that hangs over takes all that differs
    obtain ⟨more, hmore⟩ : ∃ more, overhang (rule.ahead (first ++ rest)) 0 none front =
        first.length + more := by
      rcases hcases with hnone | ⟨ahead, point, behind, claim, htext, hclaim, hwidth⟩
      · rw [Nat.zero_sub] at hnone
        exact absurd hnone hzero
      · apply Nat.exists_eq_add_of_le
        rcases hreach ahead point behind htext claim hclaim with hle | hle <;> omega
    rw [hover.symm.trans hmore, hmore, hsame, substituteFrom_skip, hlength, substituteFrom_skip]
    cases more with
    | zero => rw [hbehind]
    | succ more => cases rest <;> rfl

/-- What stands behind a tail is hidden from a rule if some claim goes across it. Otherwise the
tail and all behind it stay in their places. -/
theorem substitute_hidden {closes : CodePoint → Prop} {front tail first second rest : Text}
    (hlength : first.length = second.length) (hne : first ≠ [])
    (hfront : ∀ point ∈ front.getLast?, closes point)
    (hagree : Everywhere (fun ahead text => rule.ahead (first ++ rest) ahead text =
      rule.ahead (second ++ rest) ahead text) none (front ++ tail))
    (hclaims : Everywhere (fun ahead text => ∀ claim, rule.ahead (first ++ rest) ahead text =
      some claim → (0 < claim.width ∧ claim.width + tail.length ≤ text.length ∧
          ∃ point ∈ claim.replacement.getLast?, closes point) ∨
        text.length + first.length ≤ claim.width) none (front ++ tail))
    (hfirst : Everywhere (fun ahead text => rule ahead (text ++ rest) = none)
      (lastOr none (front ++ tail)) first)
    (hsecond : Everywhere (fun ahead text => rule ahead (text ++ rest) = none)
      (lastOr none (front ++ tail)) second)
    (hrest : rule (lastOr (lastOr none (front ++ tail)) first) rest =
      rule (lastOr (lastOr none (front ++ tail)) second) rest) :
    substitute rule (front ++ (tail ++ (first ++ rest))) =
        substitute rule (front ++ (tail ++ (second ++ rest))) ∨
      Everywhere (fun ahead text => rule.ahead (first ++ rest) ahead text = none)
          (lastOr none front) tail ∧
        ∃ kept, (∀ point ∈ kept.getLast?, closes point) ∧ ∀ hidden ∈ [first, second],
          substitute rule (front ++ (tail ++ (hidden ++ rest))) = kept ++ (tail ++
            (hidden ++
              substituteFrom rule 0 (lastOr (lastOr none (front ++ tail)) first) rest)) := by
  have hreach : Everywhere (fun ahead text => ∀ claim, rule.ahead (first ++ rest) ahead text =
      some claim → claim.width ≤ text.length ∨ text.length + first.length ≤ claim.width) none
      (front ++ tail) := by
    refine hclaims.imp fun ahead text _ hclaim claim hsome => ?_
    rcases hclaim claim hsome with ⟨-, hwidth, -⟩ | hwidth
    · exact Or.inl (Nat.le_of_add_right_le hwidth)
    · exact Or.inr hwidth
  rcases substitute_agree hlength hagree hreach hfirst hsecond hrest with
    ⟨-, hsame⟩ | ⟨hover, hform⟩
  · left
    rwa [List.append_assoc, List.append_assoc] at hsame
  · right
    have htail : Everywhere (fun ahead text => ∀ claim, rule.ahead (first ++ rest) ahead text =
        some claim → (0 < claim.width ∧ claim.width + tail.length ≤ text.length ∧
            ∃ point ∈ claim.replacement.getLast?, closes point) ∨
          text.length < claim.width) none (front ++ tail) := by
      refine hclaims.imp fun ahead text _ hclaim claim hsome => ?_
      refine (hclaim claim hsome).imp_right fun hwidth => ?_
      have := List.length_pos_iff.mpr hne
      omega
    obtain ⟨kept, hkept, hcloses, -, hnone⟩ :=
      exists_kept_tail htail (Nat.zero_le _) hover hfront
    refine ⟨hnone, kept, hcloses, fun hidden hmem => ?_⟩
    have h := hform hidden hmem
    rwa [hkept, List.append_assoc, List.append_assoc] at h

end HostLifecycle.Text
