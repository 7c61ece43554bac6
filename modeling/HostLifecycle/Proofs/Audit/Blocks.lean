import HostLifecycle.Proofs.Audit.Markers
import Mathlib.Data.List.Infix

/-!
Blocks of private keys as pieces of texts. The hyphens that a marker starts with may be the last
ones of a marker ahead of it, but no marker goes on behind them. So wherever a block stands, it is
taken as a whole, by itself or with what stands ahead of it, unless a closing marker ahead of it
takes its first hyphens.
-/

namespace HostLifecycle.Audit

open Text

/-- No end of the start of a marker is read as hyphens. -/
theorem hyphens_tails : ∀ start ∈ [opening, closing], ∀ ending ∈ start.tails, ending ≠ [] →
    ending ≠ start → ¬ ending <+: hyphens ∧ ¬ hyphens <+: ending := by decide

/-- No end of the start of an opening marker is read as that of a closing one. -/
theorem tails_opening : ∀ extra ∈ opening.tails, extra ≠ [] →
    ¬ extra <+: closing ∧ ¬ closing <+: extra := by decide

/-- What is left of the start of a closing marker behind a hyphen is not read as one. It holds the
space at its end, and it starts with a hyphen if it holds one. -/
theorem tails_closing : ∀ extra ∈ closing.tails, extra ≠ [] → extra ≠ closing →
    ¬ extra <+: closing ∧ ¬ closing <+: extra ∧ .char ' ' ∈ extra ∧
      (extra.head? = some (.char '-') ∨ .char '-' ∉ extra) := by decide

/-- Hyphens are the same from either end. -/
theorem inits_hyphens : ∀ short ∈ hyphens.inits, short ≠ hyphens →
    ∃ left ∈ hyphens.inits, short ++ hyphens = hyphens ++ left ∧ left ≠ hyphens := by decide

theorem tails_hyphens : ∀ extra ∈ hyphens.tails, extra <+: closing ∧ extra ≠ closing := by decide

section

variable {start front label ending body behind rest left : Text}

theorem not_mem_of_isLabel (hlabel : IsLabel label) : CodePoint.char '-' ∉ label ++ keyLabel := by
  intro hmem
  rcases List.mem_append.mp hmem with hmem | hmem
  · cases hlabel _ hmem
  · cases isLabel_keyLabel _ hmem

/-- Behind hyphens that it does not start with a marker does not go on. -/
theorem marker_ne_append (hstart : start = opening ∨ start = closing) (hlabel : IsLabel label)
    (hfront : front ≠ []) (hbehind : behind ≠ []) :
    marker start label ≠ front ++ (hyphens ++ behind) := by
  intro h
  have hlabels : ∀ extra, (label ++ keyLabel) ++ hyphens ≠ extra ++ (hyphens ++ behind) := by
    intro extra hsplit
    obtain ⟨more, rfl⟩ := exists_append_of_not_mem hsplit (not_mem_of_isLabel hlabel)
    have hlength := congrArg List.length hsplit
    simp only [List.length_append] at hlength
    exact hbehind (List.eq_nil_of_length_eq_zero (by omega))
  rcases List.append_eq_append_iff.mp h with ⟨extra, -, hextra⟩ | ⟨extra, hstartSplit, hextra⟩
  · exact hlabels extra (by rw [List.append_assoc]; exact hextra)
  · by_cases hnil : extra = []
    · subst hnil
      exact hlabels [] (by rw [List.append_assoc]; exact hextra.symm)
    · have hproper : extra ≠ start := by
        rintro rfl
        exact hfront (List.append_left_eq_self.mp hstartSplit.symm)
      have hmem : start ∈ [opening, closing] := by
        rcases hstart with rfl | rfl <;> simp
      obtain ⟨hshort, hlong⟩ := hyphens_tails start hmem extra
        ((List.mem_tails _ _).mpr ⟨front, hstartSplit.symm⟩) hnil hproper
      rcases List.prefix_or_prefix_of_prefix ⟨_, hextra.symm⟩
        (List.prefix_append hyphens behind) with hpre | hpre
      · exact hshort hpre
      · exact hlong hpre

/-- Of hyphens and what stands behind them a marker ahead of them sees the hyphens only. -/
theorem behindMarker?_hyphens (hstart : start = opening ∨ start = closing) (hfront : front ≠ []) :
    behindMarker? start (front ++ (hyphens ++ rest)) =
      (behindMarker? start (front ++ hyphens)).map (· ++ rest) := by
  rw [← List.append_assoc]
  cases hmarker : behindMarker? start ((front ++ hyphens) ++ rest) with
  | none =>
    cases hread : behindMarker? start (front ++ hyphens) with
    | none => rfl
    | some left =>
      rw [behindMarker?_append hread] at hmarker
      cases hmarker
  | some left =>
    obtain ⟨label, hlabel, hsplit⟩ := behindMarker?_eq_some_iff.mp hmarker
    obtain ⟨more, hmore, hleft⟩ : ∃ more, front ++ hyphens = marker start label ++ more ∧
        left = more ++ rest := by
      rcases List.append_eq_append_iff.mp hsplit with ⟨extra, hextra, hrest⟩ | ⟨more, hmore, hleft⟩
      · by_cases hnil : extra = []
        · subst hnil
          exact ⟨[], by rw [hextra, List.append_nil, List.append_nil], hrest.symm⟩
        · rw [List.append_assoc] at hextra
          exact absurd hextra (marker_ne_append hstart hlabel hfront hnil)
      · exact ⟨more, hmore, hleft⟩
    rw [behindMarker?_eq_some_iff.mpr ⟨label, hlabel, hmore⟩, hleft]
    rfl

/-- Whether a closing marker that a text starts with takes none of the hyphens behind the text. -/
def SparesHyphens (text : Text) : Prop :=
  ∀ left, behindMarker? closing (text ++ hyphens) = some left → hyphens.length ≤ left.length

/-- Whether a text is a closing marker that lacks hyphens at its end. -/
def IsUnclosed (text : Text) : Prop :=
  ∃ label short, IsLabel label ∧ short <+: hyphens ∧ short ≠ hyphens ∧
    text = closing ++ (label ++ (keyLabel ++ short))

/-- Only a closing marker that lacks hyphens takes some of those behind it. -/
theorem sparesHyphens_iff : SparesHyphens front ↔ ¬ IsUnclosed front := by
  have hlabels : ∀ {label more}, closing ++ (label ++ (keyLabel ++ more)) =
      (closing ++ (label ++ keyLabel)) ++ more := by
    intro label more
    simp only [List.append_assoc]
  constructor
  · rintro hspares ⟨label, short, hlabel, hshort, hne, rfl⟩
    obtain ⟨left, hleft, hends, hproper⟩ :=
      inits_hyphens short ((List.mem_inits _ _).mpr hshort) hne
    have hleft := (List.mem_inits _ _).mp hleft
    have hmarker := hspares left (behindMarker?_eq_some_iff.mpr ⟨label, hlabel, by
      rw [marker, hlabels, hlabels, List.append_assoc _ short, hends, List.append_assoc _ hyphens]⟩)
    exact hproper (hleft.eq_of_length_le hmarker)
  · intro h left hmarker
    apply Nat.le_of_not_lt
    intro hshort
    apply h
    obtain ⟨label, hlabel, hsplit⟩ := behindMarker?_eq_some_iff.mp hmarker
    rw [marker, hlabels, List.append_assoc] at hsplit
    have hlengths := congrArg List.length hsplit
    simp only [List.length_append] at hlengths
    obtain ⟨short, rfl, hends⟩ : ∃ short, front = (closing ++ (label ++ keyLabel)) ++ short ∧
        hyphens ++ left = short ++ hyphens := by
      rcases List.append_eq_append_iff.mp hsplit with ⟨extra, hextra, hends⟩ | hfront
      · have hlength := congrArg List.length hextra
        simp only [List.length_append] at hlength
        obtain rfl := List.eq_nil_of_length_eq_zero (by omega : extra.length = 0)
        rw [List.append_nil] at hextra
        exact ⟨[], by rw [List.append_nil, hextra], hends.symm⟩
      · exact hfront
    have hlength := congrArg List.length hends
    simp only [List.length_append] at hlength
    refine ⟨label, short, hlabel, ?_, ?_, hlabels.symm⟩
    · exact List.prefix_of_prefix_length_le ⟨hyphens, rfl⟩ ⟨left, hends⟩ (by omega)
    · rintro rfl
      omega

instance (text : Text) : Decidable (SparesHyphens text) :=
  inferInstanceAs (Decidable (∀ left ∈ behindMarker? closing (text ++ hyphens),
    hyphens.length ≤ left.length))

instance (text : Text) : Decidable (¬ IsUnclosed text) :=
  decidable_of_iff _ sparesHyphens_iff

theorem behindMarker?_of_sparesHyphens (hfront : front ≠ []) (h : SparesHyphens front)
    (rest : Text) : behindMarker? closing (front ++ (hyphens ++ rest)) =
      (behindMarker? closing front).map (· ++ (hyphens ++ rest)) := by
  rw [behindMarker?_hyphens (Or.inr rfl) hfront]
  cases hmarker : behindMarker? closing (front ++ hyphens) with
  | none =>
    cases hread : behindMarker? closing front with
    | none => rfl
    | some left =>
      rw [behindMarker?_append hread] at hmarker
      cases hmarker
  | some left =>
    obtain ⟨label, hlabel, hsplit⟩ := behindMarker?_eq_some_iff.mp hmarker
    obtain ⟨more, rfl⟩ : ∃ more, left = more ++ hyphens := by
      have hlong := h left hmarker
      rcases List.append_eq_append_iff.mp hsplit with ⟨extra, -, hextra⟩ | ⟨more, -, hleft⟩
      · have hlength := congrArg List.length hextra
        rw [List.length_append] at hlength
        rw [List.eq_nil_of_length_eq_zero (by omega : extra.length = 0), List.nil_append] at hextra
        exact ⟨[], hextra.symm⟩
      · exact ⟨more, hleft⟩
    rw [← List.append_assoc, List.append_left_inj] at hsplit
    rw [behindMarker?_eq_some_iff.mpr ⟨label, hlabel, hsplit⟩]
    simp only [Option.map_some, List.append_assoc]

/-- The first closing marker ahead of hyphens, if it spares them, or else the one behind. -/
theorem behindClosing?_hyphens (rest : Text)
    (h : Everywhere (fun _ text => SparesHyphens text) none front) :
    behindClosing? (front ++ (hyphens ++ rest)) =
      ((behindClosing? front).map (· ++ (hyphens ++ rest))).or
        (behindClosing? (hyphens ++ rest)) := by
  induction front with
  | nil => rfl
  | cons first front ih =>
    rw [everywhere_cons] at h
    have hmarker : behindMarker? "-----END " (first :: front ++ (hyphens ++ rest)) =
        (behindMarker? "-----END " (first :: front)).map (· ++ (hyphens ++ rest)) :=
      behindMarker?_of_sparesHyphens (List.cons_ne_nil _ _) h.1 rest
    rw [List.cons_append, behindClosing?, ← List.cons_append, hmarker, behindClosing?]
    cases behindMarker? "-----END " (first :: front) with
    | some left => rfl
    | none => exact ih fun ahead point behind hsplit => h.2 ahead point behind hsplit

/-- Whether a text may be the body of a block: it holds no hyphens and no spaces. -/
def IsBody (body : Text) : Prop := .char '-' ∉ body ∧ .char ' ' ∉ body

/-- No closing marker starts with the last hyphens of a marker ahead of a body. -/
theorem closing_ne_of_hyphens (hbody : IsBody body) (hfront : front ≠ [])
    (hsuffix : front <:+ hyphens) (rest left : Text) :
    front ++ (body ++ (closing ++ rest)) ≠ closing ++ left := by
  intro h
  obtain ⟨⟨extra, hextra⟩, hproper⟩ := tails_hyphens front ((List.mem_tails _ _).mpr hsuffix)
  have hne : extra ≠ [] := by
    rintro rfl
    rw [List.append_nil] at hextra
    exact hproper hextra
  have hshort : extra ≠ closing := by
    intro hsame
    rw [hsame] at hextra
    exact hfront (List.append_left_eq_self.mp hextra)
  obtain ⟨hnot, hnot', hspace, hhead⟩ :=
    tails_closing extra ((List.mem_tails _ _).mpr ⟨front, hextra⟩) hne hshort
  have hbehind : body ++ (closing ++ rest) = extra ++ left := by
    rw [← hextra, List.append_assoc, List.append_assoc, List.append_cancel_left_eq] at h
    rwa [← hextra, List.append_assoc]
  cases body with
  | nil =>
    rw [List.nil_append] at hbehind
    rcases List.prefix_or_prefix_of_prefix ⟨_, hbehind.symm⟩ (List.prefix_append closing rest) with
      hpre | hpre
    · exact hnot hpre
    · exact hnot' hpre
  | cons first body =>
    have hfirst : extra.head? = some first := by
      obtain ⟨point, tail, rfl⟩ := List.exists_cons_of_ne_nil hne
      rw [List.cons_append, List.cons_append, List.cons.injEq] at hbehind
      rw [hbehind.1, List.head?_cons]
    have hhyphen : CodePoint.char '-' ∉ extra := by
      rcases hhead with hhead | hnone
      · rw [hfirst, Option.some_inj] at hhead
        exact absurd (hhead ▸ List.mem_cons_self) hbody.1
      · exact hnone
    have hclosing : closing ++ rest = .char '-' :: (closing.tail ++ rest) := rfl
    rw [hclosing] at hbehind
    obtain ⟨more, hmore⟩ := exists_append_of_not_mem hbehind.symm hhyphen
    exact hbody.2 (hmore ▸ List.mem_append_left _ hspace)

/-- What a text that ends an opening marker is: it starts within the first words of the marker, or
with a character of the label, or it ends the last hyphens. -/
theorem suffix_opening_cases (hsuffix : front <:+ marker opening label) :
    (∃ extra more, extra <:+ opening ∧ extra ≠ [] ∧ front = extra ++ more) ∨
      (∃ point more, point ∈ label ++ keyLabel ∧ front = point :: more) ∨ front <:+ hyphens := by
  obtain ⟨ahead, hahead⟩ := hsuffix
  rw [marker, ← List.append_assoc label] at hahead
  rcases List.append_eq_append_iff.mp hahead with ⟨extra, hopening, hextra⟩ | ⟨extra, -, hextra⟩
  · by_cases hnil : extra = []
    · subst hnil
      rw [List.nil_append] at hextra
      obtain ⟨point, more, hwords⟩ : ∃ point more, label ++ keyLabel = point :: more :=
        List.exists_cons_of_ne_nil (by simp [keyLabel, Text.ofString, Text.ofChars])
      refine Or.inr (Or.inl ⟨point, more ++ hyphens, hwords ▸ List.mem_cons_self, ?_⟩)
      rw [hextra, hwords, List.cons_append]
    · exact Or.inl ⟨extra, _, ⟨ahead, hopening.symm⟩, hnil, hextra⟩
  · rcases List.append_eq_append_iff.mp hextra with ⟨words, -, hhyphens⟩ | ⟨words, hwords, hmore⟩
    · exact Or.inr (Or.inr ⟨words, hhyphens.symm⟩)
    · cases words with
      | nil => exact Or.inr (Or.inr ⟨[], by rw [hmore]; rfl⟩)
      | cons point words =>
        exact Or.inr (Or.inl ⟨point, words ++ hyphens,
          hwords ▸ List.mem_append_right _ List.mem_cons_self, hmore⟩)

/-- No closing marker starts within an opening one, in front of a body and the closing marker of
the block. -/
theorem not_closing_within_opening (hlabel : IsLabel label) (hbody : IsBody body)
    (hfront : front ≠ []) (hsuffix : front <:+ marker opening label) :
    behindMarker? closing (front ++ (body ++ (marker closing ending ++ rest))) = none := by
  rcases suffix_opening_cases hsuffix with ⟨extra, more, hextra, hne, rfl⟩ |
    ⟨point, more, hpoint, rfl⟩ | hhyphens
  · apply Option.eq_none_iff_forall_ne_some.mpr
    intro left hmarker
    obtain ⟨other, -, hsplit⟩ := behindMarker?_eq_some_iff.mp hmarker
    rw [marker, List.append_assoc, List.append_assoc] at hsplit
    obtain ⟨hnot, hnot'⟩ := tails_opening extra ((List.mem_tails _ _).mpr hextra) hne
    rcases List.prefix_or_prefix_of_prefix ⟨_, hsplit⟩ (List.prefix_append closing _) with
      hpre | hpre
    · exact hnot hpre
    · exact hnot' hpre
  · apply behindMarker?_of_ne (Or.inr rfl)
    rintro rfl
    exact not_mem_of_isLabel hlabel hpoint
  · apply Option.eq_none_iff_forall_ne_some.mpr
    intro left hmarker
    obtain ⟨other, -, hsplit⟩ := behindMarker?_eq_some_iff.mp hmarker
    rw [marker, marker, List.append_assoc, List.append_assoc] at hsplit
    exact closing_ne_of_hyphens hbody hfront hhyphens _ _ hsplit

/-- A private key between its markers. -/
def block (label body ending : Text) : Text :=
  marker opening label ++ (body ++ marker closing ending)

/-- From anywhere within the opening marker of a block on, its closing marker is the first one. -/
theorem behindClosing?_block (hlabel : IsLabel label) (hending : IsLabel ending)
    (hbody : IsBody body) (hsuffix : front <:+ marker opening label) :
    behindClosing? (front ++ (body ++ (marker closing ending ++ rest))) = some rest := by
  rw [behindClosing?_append_of_none, behindClosing?_of_no_hyphen hbody.1,
    behindClosing?_marker hending]
  intro ahead point behind hsplit
  have hplace : point :: behind <:+ marker opening label :=
    (List.IsSuffix.trans ⟨ahead, hsplit.symm⟩ hsuffix)
  exact not_closing_within_opening hlabel hbody (List.cons_ne_nil _ _) hplace

theorem keyBlockRule_block {before : Option CodePoint} (hlabel : IsLabel label)
    (hending : IsLabel ending) (hbody : IsBody body) (rest : Text) :
    keyBlockRule before (block label body ending ++ rest) =
      some ⟨(block label body ending).length, keyMask⟩ := by
  refine keyBlockRule_eq_some_iff.mpr ⟨label, body ++ (marker closing ending ++ rest), rest, hlabel,
    ?_, ?_, ?_⟩
  · simp only [block, List.append_assoc]
  · exact behindClosing?_block hlabel hending hbody (List.nil_suffix)
  · rw [List.length_append, Nat.add_sub_cancel]

/-- A marker starts with hyphens. -/
theorem exists_marker_hyphens {start : Text} (hstart : start = opening ∨ start = closing)
    (label : Text) : ∃ inner : Text, ∀ behind : Text,
      marker start label ++ behind = hyphens ++ (inner ++ behind) := by
  obtain ⟨word, rfl⟩ : ∃ word, start = hyphens ++ word := by
    rcases hstart with rfl | rfl
    · exact ⟨"BEGIN ", rfl⟩
    · exact ⟨"END ", rfl⟩
  exact ⟨word ++ (label ++ (keyLabel ++ hyphens)), fun behind => by
    simp only [marker, List.append_assoc]⟩

/-- What is read behind the first hyphens of a block. -/
def blockInner (label body ending rest : Text) : Text :=
  "BEGIN " ++ (label ++ (keyLabel ++ (hyphens ++ (body ++ (marker closing ending ++ rest)))))

theorem block_eq (label body ending rest : Text) :
    block label body ending ++ rest = hyphens ++ blockInner label body ending rest := by
  simp only [block, marker, blockInner, List.append_assoc]
  rfl

/-- A block that starts ahead of another one may start with hyphens of it. -/
theorem keyBlockRule_ahead_eq (before : Option CodePoint) (hfront : front ≠ [])
    (label body ending rest : Text) :
    keyBlockRule before (front ++ (block label body ending ++ rest)) =
      (behindMarker? opening (front ++ hyphens)).bind fun inner =>
        (behindClosing? (inner ++ blockInner label body ending rest)).map fun left =>
          ⟨(front ++ (block label body ending ++ rest)).length - left.length, keyMask⟩ := by
  have hread : behindMarker? "-----BEGIN " (front ++ (block label body ending ++ rest)) =
      (behindMarker? opening (front ++ hyphens)).map (· ++ blockInner label body ending rest) := by
    rw [block_eq]
    exact behindMarker?_hyphens (Or.inl rfl) hfront
  rw [keyBlockRule, hread]
  cases behindMarker? opening (front ++ hyphens) with
  | none => rfl
  | some inner =>
    simp only [Option.bind_eq_bind, Option.bind_some, Option.pure_def, Option.map_eq_bind]
    rfl

/-- Ahead of a block, the first closing marker stands ahead of it too, or it is that of the
block. -/
theorem behindClosing?_ahead (hlabel : IsLabel label) (hending : IsLabel ending)
    (hbody : IsBody body) (hspares : Everywhere (fun _ text => SparesHyphens text) none front)
    (rest : Text) :
    behindClosing? (front ++ (block label body ending ++ rest)) =
      ((behindClosing? front).map (· ++ (block label body ending ++ rest))).or (some rest) := by
  have hself : behindClosing? (block label body ending ++ rest) = some rest := by
    simp only [block, List.append_assoc]
    exact behindClosing?_block hlabel hending hbody List.suffix_rfl
  rw [block_eq] at hself ⊢
  rw [behindClosing?_hyphens _ hspares, hself]

/-- A block that is looked at from ahead: no block starts there, or one that ends ahead of it, or
one that takes it along. Which it is does not depend on the body. -/
theorem keyBlockRule_ahead (before : Option CodePoint) (hlabel : IsLabel label)
    (hending : IsLabel ending) (hfront : front ≠ [])
    (hspares : Everywhere (fun _ text => SparesHyphens text) none front) (rest : Text) :
    (∀ body, IsBody body →
      keyBlockRule before (front ++ (block label body ending ++ rest)) = none) ∨
    (∃ width, width < front.length ∧ ∀ body, IsBody body →
      keyBlockRule before (front ++ (block label body ending ++ rest)) =
        some ⟨width + 1, keyMask⟩) ∨
    ∀ body, IsBody body → keyBlockRule before (front ++ (block label body ending ++ rest)) =
      some ⟨(front ++ block label body ending).length, keyMask⟩ := by
  simp only [keyBlockRule_ahead_eq before hfront]
  cases hopening : behindMarker? opening (front ++ hyphens) with
  | none => exact Or.inl fun body _ => rfl
  | some inner =>
    right
    have hwhole : ∀ body, (front ++ (block label body ending ++ rest)).length - rest.length =
        (front ++ block label body ending).length := by
      intro body
      rw [← List.append_assoc, List.length_append, Nat.add_sub_cancel]
    obtain ⟨first, hfirst, hsplit⟩ := behindMarker?_eq_some_iff.mp hopening
    rcases List.append_eq_append_iff.mp hsplit with ⟨extra, -, hextra⟩ | ⟨more, hmore, hinner⟩
    · -- the opening marker ends in hyphens of the block, and takes it along
      right
      intro body hbody
      have hopened : inner ++ blockInner label body ending rest = (inner ++ (("BEGIN " : Text) ++
          (label ++ (keyLabel ++ hyphens)))) ++ (body ++ (marker closing ending ++ rest)) := by
        simp only [blockInner, List.append_assoc]
      have hsuffix : inner ++ (("BEGIN " : Text) ++ (label ++ (keyLabel ++ hyphens))) <:+
          marker opening label := by
        refine ⟨extra, ?_⟩
        rw [← List.append_assoc, ← hextra]
        rfl
      rw [Option.bind_some, hopened, behindClosing?_block hlabel hending hbody hsuffix,
        Option.map_some, hwhole]
    · have hclosing : ∀ body, IsBody body → behindClosing? (inner ++
          blockInner label body ending rest) =
            ((behindClosing? more).map (· ++ (block label body ending ++ rest))).or
              (some rest) := by
        intro body hbody
        rw [hmore, everywhere_append] at hspares
        rw [hinner, List.append_assoc, ← block_eq]
        exact behindClosing?_ahead hlabel hending hbody
          (fun ahead point behind h => hspares.2 ahead point behind h) rest
      cases hleft : behindClosing? more with
      | none =>
        right
        intro body hbody
        rw [Option.bind_some, hclosing body hbody, hleft, Option.map_none, Option.none_or,
          Option.map_some, hwhole]
      | some left =>
        left
        obtain ⟨between, closed, -, hbetween⟩ := exists_of_behindClosing? hleft
        obtain ⟨ahead, hahead⟩ := exists_marker_concat opening first
        have hlength := congrArg List.length hmore
        rw [hbetween, hahead] at hlength
        simp only [List.length_append, List.length_singleton] at hlength
        refine ⟨front.length - left.length - 1, by omega, fun body hbody => ?_⟩
        rw [Option.bind_some, hclosing body hbody, hleft]
        simp only [Option.map_some, Option.some_or, List.length_append, Option.some_inj,
          Claim.mk.injEq, and_true]
        omega

/-- Where a block is taken along, what follows it is told apart from it by a hyphen. -/
theorem substituteFrom_block {before : Option CodePoint}
    (hclaim : keyBlockRule before (front ++ (block label body ending ++ rest)) =
      some ⟨(front ++ block label body ending).length, keyMask⟩) :
    substituteFrom keyBlockRule 0 before (front ++ (block label body ending ++ rest)) =
      keyMask ++ substituteFrom keyBlockRule 0 (some (.char '-')) rest := by
  have hne : front ++ block label body ending ≠ [] := by
    obtain ⟨ahead, hahead⟩ := exists_marker_concat opening label
    simp [block, hahead]
  have hlast : lastOr before (front ++ block label body ending) = some (.char '-') := by
    simp only [block, lastOr_append, lastOr_marker]
  rw [← List.append_assoc] at hclaim ⊢
  rw [substituteFrom_claimed hne hclaim, hlast]

/-- Behind a text whose closing markers spare the hyphens behind it, a block is replaced with what
does not depend on its body. -/
theorem exists_kept_block {skip : Nat} {before : Option CodePoint} (hlabel : IsLabel label)
    (hending : IsLabel ending) (rest : Text)
    (hspares : Everywhere (fun _ text => SparesHyphens text) before front)
    (hskip : skip ≤ front.length) : ∃ kept, ∀ body, IsBody body →
      substituteFrom keyBlockRule skip before (front ++ (block label body ending ++ rest)) =
        kept ++ (keyMask ++ substituteFrom keyBlockRule 0 (some (.char '-')) rest) := by
  induction front generalizing skip before with
  | nil =>
    obtain rfl : skip = 0 := Nat.le_zero.mp hskip
    exact ⟨[], fun body hbody =>
      substituteFrom_block (keyBlockRule_block hlabel hending hbody rest)⟩
  | cons first front ih =>
    have hbehind := (everywhere_cons.mp hspares).2
    cases skip with
    | succ skip =>
      obtain ⟨kept, hkept⟩ := ih hbehind (Nat.le_of_succ_le_succ hskip)
      exact ⟨kept, hkept⟩
    | zero =>
      have hplaces : Everywhere (fun _ text => SparesHyphens text) none (first :: front) :=
        fun ahead point behind h => hspares ahead point behind h
      rcases keyBlockRule_ahead before hlabel hending (List.cons_ne_nil first front) hplaces
        rest with hnone | ⟨width, hwidth, hsome⟩ | hwhole
      · obtain ⟨kept, hkept⟩ := ih hbehind (Nat.zero_le _)
        refine ⟨first :: kept, fun body hbody => ?_⟩
        have hclaim := hnone body hbody
        rw [List.cons_append] at hclaim ⊢
        rw [substituteFrom, hclaim, List.cons_append]
        exact congrArg _ (hkept body hbody)
      · obtain ⟨kept, hkept⟩ := ih hbehind (Nat.le_of_lt_succ hwidth)
        refine ⟨keyMask ++ kept, fun body hbody => ?_⟩
        have hclaim := hsome body hbody
        rw [List.cons_append] at hclaim ⊢
        rw [substituteFrom, hclaim]
        simp only [hkept body hbody, List.append_assoc]
      · exact ⟨[], fun body hbody => substituteFrom_block (hwhole body hbody)⟩

end

end HostLifecycle.Audit
