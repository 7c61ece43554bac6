import HostLifecycle.Audit.Redaction
import HostLifecycle.Proofs.Audit.Assignments
import HostLifecycle.Proofs.Text.Places

/-!
Markers of private keys. A marker is an opening or a closing, a label that ends in the words that
name a private key, and hyphens. A block goes from its opening marker to the first closing one
behind it, and what cannot stand in a marker keeps two markers apart.
-/

namespace HostLifecycle.Audit

open Text

def opening : Text := "-----BEGIN "

def closing : Text := "-----END "

def hyphens : Text := "-----"

/-- A marker with a label of its own in front of the words that name a private key. -/
def marker (start label : Text) : Text := start ++ (label ++ (keyLabel ++ hyphens))

def IsLabel (label : Text) : Prop := ∀ point ∈ label, isLabel point = true

theorem isLabel_keyLabel : IsLabel keyLabel := by
  unfold IsLabel
  decide

theorem behindMarker?_eq_some_iff {start text left : Text} :
    behindMarker? start text = some left ↔
      ∃ label, IsLabel label ∧ text = marker start label ++ left := by
  constructor
  · intro h
    obtain ⟨behind, hstart, h⟩ := Option.bind_eq_some_iff.mp h
    simp only at h
    split at h
    next hsuffix =>
      obtain ⟨label, hlabel⟩ := List.isSuffixOf_iff_suffix.mp hsuffix
      refine ⟨label, ?_, ?_⟩
      · intro point hpoint
        apply forall_mem_takeWhile isLabel behind
        rw [← hlabel]
        exact List.mem_append_left _ hpoint
      · have hbehind := List.takeWhile_append_dropWhile (p := isLabel) (l := behind)
        rw [eq_append_of_behind? h, ← hlabel] at hbehind
        rw [eq_append_of_behind? hstart, ← hbehind]
        simp only [marker, hyphens, List.append_assoc]
    next => cases h
  · rintro ⟨label, hlabel, rfl⟩
    have hrun : ∀ point ∈ label ++ keyLabel, isLabel point = true := by
      intro point hpoint
      rcases List.mem_append.mp hpoint with hown | hwords
      · exact hlabel point hown
      · exact isLabel_keyLabel point hwords
    have hend : ∀ point ∈ (hyphens ++ left).head?, isLabel point = false := by
      rintro point ⟨⟩
      rfl
    have hsplit :
        marker start label ++ left = start ++ ((label ++ keyLabel) ++ (hyphens ++ left)) := by
      simp only [marker, List.append_assoc]
    have hsuffix : keyLabel.isSuffixOf (label ++ keyLabel) = true :=
      List.isSuffixOf_iff_suffix.mpr (List.suffix_append _ _)
    rw [hsplit, behindMarker?, behind?_append]
    simp only [Option.bind_eq_bind, Option.bind_some, takeWhile_run hrun hend,
      dropWhile_run hrun hend, hsuffix, if_true]
    exact behind?_append hyphens left

/-- What is not read as a marker does not become one when more is left behind it. -/
theorem behindMarker?_append {start text left : Text} (h : behindMarker? start text = some left)
    (rest : Text) : behindMarker? start (text ++ rest) = some (left ++ rest) := by
  obtain ⟨label, hlabel, rfl⟩ := behindMarker?_eq_some_iff.mp h
  exact behindMarker?_eq_some_iff.mpr ⟨label, hlabel, by rw [List.append_assoc]⟩

/-- A marker is made of capital letters, spaces and hyphens. -/
theorem mem_marker {start label : Text} (hstart : start = opening ∨ start = closing)
    (hlabel : IsLabel label) :
    ∀ point ∈ marker start label, isLabel point = true ∨ point = .char '-' := by
  have hfixed : ∀ point ∈ opening ++ closing ++ keyLabel ++ hyphens,
      isLabel point = true ∨ point = .char '-' := by decide
  intro point hpoint
  simp only [marker, List.mem_append] at hpoint
  rcases hpoint with hmem | hmem | hmem | hmem
  · apply hfixed
    rcases hstart with rfl | rfl <;> simp [hmem]
  · exact Or.inl (hlabel point hmem)
  · exact hfixed point (by simp [hmem])
  · exact hfixed point (by simp [hmem])

/-- Every marker ends in a hyphen. -/
theorem exists_marker_concat (start label : Text) :
    ∃ ahead, marker start label = ahead ++ [.char '-'] :=
  ⟨start ++ (label ++ (keyLabel ++ "----")), by simp only [marker, List.append_assoc]; rfl⟩

theorem lastOr_marker (before : Option CodePoint) (start label : Text) :
    lastOr before (marker start label) = some (.char '-') := by
  obtain ⟨ahead, hahead⟩ := exists_marker_concat start label
  rw [hahead, lastOr_append, lastOr_cons, lastOr_nil]

/-- Whether a code point cannot stand in a marker. -/
def IsOutside (point : CodePoint) : Prop := isLabel point = false ∧ point ≠ .char '-'

variable {start front rest : Text} {point : CodePoint}

/-- A marker does not reach across a point that cannot stand in one. -/
theorem behindMarker?_across (hstart : start = opening ∨ start = closing)
    (hpoint : IsOutside point) :
    behindMarker? start (front ++ point :: rest) =
      (behindMarker? start front).map (· ++ point :: rest) := by
  cases hmarker : behindMarker? start (front ++ point :: rest) with
  | none =>
    cases hfront : behindMarker? start front with
    | none => rfl
    | some left =>
      rw [behindMarker?_append hfront] at hmarker
      cases hmarker
  | some left =>
    obtain ⟨label, hlabel, hsplit⟩ := behindMarker?_eq_some_iff.mp hmarker
    rcases List.append_eq_append_iff.mp hsplit with ⟨extra, hextra, hrest⟩ | ⟨more, hfront, hleft⟩
    · cases extra with
      | nil =>
        rw [List.append_nil] at hextra
        have hread : behindMarker? start front = some [] :=
          behindMarker?_eq_some_iff.mpr ⟨label, hlabel, by rw [← hextra, List.append_nil]⟩
        rw [hread]
        simpa using hrest.symm
      | cons first extra =>
        rw [List.cons_append, List.cons.injEq] at hrest
        have hmem : point ∈ marker start label := by
          rw [hextra, hrest.1]
          exact List.mem_append_right _ List.mem_cons_self
        rcases mem_marker hstart hlabel point hmem with hinside | hhyphen
        · rw [hpoint.1] at hinside
          cases hinside
        · exact absurd hhyphen hpoint.2
    · rw [behindMarker?_eq_some_iff.mpr ⟨label, hlabel, hfront⟩, hleft]
      rfl

/-- Every marker starts with a hyphen. -/
theorem behindMarker?_of_ne (hstart : start = opening ∨ start = closing)
    (hpoint : point ≠ .char '-') : behindMarker? start (point :: rest) = none := by
  have hne : ¬ CodePoint.char '-' = point := fun h => hpoint h.symm
  rcases hstart with rfl | rfl <;>
  · rw [behindMarker?]
    simp only [opening, closing, Text.ofString, Text.ofChars]
    simp [behind?, hne]

/-- Where no closing marker starts in a first part, the search goes on behind it. -/
theorem behindClosing?_append_of_none
    (h : Everywhere (fun _ text => behindMarker? closing (text ++ rest) = none) none front) :
    behindClosing? (front ++ rest) = behindClosing? rest := by
  induction front with
  | nil => rfl
  | cons first front ih =>
    have hrest := (everywhere_cons.mp h).2
    rw [List.cons_append, behindClosing?]
    have hnone : behindMarker? "-----END " (first :: (front ++ rest)) = none :=
      (everywhere_cons.mp h).1
    rw [hnone]
    apply ih
    intro ahead point behind hfront
    exact hrest ahead point behind hfront

theorem behindClosing?_of_no_hyphen (h : CodePoint.char '-' ∉ front) (rest : Text) :
    behindClosing? (front ++ rest) = behindClosing? rest := by
  apply behindClosing?_append_of_none
  intro ahead point behind hfront
  apply behindMarker?_of_ne (Or.inr rfl)
  rintro rfl
  exact h (hfront ▸ List.mem_append_right _ List.mem_cons_self)

theorem behindClosing?_marker {label : Text} (hlabel : IsLabel label) (rest : Text) :
    behindClosing? (marker closing label ++ rest) = some rest := by
  have hread : behindMarker? closing (marker closing label ++ rest) = some rest :=
    behindMarker?_eq_some_iff.mpr ⟨label, hlabel, rfl⟩
  cases hmarker : marker closing label ++ rest with
  | nil =>
    rw [hmarker] at hread
    cases hread
  | cons first behind =>
    rw [hmarker] at hread
    have hread : behindMarker? "-----END " (first :: behind) = some rest := hread
    rw [behindClosing?, hread]

/-- Ahead of a point that cannot stand in a marker a closing marker is found, or else the search
goes on behind it. -/
theorem behindClosing?_across (hpoint : IsOutside point) (front rest : Text) :
    behindClosing? (front ++ point :: rest) =
      ((behindClosing? front).map (· ++ point :: rest)).or (behindClosing? rest) := by
  induction front with
  | nil =>
    have hnone : behindMarker? "-----END " (point :: rest) = none :=
      behindMarker?_of_ne (Or.inr rfl) hpoint.2
    simp only [List.nil_append, behindClosing?, hnone, Option.map_none, Option.none_or]
  | cons first front ih =>
    have hacross : behindMarker? "-----END " (first :: front ++ point :: rest) =
        (behindMarker? "-----END " (first :: front)).map (· ++ point :: rest) :=
      behindMarker?_across (Or.inr rfl) hpoint
    rw [List.cons_append, behindClosing?, ← List.cons_append, hacross, behindClosing?]
    cases behindMarker? "-----END " (first :: front) with
    | some left => rfl
    | none => exact ih

/-- What is left behind a closing marker is the end of the text. -/
theorem exists_of_behindClosing? {text left : Text} (h : behindClosing? text = some left) :
    ∃ front label, IsLabel label ∧ text = front ++ (marker closing label ++ left) := by
  induction text with
  | nil => cases h
  | cons first text ih =>
    rw [behindClosing?] at h
    split at h
    next found hfound =>
      cases h
      obtain ⟨label, hlabel, htext⟩ := behindMarker?_eq_some_iff.mp hfound
      exact ⟨[], label, hlabel, htext⟩
    next =>
      obtain ⟨front, label, hlabel, rfl⟩ := ih h
      exact ⟨first :: front, label, hlabel, rfl⟩

/-- The rule for private keys claims a block that the text starts with. -/
theorem keyBlockRule_eq_some_iff {before : Option CodePoint} {text : Text} {claim : Claim} :
    keyBlockRule before text = some claim ↔ ∃ label body left, IsLabel label ∧
      text = marker opening label ++ body ∧ behindClosing? body = some left ∧
      claim = ⟨text.length - left.length, keyMask⟩ := by
  constructor
  · intro h
    obtain ⟨body, hbody, h⟩ := Option.bind_eq_some_iff.mp h
    obtain ⟨left, hleft, h⟩ := Option.bind_eq_some_iff.mp h
    obtain ⟨label, hlabel, rfl⟩ := behindMarker?_eq_some_iff.mp hbody
    cases h
    exact ⟨label, body, left, hlabel, rfl, hleft, rfl⟩
  · rintro ⟨label, body, left, hlabel, rfl, hleft, rfl⟩
    have hbody : behindMarker? "-----BEGIN " (marker opening label ++ body) = some body :=
      behindMarker?_eq_some_iff.mpr ⟨label, hlabel, rfl⟩
    rw [keyBlockRule, hbody]
    simp only [Option.bind_eq_bind, Option.bind_some, hleft]
    rfl

theorem keyBlockRule_of_ne {before : Option CodePoint} (hpoint : point ≠ .char '-') :
    keyBlockRule before (point :: rest) = none := by
  have hnone : behindMarker? "-----BEGIN " (point :: rest) = none :=
    behindMarker?_of_ne (Or.inl rfl) hpoint
  rw [keyBlockRule, hnone]
  rfl

/-- A block has its opening marker ahead of a point that cannot stand in one, and its closing
marker there too or else behind the point. -/
theorem keyBlockRule_across {before : Option CodePoint} (hpoint : IsOutside point) :
    keyBlockRule before (front ++ point :: rest) = (behindMarker? opening front).bind fun body =>
      (((behindClosing? body).map (· ++ point :: rest)).or (behindClosing? rest)).map fun left =>
        ⟨(front ++ point :: rest).length - left.length, keyMask⟩ := by
  have hacross : behindMarker? "-----BEGIN " (front ++ point :: rest) =
      (behindMarker? opening front).map (· ++ point :: rest) :=
    behindMarker?_across (Or.inl rfl) hpoint
  rw [keyBlockRule, hacross]
  cases behindMarker? opening front with
  | none => rfl
  | some body =>
    simp only [Option.map_some, Option.bind_eq_bind, Option.bind_some,
      behindClosing?_across hpoint]
    cases behindClosing? body <;> cases behindClosing? rest <;> rfl

/-- What the rule for private keys claims is a block from its opening marker to a closing one. -/
theorem keyBlockRule_piece {before : Option CodePoint} {piece replacement : Text}
    (h : keyBlockRule before (piece ++ rest) = some ⟨piece.length, replacement⟩) :
    replacement = keyMask ∧ ∃ label between ending, IsLabel label ∧ IsLabel ending ∧
      piece = marker opening label ++ (between ++ marker closing ending) := by
  obtain ⟨label, body, left, hlabel, htext, hleft, hclaim⟩ := keyBlockRule_eq_some_iff.mp h
  obtain ⟨between, ending, hending, rfl⟩ := exists_of_behindClosing? hleft
  have hlength := congrArg List.length htext
  have hwidth := congrArg Claim.width hclaim
  simp only [List.length_append] at hlength hwidth
  have hsplit : piece ++ rest =
      (marker opening label ++ (between ++ marker closing ending)) ++ left := by
    rw [htext]
    simp only [List.append_assoc]
  obtain ⟨hpiece, -⟩ := List.append_inj' hsplit (by omega)
  exact ⟨congrArg Claim.replacement hclaim, label, between, ending, hlabel, hending, hpiece⟩

end HostLifecycle.Audit
