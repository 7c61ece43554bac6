import HostLifecycle.Audit.Redaction

/-!
How keywords are spelled. Every character of a spelling is read as one small letter or is a joint,
and none of them can stand behind a spelling, where a blank or a sign has to follow. So a spelling
in front of a sign is the whole run of such characters, and since no keyword ends in the letters of
another one, a run holds one spelling at most.
-/

namespace HostLifecycle.Audit

open Text

/-- The keywords whose values are secret, rule by rule. -/
def keywordGroups : List (List (List Part)) :=
  [["password", "passwd", "pwd"].map keyword,
   ["secret-id", "token", "api-key"].map keyword,
   ["private-key"].map keyword]

theorem rules_eq : rules = keywordGroups.map assignmentRule ++ [keyBlockRule, tokenRule] := rfl

def keywords : List (List Part) := keywordGroups.flatten

theorem subset_keywords : ∀ group ∈ keywordGroups, group ⊆ keywords :=
  fun group hgroup _ hparts => List.mem_flatten.mpr ⟨group, hgroup, hparts⟩

def alphabet : List Char := "abcdefghijklmnopqrstuvwxyz".toList

def letterOf? (point : CodePoint) : Option Char := alphabet.find? (spells · point)

def isJoint (point : CodePoint) : Bool := point == '_' || point == '-'

def isNamePoint (point : CodePoint) : Bool := (letterOf? point).isSome || isJoint point

def Part.letter? : Part → Option Char
  | letter c => some c
  | joint => none

/-- Whether parts are small letters, and joints with a small letter behind each of them. -/
def isSpelling : List Part → Bool
  | [] => true
  | .letter c :: parts => alphabet.contains c && isSpelling parts
  | .joint :: parts => (parts.head?.bind Part.letter?).isSome && isSpelling parts

def Spelled (parts : List Part) (name : Text) : Prop :=
  keywordWidth? parts name = some name.length

theorem isSpelling_keywords : ∀ parts ∈ keywords, isSpelling parts = true := by decide

/-- No keyword ends in the letters of another one. -/
theorem letters_suffix_keywords : ∀ parts ∈ keywords, ∀ others ∈ keywords,
    others.filterMap Part.letter? <:+ parts.filterMap Part.letter? →
      others.filterMap Part.letter? = parts.filterMap Part.letter? := by decide

/-- The letters that keywords start with. -/
def initials : List Char := ['p', 's', 't', 'a']

/-- Keywords are short. -/
theorem length_keywords : ∀ parts ∈ keywords, parts.length < 20 := by decide

theorem head_keywords :
    ∀ parts ∈ keywords, parts.head? ∈ initials.map fun letter => some (.letter letter) := by
  decide

theorem initials_subset_alphabet : initials ⊆ alphabet := by
  have hall : initials.all alphabet.contains = true := by decide
  exact fun letter h => List.contains_iff_mem.mp (List.all_eq_true.mp hall letter h)

theorem bounds_of_mem_alphabet {letter : Char} (h : letter ∈ alphabet) :
    97 ≤ letter.toNat ∧ letter.toNat ≤ 122 := by
  have hall : alphabet.all (fun letter => 97 ≤ letter.toNat ∧ letter.toNat ≤ 122) = true := by
    decide
  exact of_decide_eq_true (List.all_eq_true.mp hall letter h)

/-- The numbers of the characters that are read as a small letter. -/
theorem toNat_of_spells {letter : Char} {point : CodePoint} (h : spells letter point = true) :
    point.toNat = letter.toNat ∨ point.toNat + 32 = letter.toNat ∨
      point.toNat = 383 ∧ letter.toNat = 115 ∨ point.toNat = 8490 ∧ letter.toNat = 107 ∨
      (point.toNat = 304 ∨ point.toNat = 305) ∧ letter.toNat = 105 := by
  simp only [spells, Bool.or_eq_true, Bool.and_eq_true, beq_iff_eq] at h
  rcases h with ((h | ⟨rfl, rfl⟩) | ⟨rfl, rfl⟩) | ⟨rfl, rfl | rfl⟩
  · cases point with
    | half n => cases h
    | char c =>
      simp only [CodePoint.isIn, beq_iff_eq] at h
      subst h
      by_cases hupper : c.val ≥ 'A'.val ∧ c.val ≤ 'Z'.val
      · right; left
        have hlower : c.toLower = ⟨c.val + ('a'.val - 'A'.val), _⟩ := dif_pos hupper
        have hle : c.val.toNat ≤ 90 := UInt32.le_iff_toNat_le.mp hupper.2
        rw [hlower]
        simp only [CodePoint.toNat, Char.toNat]
        rw [UInt32.toNat_add]
        have : ('a'.val - 'A'.val).toNat = 32 := by decide
        omega
      · left
        have hlower : c.toLower = c := dif_neg hupper
        rw [hlower]
        rfl
  · decide
  · decide
  · decide
  · decide

theorem eq_of_spells {letter other : Char} {point : CodePoint} (hletter : letter ∈ alphabet)
    (hother : other ∈ alphabet) (h : spells letter point = true)
    (h' : spells other point = true) : letter = other := by
  have hbounds := bounds_of_mem_alphabet hletter
  have hbounds' := bounds_of_mem_alphabet hother
  have hnumber := toNat_of_spells h
  have hnumber' := toNat_of_spells h'
  apply Char.toNat_inj.mp
  omega

theorem letterOf?_eq_some_iff {letter : Char} {point : CodePoint} :
    letterOf? point = some letter ↔ letter ∈ alphabet ∧ spells letter point = true := by
  constructor
  · intro h
    have hspells := List.find?_some h
    exact ⟨List.mem_of_find?_eq_some h, hspells⟩
  · rintro ⟨hmem, hspells⟩
    cases hread : letterOf? point with
    | none =>
      have hnone := List.find?_eq_none.mp hread letter hmem
      exact absurd hspells hnone
    | some other =>
      have hother := List.find?_some hread
      rw [eq_of_spells hmem (List.mem_of_find?_eq_some hread) hspells hother]

theorem letterOf?_of_isJoint {point : CodePoint} (h : isJoint point = true) :
    letterOf? point = none := by
  simp only [isJoint, Bool.or_eq_true, beq_iff_eq] at h
  rcases h with rfl | rfl <;> decide

/-- Every character that is read as a letter stands in words. -/
theorem isWord_of_letterOf? {letter : Char} {point : CodePoint}
    (h : letterOf? point = some letter) : isWord point = true := by
  obtain ⟨hmem, hspells⟩ := letterOf?_eq_some_iff.mp h
  have hbounds := bounds_of_mem_alphabet hmem
  have hnumber := toNat_of_spells hspells
  by_cases hsmall : point.toNat < 128
  · rw [isWord, if_pos hsmall]
    cases point with
    | half n =>
      simp only [CodePoint.toNat] at hsmall
      omega
    | char c =>
      have hcode : c.toNat = letter.toNat ∨ c.toNat + 32 = letter.toNat := by
        simp only [CodePoint.toNat] at hnumber hsmall
        omega
      simp only [CodePoint.isIn, Bool.or_eq_true, isAlphanum_iff]
      left
      omega
  · rw [isWord, if_neg hsmall]
    have hspecial : point.toNat = 383 ∨ point.toNat = 8490 ∨ point.toNat = 304 ∨
        point.toNat = 305 := by omega
    rcases hspecial with hpoint | hpoint | hpoint | hpoint <;> rw [hpoint] <;>
      decide +kernel

theorem isGap_of_isNamePoint {point : CodePoint} (h : isNamePoint point = true) :
    isGap point = false := by
  rw [isNamePoint, Bool.or_eq_true, Option.isSome_iff_exists] at h
  rcases h with ⟨letter, hletter⟩ | hjoint
  · obtain ⟨hmem, hspells⟩ := letterOf?_eq_some_iff.mp hletter
    have hbounds := bounds_of_mem_alphabet hmem
    have hnumber := toNat_of_spells hspells
    cases point with
    | half n => rfl
    | char c =>
      rw [Bool.eq_false_iff]
      intro hgap
      have hblank := bounds_of_inRanges_blankTable hgap
      simp only [CodePoint.toNat] at hnumber
      omega
  · simp only [isJoint, Bool.or_eq_true, beq_iff_eq] at hjoint
    rcases hjoint with rfl | rfl <;> decide

theorem spelled_nil {name : Text} : Spelled [] name ↔ name = [] := by
  rw [Spelled, keywordWidth?, Option.some_inj, eq_comm, List.length_eq_zero_iff]

theorem spelled_letter {letter : Char} {parts : List Part} {name : Text} :
    Spelled (.letter letter :: parts) name ↔
      ∃ point rest, name = point :: rest ∧ spells letter point = true ∧ Spelled parts rest := by
  constructor
  · intro h
    cases name with
    | nil => cases h
    | cons point rest =>
      rw [Spelled, keywordWidth?] at h
      split at h
      next hspells => exact ⟨point, rest, rfl, hspells, by simpa [Spelled] using h⟩
      next => cases h
  · rintro ⟨point, rest, rfl, hspells, hrest⟩
    rw [Spelled, keywordWidth?, if_pos hspells, hrest]
    rfl

/-- A joint is left out, or it is the first character. -/
theorem spelled_joint {parts : List Part} {name : Text} (h : Spelled (.joint :: parts) name) :
    Spelled parts name ∨
      ∃ point rest, name = point :: rest ∧ isJoint point = true ∧ Spelled parts rest := by
  cases name with
  | nil => exact Or.inl h
  | cons point rest =>
    by_cases hjoint : isJoint point = true
    · have hpoint : (point == '_' || point == '-') = true := hjoint
      rw [Spelled, keywordWidth?, if_pos hpoint] at h
      refine Or.inr ⟨point, rest, rfl, hjoint, ?_⟩
      simpa [Spelled] using h
    · have hpoint : ¬ (point == '_' || point == '-') = true := hjoint
      rw [Spelled, keywordWidth?, if_neg hpoint] at h
      exact Or.inl h

theorem not_isJoint_of_spells {letter : Char} {point : CodePoint} (hmem : letter ∈ alphabet)
    (h : spells letter point = true) : isJoint point = false := by
  rw [Bool.eq_false_iff]
  intro hjoint
  have hread := letterOf?_eq_some_iff.mpr ⟨hmem, h⟩
  rw [letterOf?_of_isJoint hjoint] at hread
  cases hread

/-- What is read of a text as a keyword is a spelling of it at the start of the text. -/
theorem spelled_take {parts : List Part} {text : Text} {width : Nat}
    (h : keywordWidth? parts text = some width) :
    width ≤ text.length ∧ Spelled parts (text.take width) := by
  fun_induction keywordWidth? parts text generalizing width with
  | case1 text =>
    cases h
    exact ⟨Nat.zero_le _, rfl⟩
  | case2 letter parts point rest hspells ih =>
    obtain ⟨behind, hbehind, rfl⟩ := Option.map_eq_some_iff.mp h
    obtain ⟨hle, hspelled⟩ := ih hbehind
    exact ⟨Nat.succ_le_succ hle, spelled_letter.mpr ⟨point, _, rfl, hspells, hspelled⟩⟩
  | case3 | case4 => cases h
  | case5 parts point rest hjoint ih =>
    obtain ⟨behind, hbehind, rfl⟩ := Option.map_eq_some_iff.mp h
    obtain ⟨hle, hspelled⟩ := ih hbehind
    refine ⟨Nat.succ_le_succ hle, ?_⟩
    rw [Spelled, List.take_succ_cons, keywordWidth?, if_pos hjoint, hspelled]
    rfl
  | case6 parts point rest hjoint ih =>
    obtain ⟨hle, hspelled⟩ := ih h
    refine ⟨hle, ?_⟩
    cases width with
    | zero => exact hspelled
    | succ width => rwa [Spelled, List.take_succ_cons, keywordWidth?, if_neg hjoint]
  | case7 parts ih =>
    obtain ⟨hle, hspelled⟩ := ih h
    rw [List.take_nil] at hspelled ⊢
    exact ⟨hle, hspelled⟩

namespace Spelled

variable {parts : List Part} {name : Text}

/-- A spelling starts like its first letter. -/
theorem exists_head {letter : Char} (hhead : parts.head?.bind Part.letter? = some letter)
    (h : Spelled parts name) : ∃ point rest, name = point :: rest ∧ spells letter point = true := by
  cases parts with
  | nil => cases hhead
  | cons part parts =>
    cases part with
    | joint => cases hhead
    | letter c =>
      cases hhead
      obtain ⟨point, rest, hname, hspells, -⟩ := spelled_letter.mp h
      exact ⟨point, rest, hname, hspells⟩

/-- Behind a joint a letter is read. -/
theorem exists_head_of_joint (hparts : isSpelling (.joint :: parts) = true)
    (h : Spelled parts name) : ∃ point rest, name = point :: rest ∧ isJoint point = false := by
  rw [isSpelling, Bool.and_eq_true, Option.isSome_iff_exists] at hparts
  obtain ⟨⟨letter, hletter⟩, hparts⟩ := hparts
  obtain ⟨point, rest, rfl, hspells⟩ := h.exists_head hletter
  cases parts with
  | nil => cases hletter
  | cons part parts =>
    cases part with
    | joint => cases hletter
    | letter c =>
      cases hletter
      rw [isSpelling, Bool.and_eq_true, List.contains_iff_mem] at hparts
      exact ⟨point, rest, rfl, not_isJoint_of_spells hparts.1 hspells⟩

/-- A spelling is read wherever a text starts with it. -/
theorem keywordWidth?_append (hparts : isSpelling parts = true) (h : Spelled parts name)
    (rest : Text) : keywordWidth? parts (name ++ rest) = some name.length := by
  induction parts generalizing name with
  | nil =>
    rw [spelled_nil.mp h]
    rfl
  | cons part parts ih =>
    have hrest : isSpelling parts = true := by
      cases part <;> exact (Bool.and_eq_true_iff.mp hparts).2
    cases part with
    | letter c =>
      obtain ⟨point, behind, rfl, hspells, hbehind⟩ := spelled_letter.mp h
      rw [List.cons_append, keywordWidth?, if_pos hspells, ih hrest hbehind]
      rfl
    | joint =>
      rcases spelled_joint h with hname | ⟨point, behind, rfl, hjoint, hbehind⟩
      · obtain ⟨point, behind, rfl, hpoint⟩ := hname.exists_head_of_joint hparts
        have hpoint : ¬ (point == '_' || point == '-') = true := Bool.eq_false_iff.mp hpoint
        rw [List.cons_append, keywordWidth?, if_neg hpoint]
        exact ih hrest hname
      · have hpoint : (point == '_' || point == '-') = true := hjoint
        rw [List.cons_append, keywordWidth?, if_pos hpoint, ih hrest hbehind]
        rfl

/-- A spelling is no longer than the keyword. -/
theorem length_le (h : Spelled parts name) : name.length ≤ parts.length := by
  induction parts generalizing name with
  | nil => exact Nat.le_of_eq (congrArg List.length (spelled_nil.mp h))
  | cons part parts ih =>
    cases part with
    | letter c =>
      obtain ⟨point, behind, rfl, -, hbehind⟩ := spelled_letter.mp h
      exact Nat.succ_le_succ (ih hbehind)
    | joint =>
      rcases spelled_joint h with hname | ⟨point, behind, rfl, -, hbehind⟩
      · exact Nat.le_succ_of_le (ih hname)
      · exact Nat.succ_le_succ (ih hbehind)

/-- The letters of a spelling are those of the keyword. -/
theorem letters (hparts : isSpelling parts = true) (h : Spelled parts name) :
    name.filterMap letterOf? = parts.filterMap Part.letter? := by
  induction parts generalizing name with
  | nil =>
    rw [spelled_nil.mp h]
    rfl
  | cons part parts ih =>
    rw [isSpelling.eq_def] at hparts
    cases part with
    | letter c =>
      rw [Bool.and_eq_true, List.contains_iff_mem] at hparts
      obtain ⟨point, behind, rfl, hspells, hbehind⟩ := spelled_letter.mp h
      have hread := letterOf?_eq_some_iff.mpr ⟨hparts.1, hspells⟩
      rw [List.filterMap_cons_some hread, ih hparts.2 hbehind]
      rfl
    | joint =>
      rw [Bool.and_eq_true] at hparts
      rcases spelled_joint h with hname | ⟨point, behind, rfl, hjoint, hbehind⟩
      · exact ih hparts.2 hname
      · rw [List.filterMap_cons_none (letterOf?_of_isJoint hjoint)]
        exact ih hparts.2 hbehind

/-- Every character of a spelling may stand in keywords. -/
theorem isNamePoint (hparts : isSpelling parts = true) (h : Spelled parts name) :
    ∀ point ∈ name, isNamePoint point = true := by
  induction parts generalizing name with
  | nil =>
    rw [spelled_nil.mp h]
    exact fun point hnone => absurd hnone List.not_mem_nil
  | cons part parts ih =>
    rw [isSpelling.eq_def] at hparts
    cases part with
    | letter c =>
      rw [Bool.and_eq_true, List.contains_iff_mem] at hparts
      obtain ⟨point, behind, rfl, hspells, hbehind⟩ := spelled_letter.mp h
      have hread := letterOf?_eq_some_iff.mpr ⟨hparts.1, hspells⟩
      rw [List.forall_mem_cons]
      exact ⟨by simp [Audit.isNamePoint, hread], ih hparts.2 hbehind⟩
    | joint =>
      rw [Bool.and_eq_true] at hparts
      rcases spelled_joint h with hname | ⟨point, behind, rfl, hjoint, hbehind⟩
      · exact ih hparts.2 hname
      · rw [List.forall_mem_cons]
        exact ⟨by simp [Audit.isNamePoint, hjoint], ih hparts.2 hbehind⟩

/-- Behind a joint of a spelling stands a character that is none. -/
theorem behind_joint (hparts : isSpelling parts = true) (h : Spelled parts name) {front rest : Text}
    {point : CodePoint} (hname : name = front ++ point :: rest) (hjoint : isJoint point = true) :
    ∃ next behind, rest = next :: behind ∧ isJoint next = false := by
  induction parts generalizing name front with
  | nil =>
    rw [spelled_nil.mp h] at hname
    simp at hname
  | cons part parts ih =>
    have hrest : isSpelling parts = true := by
      cases part <;> exact (Bool.and_eq_true_iff.mp hparts).2
    cases part with
    | letter c =>
      rw [isSpelling, Bool.and_eq_true, List.contains_iff_mem] at hparts
      obtain ⟨first, behind, rfl, hspells, hbehind⟩ := spelled_letter.mp h
      cases front with
      | nil =>
        cases hname
        rw [not_isJoint_of_spells hparts.1 hspells] at hjoint
        cases hjoint
      | cons other front =>
        cases hname
        exact ih hrest hbehind rfl
    | joint =>
      rcases spelled_joint h with hspelled | ⟨first, behind, rfl, -, hbehind⟩
      · exact ih hrest hspelled hname
      · cases front with
        | nil =>
          cases hname
          exact hbehind.exists_head_of_joint hparts
        | cons other front =>
          cases hname
          exact ih hrest hbehind rfl

end Spelled

/-- Whether a text is a way of spelling one of some keywords. -/
def IsName (group : List (List Part)) (name : Text) : Prop :=
  ∃ parts ∈ group, Spelled parts name

namespace IsName

variable {group : List (List Part)} {name : Text}

theorem isNamePoint (hgroup : group ⊆ keywords) (h : IsName group name) :
    ∀ point ∈ name, isNamePoint point = true := by
  obtain ⟨parts, hparts, hspelled⟩ := h
  exact hspelled.isNamePoint (isSpelling_keywords parts (hgroup hparts))

theorem mono {others : List (List Part)} (hgroup : group ⊆ others) (h : IsName group name) :
    IsName others name := by
  obtain ⟨parts, hparts, hspelled⟩ := h
  exact ⟨parts, hgroup hparts, hspelled⟩

theorem length_lt (hgroup : group ⊆ keywords) (h : IsName group name) : name.length < 20 := by
  obtain ⟨parts, hparts, hspelled⟩ := h
  exact Nat.lt_of_le_of_lt hspelled.length_le (length_keywords parts (hgroup hparts))

/-- A spelling starts with one of few letters. -/
theorem exists_initial (hgroup : group ⊆ keywords) (h : IsName group name) :
    ∃ point rest letter, name = point :: rest ∧ letter ∈ initials ∧
      letterOf? point = some letter := by
  obtain ⟨parts, hparts, hspelled⟩ := h
  obtain ⟨letter, hletter, hhead⟩ := List.mem_map.mp (head_keywords parts (hgroup hparts))
  obtain ⟨point, rest, rfl, hspells⟩ :=
    hspelled.exists_head (by rw [← hhead]; rfl : parts.head?.bind Part.letter? = some letter)
  exact ⟨point, rest, letter, rfl, hletter,
    letterOf?_eq_some_iff.mpr ⟨initials_subset_alphabet hletter, hspells⟩⟩

/-- No spelling ends in another one. -/
theorem eq_nil_of_suffix (h : IsName keywords name) {front rest : Text}
    (hrest : IsName keywords rest) (hname : name = front ++ rest) : front = [] := by
  obtain ⟨point, behind, letter, hhead, -, hletter⟩ := h.exists_initial (List.Subset.refl _)
  obtain ⟨parts, hparts, hspelled⟩ := h
  obtain ⟨others, hothers, hothersSpelled⟩ := hrest
  have hletters := hspelled.letters (isSpelling_keywords parts hparts)
  have hothersLetters := hothersSpelled.letters (isSpelling_keywords others hothers)
  rw [hname, List.filterMap_append, hothersLetters] at hletters
  have heq := letters_suffix_keywords parts hparts others hothers ⟨_, hletters⟩
  rw [← heq, List.append_left_eq_self] at hletters
  cases front with
  | nil => rfl
  | cons first front =>
    -- the first character of a spelling is a letter, so it cannot be left out
    obtain rfl : first = point := by
      rw [hname] at hhead
      exact (List.cons.inj hhead).1
    rw [List.filterMap_cons_some hletter] at hletters
    cases hletters

end IsName

end HostLifecycle.Audit
