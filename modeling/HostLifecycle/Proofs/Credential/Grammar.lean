import HostLifecycle.Credential.PublicKey
import HostLifecycle.Proofs.Text.Runs
import Mathlib.Data.List.Infix

/-!
The grammar of public keys. A public key is put together of parts: the name of an algorithm, a
gap, the key itself with its padding, and a space with a comment. A text is read as a public key
exactly if it is put together of such parts, although the reader never goes back: whatever may
follow a part is no member of the class that the part is made of.
-/

namespace HostLifecycle.PublicKey

open Text

/-- The parts of a public key. A comment stands on one line, behind a space of its own. -/
structure Parts where
  family : Text
  algorithm : Text
  gap : Text
  body : Text
  padding : Nat
  space : Text
  comment : Text
  family_mem : family ∈ families
  algorithm_ne : algorithm ≠ []
  algorithm_named : ∀ c ∈ algorithm, c.isIn isNameChar = true
  gap_ne : gap ≠ []
  gap_blank : ∀ c ∈ gap, c.isIn isBlank = true
  body_ne : body ≠ []
  body_coded : ∀ c ∈ body, c.isIn isKeyChar = true
  padding_le : padding ≤ 3
  space_blank : ∀ c ∈ space, c.isIn isBlank = true
  comment_spaced : comment ≠ [] → space ≠ []
  comment_line : .char '\n' ∉ comment

namespace Parts

/-- What stands behind the key and its padding. -/
def tail (parts : Parts) : Text := parts.space ++ parts.comment

def padded (parts : Parts) : Text := List.replicate parts.padding (.char '=') ++ parts.tail

def behindName (parts : Parts) : Text :=
  parts.gap ++ (parts.body ++ parts.padded)

def text (parts : Parts) : Text :=
  parts.family ++ (parts.algorithm ++ parts.behindName)

end Parts

theorem toNat_of_isNameChar {c : Char} (h : isNameChar c = true) :
    c.toNat = 45 ∨ 48 ≤ c.toNat ∧ c.toNat ≤ 57 ∨ 97 ≤ c.toNat ∧ c.toNat ≤ 122 := by
  simp only [isNameChar, Char.isDigit, Bool.or_eq_true, Bool.and_eq_true, decide_eq_true_eq,
    UInt32.le_iff_toNat_le, ge_iff_le, beq_iff_eq] at h
  rcases h with (hletter | hdigit) | rfl
  · exact .inr (.inr hletter)
  · exact .inr (.inl hdigit)
  · exact .inl rfl

theorem toNat_of_isKeyChar {c : Char} (h : isKeyChar c = true) :
    43 ≤ c.toNat ∧ c.toNat ≤ 122 ∧ c.toNat ≠ 61 := by
  simp only [isKeyChar, Bool.or_eq_true, Text.isAlphanum_iff, beq_iff_eq] at h
  rcases h with (hletter | rfl) | rfl
  · omega
  · decide
  · decide

/-- Neither a name nor the key itself holds a blank. -/
theorem isIn_of_isBlank {c : CodePoint} (h : c.isIn isBlank = true) :
    c.isIn isNameChar = false ∧ c.isIn isKeyChar = false := by
  cases c with
  | half n => simp [CodePoint.isIn] at h
  | char c =>
    have hblank := bounds_of_inRanges_blankTable h
    simp only [CodePoint.isIn, Bool.eq_false_iff]
    constructor
    · intro hname
      have := toNat_of_isNameChar hname
      omega
    · intro hkey
      have := toNat_of_isKeyChar hkey
      omega

theorem isBlank_of_isKeyChar {c : CodePoint} (h : c.isIn isKeyChar = true) :
    c.isIn isBlank = false := by
  rw [Bool.eq_false_iff]
  intro hblank
  rw [(isIn_of_isBlank hblank).2] at h
  simp at h

/-- What follows a run of which at least one member is asked for. -/
theorem afterSome?_eq_some_iff {inClass : Char → Bool} {text rest : Text} :
    afterSome? inClass text = some rest ↔
      ∃ run, run ≠ [] ∧ (∀ c ∈ run, c.isIn inClass = true) ∧ text = run ++ rest ∧
        ∀ c ∈ rest.head?, c.isIn inClass = false := by
  constructor
  · intro h
    cases text with
    | nil => simp [afterSome?] at h
    | cons c text =>
      simp only [afterSome?] at h
      split at h
      next hc =>
        simp only [Option.some.injEq] at h
        refine ⟨c :: text.takeWhile (CodePoint.isIn inClass), by simp, ?_, ?_, ?_⟩
        · simpa [hc] using forall_mem_takeWhile (CodePoint.isIn inClass) text
        · simp [← h]
        · rw [← h]
          exact head?_dropWhile _ text
      next => simp at h
  · rintro ⟨run, hne, hrun, rfl, hrest⟩
    cases run with
    | nil => contradiction
    | cons c run =>
      have hmembers : ∀ x ∈ run, x.isIn inClass = true :=
        fun x hx => hrun x (List.mem_cons_of_mem c hx)
      simp [afterSome?, hrun c List.mem_cons_self, dropWhile_run hmembers hrest]

/-- What follows the name of an algorithm. -/
theorem afterAlgorithm?_eq_some_iff {text rest : Text} :
    afterAlgorithm? text = some rest ↔
      ∃ family ∈ families, ∃ algorithm, algorithm ≠ [] ∧
        (∀ c ∈ algorithm, c.isIn isNameChar = true) ∧ text = family ++ (algorithm ++ rest) ∧
        ∀ c ∈ rest.head?, c.isIn isNameChar = false := by
  have hone : ∀ family : Text,
      (family.isPrefixOf? text).bind (afterSome? isNameChar) = some rest ↔
        ∃ algorithm, algorithm ≠ [] ∧ (∀ c ∈ algorithm, c.isIn isNameChar = true) ∧
          text = family ++ (algorithm ++ rest) ∧
          ∀ c ∈ rest.head?, c.isIn isNameChar = false := by
    intro family
    simp only [Option.bind_eq_some_iff, List.isPrefixOf?_eq_some_iff_append_eq,
      afterSome?_eq_some_iff]
    constructor
    · rintro ⟨behind, rfl, run, hne, hrun, rfl, hrest⟩
      exact ⟨run, hne, hrun, rfl, hrest⟩
    · rintro ⟨run, hne, hrun, rfl, hrest⟩
      exact ⟨run ++ rest, rfl, run, hne, hrun, rfl, hrest⟩
  constructor
  · intro h
    obtain ⟨family, hfamily, hread⟩ := List.exists_of_findSome?_eq_some h
    exact ⟨family, hfamily, (hone family).mp hread⟩
  · rintro ⟨family, hfamily, hparts⟩
    have hread := (hone family).mpr hparts
    obtain ⟨algorithm, -, -, htext, -⟩ := hparts
    simp only [families, List.mem_cons, List.not_mem_nil, or_false] at hfamily
    rcases hfamily with rfl | rfl
    · simp only [afterAlgorithm?, families, List.findSome?_cons, hread]
    · -- the two families differ in their first character
      have hnone : (Text.ofString "ssh-").isPrefixOf? text = none := by
        rw [htext]
        rfl
      simp only [afterAlgorithm?, families, List.findSome?_cons, hnone, Option.bind_none, hread]

/-- Padding ends where it has to, or where no sign of it is left. -/
theorem afterPadding_replicate {count bound : Nat} (hcount : count ≤ bound) {rest : Text}
    (hrest : .char '=' ∉ rest.head?) :
    afterPadding bound (List.replicate count (.char '=') ++ rest) = rest := by
  induction count generalizing bound with
  | zero =>
    unfold afterPadding
    split
    next => simp_all
    next => simp
  | succ count ih =>
    cases bound with
    | zero => omega
    | succ bound =>
      simp only [List.replicate_succ, List.cons_append, afterPadding]
      exact ih (by omega)

theorem exists_padding (bound : Nat) (text : Text) :
    ∃ count ≤ bound, text = List.replicate count (.char '=') ++ afterPadding bound text := by
  fun_induction afterPadding bound text with
  | case1 bound rest ih =>
    obtain ⟨count, hcount, htext⟩ := ih
    refine ⟨count + 1, by omega, ?_⟩
    rw [List.replicate_succ, List.cons_append, ← htext]
  | case2 bound text => exact ⟨0, by omega, by simp⟩

/-- The tail of a public key. -/
theorem isTail_iff {text : Text} : isTail text = true ↔
    ∃ space comment : Text, text = space ++ comment ∧
      (∀ c ∈ space, c.isIn isBlank = true) ∧ (comment ≠ [] → space ≠ []) ∧
      .char '\n' ∉ comment := by
  constructor
  · intro h
    cases text with
    | nil => exact ⟨[], [], by simp⟩
    | cons c rest =>
      simp only [isTail, Bool.and_eq_true, Bool.not_eq_true', List.contains_eq_mem,
        decide_eq_false_iff_not] at h
      obtain ⟨hblank, hline⟩ := h
      refine ⟨c :: rest.takeWhile (CodePoint.isIn isBlank), rest.dropWhile (CodePoint.isIn isBlank),
        by simp, ?_, by simp, hline⟩
      simpa [hblank] using forall_mem_takeWhile (CodePoint.isIn isBlank) rest
  · rintro ⟨space, comment, rfl, hblank, hspaced, hline⟩
    cases space with
    | nil =>
      have hnone : comment = [] := by
        by_contra hne
        exact hspaced hne rfl
      simp [hnone, isTail]
    | cons c space =>
      have hrest : ∀ x ∈ space, x.isIn isBlank = true :=
        fun x hx => hblank x (List.mem_cons_of_mem c hx)
      have hkept : .char '\n' ∉ comment.dropWhile (CodePoint.isIn isBlank) :=
        fun hmem => hline ((List.dropWhile_sublist _).subset hmem)
      simp [isTail, hblank c List.mem_cons_self, List.dropWhile_append_of_pos hrest, hkept]

namespace Parts

variable (parts : Parts)

theorem isTail_tail : isTail parts.tail = true :=
  isTail_iff.mpr
    ⟨parts.space, parts.comment, rfl, parts.space_blank, parts.comment_spaced, parts.comment_line⟩

/-- Behind the padding stands nothing or a blank. -/
theorem head?_tail : ∀ c ∈ parts.tail.head?, c.isIn isBlank = true := by
  by_cases hspace : parts.space = []
  · have hnone : parts.comment = [] := by
      by_contra hne
      exact parts.comment_spaced hne hspace
    simp [tail, hspace, hnone]
  · exact head?_run hspace parts.space_blank

/-- Behind the key itself stands a sign of padding or what stands behind the padding. -/
theorem head?_padded : ∀ c ∈ parts.padded.head?, c.isIn isKeyChar = false := by
  intro c hc
  cases hcount : parts.padding with
  | zero =>
    rw [padded, hcount, List.replicate_zero, List.nil_append] at hc
    exact (isIn_of_isBlank (parts.head?_tail c hc)).2
  | succ count =>
    simp only [padded, hcount, List.replicate_succ, List.cons_append, List.head?_cons,
      Option.mem_def, Option.some.injEq] at hc
    rw [← hc]
    decide

/-- What is put together of parts is read as a public key. -/
theorem isKey_text : isKey parts.text = true := by
  have hname : afterAlgorithm? parts.text = some parts.behindName := by
    apply afterAlgorithm?_eq_some_iff.mpr
    refine ⟨parts.family, parts.family_mem, parts.algorithm, parts.algorithm_ne,
      parts.algorithm_named, rfl, fun c hc => ?_⟩
    exact (isIn_of_isBlank (head?_run parts.gap_ne parts.gap_blank c hc)).1
  have hgap : afterSome? isBlank parts.behindName =
      some (parts.body ++ parts.padded) := by
    apply afterSome?_eq_some_iff.mpr
    refine ⟨parts.gap, parts.gap_ne, parts.gap_blank, rfl, fun c hc => ?_⟩
    exact isBlank_of_isKeyChar (head?_run parts.body_ne parts.body_coded c hc)
  have hbody : afterSome? isKeyChar (parts.body ++ parts.padded) = some parts.padded :=
    afterSome?_eq_some_iff.mpr
      ⟨parts.body, parts.body_ne, parts.body_coded, rfl, parts.head?_padded⟩
  have hpadding : afterPadding 3 parts.padded = parts.tail := by
    apply afterPadding_replicate parts.padding_le
    intro hsign
    have hblank := parts.head?_tail _ hsign
    revert hblank
    decide
  simp [isKey, afterKey?, hname, hgap, hbody, hpadding, parts.isTail_tail]

/-- The line feeds of a public key stand in its gap and in the space ahead of its comment. -/
theorem count_line : parts.text.count (.char '\n') =
    parts.gap.count (.char '\n') + parts.space.count (.char '\n') := by
  have hfamily : .char '\n' ∉ parts.family := by
    have hnone : ∀ family ∈ families, CodePoint.char '\n' ∉ family := by decide
    exact hnone _ parts.family_mem
  have halgorithm : .char '\n' ∉ parts.algorithm := fun h =>
    absurd (parts.algorithm_named _ h) (by decide)
  have hbody : .char '\n' ∉ parts.body := fun h => absurd (parts.body_coded _ h) (by decide)
  have hpadding : .char '\n' ∉ List.replicate parts.padding (CodePoint.char '=') := by
    simp [List.mem_replicate]
  simp only [text, behindName, padded, tail, List.count_append, List.count_eq_zero.mpr hfamily,
    List.count_eq_zero.mpr halgorithm, List.count_eq_zero.mpr hbody,
    List.count_eq_zero.mpr hpadding, List.count_eq_zero.mpr parts.comment_line]
  omega

end Parts

/-- Exactly what is put together of parts is read as a public key. -/
theorem isKey_iff {text : Text} : isKey text = true ↔ ∃ parts : Parts, parts.text = text := by
  constructor
  · intro h
    simp only [isKey, Option.any_eq_true, afterKey?, Option.bind_eq_bind, Option.bind_eq_some_iff,
      Option.pure_def, Option.some.injEq] at h
    obtain ⟨_, ⟨behindName, hname, behindGap, hgap, behindBody, hbody, rfl⟩, htail⟩ := h
    obtain ⟨family, hfamily, algorithm, halgorithm, hnamed, rfl, -⟩ :=
      afterAlgorithm?_eq_some_iff.mp hname
    obtain ⟨gap, hgapped, hblank, rfl, -⟩ := afterSome?_eq_some_iff.mp hgap
    obtain ⟨body, hbodied, hcoded, rfl, -⟩ := afterSome?_eq_some_iff.mp hbody
    obtain ⟨count, hcount, hpadded⟩ := exists_padding 3 behindBody
    obtain ⟨space, comment, hsplit, hspace, hspaced, hline⟩ := isTail_iff.mp htail
    refine ⟨⟨family, algorithm, gap, body, count, space, comment, hfamily, halgorithm, hnamed,
      hgapped, hblank, hbodied, hcoded, hcount, hspace, hspaced, hline⟩, ?_⟩
    simp only [Parts.text, Parts.behindName, Parts.padded, Parts.tail, ← hsplit, ← hpadded]
  · rintro ⟨parts, rfl⟩
    exact parts.isKey_text

theorem accepts_iff {text : Text} :
    accepts text = true ↔ ∃ parts : Parts, parts.text = text.strip :=
  isKey_iff

/-- Blanks around a text do not change whether it is a public key. -/
theorem accepts_padded {before after : Text} (text : Text)
    (hbefore : ∀ c ∈ before, c.isIn isBlank = true) (hafter : ∀ c ∈ after, c.isIn isBlank = true) :
    accepts (before ++ text ++ after) = accepts text := by
  rw [accepts, accepts, strip, dropAroundWhile_append text hbefore hafter, ← strip]

theorem accepts_empty : accepts "" = false := by decide

end HostLifecycle.PublicKey
