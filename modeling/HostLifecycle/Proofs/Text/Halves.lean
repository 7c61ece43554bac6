import HostLifecycle.Proofs.Json.Strings
import HostLifecycle.Value.Text
import Mathlib.Data.List.Chain

/-!
Texts that are read back as they were written. In such a text no first half of a pair stands
right before the second one. So it is one whose neighbours stand apart, and putting two of them
together only asks for the place where they meet. A text without halves is read back as it was
written, and it may stand next to any other.
-/

namespace HostLifecycle

namespace CodePoint

def Apart (first second : CodePoint) : Prop :=
  ¬ (Text.isHighHalf first.toNat = true ∧ Text.isLowHalf second.toNat = true)

theorem apart_char_left (c : Char) (second : CodePoint) : Apart (.char c) second := by
  simp [Apart, toNat, Text.isHighHalf_char]

theorem apart_char_right (first : CodePoint) (c : Char) : Apart first (.char c) := by
  simp [Apart, toNat, Text.isLowHalf_char]

end CodePoint

namespace Text

open CodePoint

/-- Whether no first half of a pair stands right before the second one, so that the text is
read back as it was written. -/
def Unsplit (text : Text) : Prop := text.joined = text

theorem unsplit_ofChars (chars : List Char) : Text.Unsplit (ofChars chars) :=
  joined_ofChars chars

theorem unsplit_ofString (s : String) : Text.Unsplit (ofString s) :=
  unsplit_ofChars _

theorem length_joined_le (text : Text) : text.joined.length ≤ text.length := by
  induction text using joined.induct with
  | case1 => simp [joined]
  | case2 point => simp [joined]
  | case3 first second rest hpair ih =>
    simp only [joined, hpair, if_true, List.length_cons]
    omega
  | case4 first second rest hpair ih =>
    simp only [joined, hpair, List.length_cons] at ih ⊢
    simpa using ih

/-- A text is read back as it was written exactly if its neighbours stand apart. -/
theorem unsplit_iff (text : Text) : text.Unsplit ↔ text.IsChain Apart := by
  unfold Unsplit
  induction text using joined.induct with
  | case1 => simp [joined]
  | case2 point => simp [joined]
  | case3 first second rest hpair ih =>
    have hlength := length_joined_le rest
    have hhalves : isHighHalf first.toNat = true ∧ isLowHalf second.toNat = true := by
      simpa using hpair
    constructor
    · intro hjoined
      have hsame := congrArg List.length hjoined
      simp only [joined, hpair, if_true, List.length_cons] at hsame
      omega
    · intro hchain
      exact absurd hhalves (List.isChain_cons_cons.mp hchain).1
  | case4 first second rest hpair ih =>
    have happart : Apart first second := by
      simpa [Apart] using hpair
    rw [List.isChain_cons_cons, ← ih]
    simp [joined, hpair, happart]

/-- A text without halves. -/
def Plain (text : Text) : Prop := ∀ point ∈ text, ∃ c, point = .char c

theorem plain_ofChars (chars : List Char) : Plain (ofChars chars) := by
  intro point hpoint
  obtain ⟨c, -, rfl⟩ := List.mem_map.mp hpoint
  exact ⟨c, rfl⟩

/-- What can be stored holds no halves. -/
theorem plain_of_isWhole {text : Text} (h : text.isWhole = true) : Plain text := by
  intro point hpoint
  cases point with
  | char c => exact ⟨c, rfl⟩
  | half n => simpa [char?] using isWhole_iff.mp h _ hpoint

theorem plain_ofString (s : String) : Plain (ofString s) :=
  plain_ofChars _

theorem Plain.append {first second : Text} (hfirst : first.Plain) (hsecond : second.Plain) :
    Plain (first ++ second) := by
  intro point hpoint
  rcases List.mem_append.mp hpoint with hpoint | hpoint
  · exact hfirst point hpoint
  · exact hsecond point hpoint

theorem unsplit_append {first second : Text} (hfirst : first.Unsplit) (hsecond : second.Unsplit)
    (hmeet : ∀ x ∈ first.getLast?, ∀ y ∈ second.head?, Apart x y) :
    Unsplit (first ++ second) := by
  rw [unsplit_iff] at *
  exact List.isChain_append.mpr ⟨hfirst, hsecond, hmeet⟩

theorem Plain.unsplit {text : Text} (h : text.Plain) : text.Unsplit := by
  rw [unsplit_iff]
  induction text with
  | nil => exact .nil
  | cons first rest ih =>
    obtain ⟨c, rfl⟩ := h first List.mem_cons_self
    cases rest with
    | nil => exact .singleton _
    | cons second rest =>
      have hrest : Plain (second :: rest) := fun point hpoint =>
        h point (List.mem_cons_of_mem _ hpoint)
      exact List.isChain_cons_cons.mpr ⟨apart_char_left c second, ih hrest⟩

theorem Plain.unsplit_append {first second : Text} (hfirst : first.Plain)
    (hsecond : second.Unsplit) : Unsplit (first ++ second) := by
  apply Text.unsplit_append hfirst.unsplit hsecond
  intro x hx y _
  obtain ⟨c, rfl⟩ := hfirst x (List.mem_of_getLast? hx)
  exact apart_char_left c y

/-- Texts that are joined with plain separators between them are kept apart by these. -/
theorem unsplit_joinWith {separator : Text} (hplain : separator.Plain)
    (hseparator : separator ≠ []) {texts : List Text} (h : ∀ text ∈ texts, text.Unsplit) :
    Unsplit (Value.joinWith separator texts) := by
  induction texts with
  | nil => exact (plain_ofString "").unsplit
  | cons text rest ih =>
    cases rest with
    | nil => exact h text List.mem_cons_self
    | cons next rest =>
      have hrest := ih fun other hother => h other (List.mem_cons_of_mem _ hother)
      have hbehind : Unsplit (separator ++ Value.joinWith separator (next :: rest)) :=
        hplain.unsplit_append hrest
      rw [Value.joinWith, List.append_assoc]
      · apply unsplit_append (h text List.mem_cons_self) hbehind
        intro x _ y hy
        rw [List.head?_append_of_ne_nil _ hseparator] at hy
        obtain ⟨c, rfl⟩ := hplain y (List.mem_of_head? hy)
        exact apart_char_right x c
      · simp

theorem plain_quotedChar (quote : Char) (point : CodePoint) : Plain (quotedChar quote point) := by
  unfold quotedChar
  split
  next hescaped =>
    have hchar : ∃ c, point = .char c := by
      rcases (by simpa using hescaped : point = .char quote ∨ point = .char '\\') with h | h
      · exact ⟨quote, h⟩
      · exact ⟨'\\', h⟩
    obtain ⟨c, rfl⟩ := hchar
    exact plain_ofChars ['\\', c]
  split
  · exact plain_ofChars ['\\', 'n']
  split
  · exact plain_ofChars ['\\', 'r']
  split
  · exact plain_ofChars ['\\', 't']
  split
  next hshown =>
    cases point with
    | char c => exact plain_ofChars [c]
    | half n => simp [isHidden] at hshown
  next => exact plain_ofChars _

/-- A text between quotes shows no halves. -/
theorem plain_quoted (text : Text) : Plain (quoted text) := by
  have hmark : Plain [CodePoint.char (quoteOf text)] := plain_ofChars [quoteOf text]
  have hbody : Plain (text.flatMap (quotedChar (quoteOf text))) := by
    intro shown hshown
    obtain ⟨point, -, hpoint⟩ := List.mem_flatMap.mp hshown
    exact plain_quotedChar _ _ shown hpoint
  exact (hmark.append hbody).append hmark

end Text

end HostLifecycle
