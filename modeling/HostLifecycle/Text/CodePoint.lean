/-!
Texts as rows of code points. A character beyond the first 65536 is written in JSON as a
pair of units of sixteen bits. A unit that is half of a pair is no character by itself,
but a text that is read or put together may hold one that stands alone. Such a text can
be worked with like any other, but it cannot be stored.
-/

namespace HostLifecycle

/-- A code point: a character, or half of a pair that stands alone. The halves are
counted from the first of them. -/
inductive CodePoint where
  | char (c : Char)
  | half (n : Fin 2048)
deriving DecidableEq, Repr, Inhabited

namespace CodePoint

instance instCoeChar : Coe Char CodePoint := ⟨char⟩

def toNat : CodePoint → Nat
  | char c => c.toNat
  | half n => 55296 + n.val

def ofNat (n : Nat) : CodePoint :=
  if h : 55296 ≤ n ∧ n < 57344 then half ⟨n - 55296, by omega⟩ else char (Char.ofNat n)

def char? : CodePoint → Option Char
  | char c => some c
  | half _ => none

def isIn (inClass : Char → Bool) : CodePoint → Bool
  | char c => inClass c
  | half _ => false

def map (f : Char → Char) : CodePoint → CodePoint
  | char c => char (f c)
  | half n => half n

def byteSize : CodePoint → Nat
  | char c => c.utf8Size
  | half _ => 3

/-- Code points are ordered by their numbers. -/
instance instLT : LT CodePoint := ⟨fun a b => a.toNat < b.toNat⟩

instance instDecidableLT : DecidableLT CodePoint :=
  fun a b => inferInstanceAs (Decidable (a.toNat < b.toNat))

theorem ofNat_toNat (c : CodePoint) : ofNat c.toNat = c := by
  cases c with
  | char c =>
    have hvalid : ¬ (55296 ≤ c.toNat ∧ c.toNat < 57344) := by
      have := c.valid
      simp only [UInt32.isValidChar, Nat.isValidChar, UInt32.toNat] at this
      simp only [Char.toNat, UInt32.toNat]
      omega
    simp [ofNat, toNat, hvalid]
  | half n =>
    have hrange : 55296 ≤ 55296 + n.val ∧ 55296 + n.val < 57344 := by omega
    simp [ofNat, toNat, hrange]

end CodePoint

abbrev Text := List CodePoint

namespace Text

def ofChars (chars : List Char) : Text := chars.map .char

def ofString (s : String) : Text := ofChars s.toList

instance instCoeString : Coe String Text := ⟨ofString⟩

/-- The characters of a text, unless half of a pair stands alone in it. -/
def chars? (text : Text) : Option (List Char) := text.mapM CodePoint.char?

/-- A text as a string, unless half of a pair stands alone in it. -/
def string? (text : Text) : Option String := text.chars?.map String.ofList

/-- Whether no half of a pair stands alone in a text, so that it can be stored. -/
def isWhole (text : Text) : Bool := text.chars?.isSome

def byteSize (text : Text) : Nat := text.foldr (fun c size => c.byteSize + size) 0

/-- Whether a unit of sixteen bits is the first half of a pair. -/
def isHighHalf (n : Nat) : Bool := 55296 ≤ n && n ≤ 56319

/-- Whether a unit of sixteen bits is the second half of a pair. -/
def isLowHalf (n : Nat) : Bool := 56320 ≤ n && n ≤ 57343

def highHalf (n : Nat) : Nat := 55296 + (n - 65536) / 1024

def lowHalf (n : Nat) : Nat := 56320 + (n - 65536) % 1024

def ofHalves (high low : Nat) : Nat := 65536 + (high - 55296) * 1024 + (low - 56320)

theorem chars?_ofChars (chars : List Char) : chars? (ofChars chars) = some chars := by
  induction chars with
  | nil => rfl
  | cons c rest ih =>
    simp only [chars?, ofChars] at ih
    simp [chars?, ofChars, CodePoint.char?, ih]

theorem string?_ofString (s : String) : string? (ofString s) = some s := by
  simp [string?, ofString, chars?_ofChars]

theorem ofString_inj {s t : String} : ofString s = ofString t ↔ s = t := by
  constructor
  · intro h
    have hsome := congrArg string? h
    simpa [string?_ofString] using hsome
  · exact congrArg ofString

/-- A text can be stored if each of its code points can. -/
theorem isWhole_iff {text : Text} :
    text.isWhole = true ↔ ∀ point ∈ text, point.char?.isSome = true := by
  induction text with
  | nil => simp [isWhole, chars?]
  | cons point rest ih =>
    rw [List.forall_mem_cons, ← ih]
    simp only [isWhole, chars?, List.mapM_cons]
    cases point.char? with
    | none => simp
    | some c => cases List.mapM CodePoint.char? rest <;> simp

/-- The numbers of letters and digits. -/
theorem isAlphanum_iff {c : Char} : c.isAlphanum = true ↔
    48 ≤ c.toNat ∧ c.toNat ≤ 57 ∨ 65 ≤ c.toNat ∧ c.toNat ≤ 90 ∨ 97 ≤ c.toNat ∧ c.toNat ≤ 122 := by
  have hclasses : c.isAlphanum = (c.isUpper || c.isLower || c.isDigit) := rfl
  have hupper : c.isUpper = true ↔ 65 ≤ c.toNat ∧ c.toNat ≤ 90 := decide_eq_true_iff
  have hlower : c.isLower = true ↔ 97 ≤ c.toNat ∧ c.toNat ≤ 122 :=
    Bool.and_eq_true_iff.trans (and_congr decide_eq_true_iff decide_eq_true_iff)
  have hdigit : c.isDigit = true ↔ 48 ≤ c.toNat ∧ c.toNat ≤ 57 := Char.isDigit_iff_toNat
  rw [hclasses, Bool.or_eq_true, Bool.or_eq_true, hupper, hlower, hdigit]
  omega

theorem ofHalves_halves (n : Nat) (h : 65536 ≤ n) : ofHalves (highHalf n) (lowHalf n) = n := by
  unfold ofHalves highHalf lowHalf
  omega

end Text

end HostLifecycle
