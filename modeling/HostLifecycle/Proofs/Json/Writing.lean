import HostLifecycle.Proofs.Json.Floats
import HostLifecycle.Text.Lines

/-!
What a written value is made of: printable characters of ASCII, and whatever its parts are set
apart by. So a value is written on one line or on lines that are all ended in the same way, and its
bytes are read as the text that was stored.
-/

namespace HostLifecycle.Json

open Number Text

def isPrintable (c : Char) : Bool := 32 ≤ c.toNat && c.toNat ≤ 126

def Printable (text : List Char) : Prop := ∀ c ∈ text, isPrintable c = true

theorem printable_of_all {text : List Char} (h : text.all isPrintable = true) : Printable text :=
  List.all_eq_true.mp h

theorem printable_cons {c : Char} {rest : List Char} :
    Printable (c :: rest) ↔ isPrintable c = true ∧ Printable rest :=
  List.forall_mem_cons

theorem printable_append {first second : List Char} :
    Printable (first ++ second) ↔ Printable first ∧ Printable second :=
  List.forall_mem_append

theorem printable_of_isDigit {digits : List Char} (h : ∀ c ∈ digits, c.isDigit = true) :
    Printable digits := by
  intro c hc
  have hdigit := Char.isDigit_iff_toNat.mp (h c hc)
  have hlower : 32 ≤ c.toNat := Nat.le_trans (by decide) hdigit.1
  have hupper : c.toNat ≤ 126 := Nat.le_trans hdigit.2 (by decide)
  simp [isPrintable, hlower, hupper]

theorem printable_hexText (width n : Nat) : Printable (hexText width n) := by
  have hdigit : ∀ n < 16, [hexDigit n].all isPrintable = true := by decide
  induction width generalizing n with
  | zero => exact printable_of_all rfl
  | succ width ih =>
    exact printable_append.mpr ⟨ih _, printable_of_all (hdigit _ (Nat.mod_lt _ (by decide)))⟩

theorem printable_unitEscape (n : Nat) : Printable (unitEscape n) :=
  printable_cons.mpr ⟨rfl, printable_cons.mpr ⟨rfl, printable_hexText 4 n⟩⟩

theorem printable_escapeChar (c : Char) : Printable (escapeChar c) := by
  unfold escapeChar
  iterate 7
    split
    · exact printable_of_all rfl
  split
  next hprintable =>
    obtain ⟨hlower, hupper⟩ := hprintable
    exact printable_of_all (by simp [isPrintable, hlower, hupper])
  split
  · exact printable_unitEscape _
  · exact printable_append.mpr ⟨printable_unitEscape _, printable_unitEscape _⟩

theorem printable_writeString (text : Text) : Printable (writeString text) := by
  have hbody : Printable (text.flatMap escape) := by
    intro c hc
    obtain ⟨point, -, hpoint⟩ := List.mem_flatMap.mp hc
    cases point with
    | half n => exact printable_unitEscape _ c hpoint
    | char d => exact printable_escapeChar d c hpoint
  exact printable_append.mpr ⟨printable_cons.mpr ⟨rfl, hbody⟩, printable_of_all rfl⟩

theorem printable_sign {negative : Prop} [Decidable negative] :
    Printable (if negative then ['-'] else []) := by
  split <;> exact printable_of_all rfl

theorem printable_integerText (n : Int) : Printable (integerText n).toList := by
  rw [toList_integerText]
  exact printable_append.mpr ⟨printable_sign, printable_of_isDigit (isDigit_decimalDigits _)⟩

theorem IsPower.printable {power digits : List Char} {down : Bool}
    (h : IsPower power down digits) : Printable power := by
  cases h with
  | absent => exact printable_of_all rfl
  | present _ _ hdigits =>
    refine printable_cons.mpr ⟨rfl, printable_cons.mpr ⟨?_, printable_of_isDigit hdigits⟩⟩
    cases down <;> rfl

theorem FloatText.printable (parts : FloatText) : Printable parts.text := by
  have hfraction := printable_of_isDigit parts.fraction_digits
  have hpointed : Printable (pointed parts.fraction) := by
    unfold pointed
    split
    · exact printable_of_all rfl
    · exact printable_cons.mpr ⟨rfl, hfraction⟩
  exact printable_append.mpr ⟨printable_of_isDigit parts.whole_digits,
    printable_append.mpr ⟨hpointed, parts.isPower.printable⟩⟩

theorem printable_writeFloat (x : Binary64) : Printable (writeFloat x) := by
  cases x with
  | nan => exact printable_of_all rfl
  | infinite negative => cases negative <;> exact printable_of_all rfl
  | finite negative mantissa exponent =>
    obtain ⟨parts, htext⟩ := exists_finiteText negative mantissa exponent
    rw [htext]
    exact printable_append.mpr ⟨printable_sign, parts.printable⟩

section

variable {inClass : Char → Bool} {layout : Layout}

/-- Whether printable characters and what a layout sets parts apart by are all in a class. -/
structure Layout.Covered (layout : Layout) (inClass : Char → Bool) : Prop where
  printable : ∀ c, isPrintable c = true → inClass c = true
  opening : ∀ depth, ∀ c ∈ layout.opening depth, inClass c = true
  between : ∀ depth, ∀ c ∈ layout.between depth, inClass c = true
  closing : ∀ depth, ∀ c ∈ layout.closing depth, inClass c = true

theorem Layout.Covered.text (h : layout.Covered inClass) {text : List Char}
    (htext : Printable text) : ∀ c ∈ text, inClass c = true :=
  fun c hc => h.printable c (htext c hc)

variable (hlayout : layout.Covered inClass)

include hlayout

mutual

theorem forall_mem_writeAt (depth : Nat) :
    ∀ value : Value, ∀ c ∈ writeAt layout depth value, inClass c = true
  | .null => by rw [writeAt]; exact hlayout.text (printable_of_all rfl)
  | .bool true => by rw [writeAt]; exact hlayout.text (printable_of_all rfl)
  | .bool false => by rw [writeAt]; exact hlayout.text (printable_of_all rfl)
  | .int n => by rw [writeAt]; exact hlayout.text (printable_integerText n)
  | .float x => by rw [writeAt]; exact hlayout.text (printable_writeFloat x)
  | .str text => by rw [writeAt]; exact hlayout.text (printable_writeString text)
  | .list [] => by rw [writeAt]; exact hlayout.text (printable_of_all rfl)
  | .list (item :: rest) => by
    simp only [writeAt, List.forall_mem_append, List.forall_mem_cons]
    exact ⟨⟨⟨⟨⟨hlayout.printable _ rfl, hlayout.opening depth⟩,
      forall_mem_writeAt (depth + 1) item⟩, forall_mem_writeItems depth rest⟩,
      hlayout.closing depth⟩, hlayout.printable _ rfl, List.forall_mem_nil _⟩
  | .object [] => by rw [writeAt]; exact hlayout.text (printable_of_all rfl)
  | .object ((name, value) :: rest) => by
    simp only [writeAt, List.forall_mem_append, List.forall_mem_cons]
    exact ⟨⟨⟨⟨⟨⟨⟨hlayout.printable _ rfl, hlayout.opening depth⟩,
      hlayout.text (printable_writeString name)⟩, hlayout.printable _ rfl, hlayout.printable _ rfl,
      List.forall_mem_nil _⟩, forall_mem_writeAt (depth + 1) value⟩,
      forall_mem_writeFields depth rest⟩, hlayout.closing depth⟩, hlayout.printable _ rfl,
      List.forall_mem_nil _⟩
  | .mapping [] => by rw [writeAt]; exact hlayout.text (printable_of_all rfl)
  | .mapping ((key, value) :: rest) => by
    simp only [writeAt, List.forall_mem_append, List.forall_mem_cons]
    exact ⟨⟨⟨⟨⟨⟨⟨hlayout.printable _ rfl, hlayout.opening depth⟩,
      hlayout.text (printable_writeString _)⟩, hlayout.printable _ rfl, hlayout.printable _ rfl,
      List.forall_mem_nil _⟩, forall_mem_writeAt (depth + 1) value⟩,
      forall_mem_writeEntries depth rest⟩, hlayout.closing depth⟩, hlayout.printable _ rfl,
      List.forall_mem_nil _⟩

theorem forall_mem_writeItems (depth : Nat) :
    ∀ items : List Value, ∀ c ∈ writeItems layout depth items, inClass c = true
  | [] => by rw [writeItems]; exact List.forall_mem_nil _
  | item :: rest => by
    simp only [writeItems, List.forall_mem_append]
    exact ⟨⟨hlayout.between depth, forall_mem_writeAt (depth + 1) item⟩,
      forall_mem_writeItems depth rest⟩

theorem forall_mem_writeFields (depth : Nat) :
    ∀ fields : List (Text × Value), ∀ c ∈ writeFields layout depth fields, inClass c = true
  | [] => by rw [writeFields]; exact List.forall_mem_nil _
  | (name, value) :: rest => by
    simp only [writeFields, List.forall_mem_append]
    exact ⟨⟨⟨⟨hlayout.between depth, hlayout.text (printable_writeString name)⟩,
      hlayout.text (printable_of_all rfl)⟩, forall_mem_writeAt (depth + 1) value⟩,
      forall_mem_writeFields depth rest⟩

theorem forall_mem_writeEntries (depth : Nat) :
    ∀ entries : List (Key × Value), ∀ c ∈ writeEntries layout depth entries, inClass c = true
  | [] => by rw [writeEntries]; exact List.forall_mem_nil _
  | (key, value) :: rest => by
    simp only [writeEntries, List.forall_mem_append]
    exact ⟨⟨⟨⟨hlayout.between depth, hlayout.text (printable_writeString _)⟩,
      hlayout.text (printable_of_all rfl)⟩, forall_mem_writeAt (depth + 1) value⟩,
      forall_mem_writeEntries depth rest⟩

end

end

/-- Whether a character is a printable one of ASCII or a line feed. -/
def isShown (c : Char) : Bool := c == '\n' || 32 ≤ c.toNat && c.toNat ≤ 126

def Shown (text : List Char) : Prop := ∀ c ∈ text, isShown c = true

theorem isShown_of_isPrintable {c : Char} (h : isPrintable c = true) : isShown c = true := by
  rw [isPrintable] at h
  rw [isShown, h, Bool.or_true]

theorem shown_lineBreak (count : Nat) : Shown ('\n' :: List.replicate count ' ') := by
  refine List.forall_mem_cons.mpr ⟨rfl, ?_⟩
  intro c hc
  rw [List.eq_of_mem_replicate hc]
  rfl

namespace Layout

theorem covered_isShown (layout : Layout) : layout.Covered isShown where
  printable _ := isShown_of_isPrintable
  opening depth := by
    cases layout with
    | line => exact List.forall_mem_nil _
    | indented => exact shown_lineBreak _
  between depth := by
    cases layout with
    | line => exact List.all_eq_true.mp rfl
    | indented => exact List.forall_mem_cons.mpr ⟨rfl, shown_lineBreak _⟩
  closing depth := by
    cases layout with
    | line => exact List.forall_mem_nil _
    | indented => exact shown_lineBreak _

/-- On one line the parts are set apart by printable characters. -/
theorem covered_line : line.Covered isPrintable where
  printable _ := id
  opening _ := List.forall_mem_nil _
  between _ := List.all_eq_true.mp rfl
  closing _ := List.forall_mem_nil _

end Layout

theorem shown_writeAt (layout : Layout) (depth : Nat) (value : Value) :
    Shown (writeAt layout depth value) :=
  forall_mem_writeAt layout.covered_isShown depth value

/-- What is written on one line has printable characters only. -/
theorem printable_write_line (value : Value) : Printable (write .line value).toList := by
  rw [write, String.toList_ofList]
  exact forall_mem_writeAt Layout.covered_line 0 value

/-- The bytes of a written value are read as the text that was written. -/
theorem ofBytes?_write (layout : Layout) (value : Value) :
    ofBytes? (write layout value).toUTF8 = some (write layout value) := by
  have hreturn : '\r' ∉ (write layout value).toList := by
    rw [write, String.toList_ofList]
    intro hmem
    exact absurd (shown_writeAt layout 0 value _ hmem) (by decide)
  have hdecoded : String.fromUTF8? (write layout value).toUTF8 = some (write layout value) := by
    simp only [String.fromUTF8?, String.toUTF8_eq_toByteArray,
      dif_pos (write layout value).isValidUTF8]
    rfl
  rw [ofBytes?, hdecoded, Option.map_some, unifyLines_eq_self _ hreturn, String.ofList_toList]

end HostLifecycle.Json
