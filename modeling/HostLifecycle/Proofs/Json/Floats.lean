import HostLifecycle.Proofs.Json.Integers
import HostLifecycle.Json.Printer

/-!
What a written floating-point number is read as. Its text is whole digits, perhaps a point
and more digits, and perhaps an exponent, and it is read as one number that ends where the
text does. Nothing is said here of which number that is.
-/

namespace HostLifecycle

namespace Number

theorem digits_ne_zero_of_readsBack {mantissa : Nat} {exponent : Int} {x : Decimal}
    (hmantissa : mantissa ≠ 0) (h : readsBack mantissa exponent x = true) : x.digits ≠ 0 := by
  intro hzero
  have hgrid : 0 < (onGrid 1 (exponent - 2) x.power).1 := by
    simp only [onGrid, Nat.one_mul]
    exact Nat.mul_pos (Nat.pow_pos (by decide)) (Nat.pow_pos (by decide))
  have hlow : ∀ low, 2 ≤ low → 0 < low * (onGrid 1 (exponent - 2) x.power).1 :=
    fun low hlow => Nat.mul_pos (by omega) hgrid
  simp only [readsBack, hzero, Nat.zero_mul, Bool.and_eq_true, Bool.or_eq_true] at h
  obtain ⟨habove, -⟩ := h
  split at habove
  · have hpositive := hlow (4 * mantissa - 1) (by omega)
    simp at habove
    omega
  · have hpositive := hlow (4 * mantissa - 2) (by omega)
    simp at habove
    omega

theorem digits_dropZeros {fuel : Nat} {x : Decimal} (h : x.digits ≠ 0) :
    (dropZeros fuel x).digits ≠ 0 := by
  induction fuel generalizing x with
  | zero => exact h
  | succ fuel ih =>
    unfold dropZeros
    split
    next hends =>
      simp only [Bool.and_eq_true, decide_eq_true_eq] at hends
      apply ih
      simp only
      omega
    next => exact h

/-- Either the shortest decimal has digits that are no zero, or it is zero itself, in whose
text nothing follows the zero. -/
theorem shortest_cases {mantissa : Nat} (exponent : Int) (hmantissa : mantissa ≠ 0) :
    (shortest mantissa exponent).digits ≠ 0 ∨ shortest mantissa exponent = ⟨0, 0⟩ := by
  have hshortest : shortest mantissa exponent = dropZeros 20
      (((List.range 17).findSome? fun i =>
        candidate? mantissa exponent (scaleOf mantissa exponent) (i + 1)).getD ⟨0, 0⟩) := rfl
  rw [hshortest]
  cases hfound : (List.range 17).findSome? fun i =>
      candidate? mantissa exponent (scaleOf mantissa exponent) (i + 1) with
  | none =>
    right
    decide
  | some x =>
    left
    obtain ⟨i, -, hcandidate⟩ := List.exists_of_findSome?_eq_some hfound
    have hreads : readsBack mantissa exponent x = true := List.find?_some hcandidate
    apply digits_dropZeros
    exact digits_ne_zero_of_readsBack hmantissa hreads

end Number

namespace Json

open Number

/-- Digits behind a point, or nothing if there are none. -/
def pointed (fraction : List Char) : List Char :=
  if fraction.isEmpty then [] else '.' :: fraction

/-- The text of an exponent of ten, or nothing: a letter, a sign and digits. -/
inductive IsPower : List Char → Bool → List Char → Prop where
  | absent : IsPower [] false []
  | present (down : Bool) {digits : List Char} (hsome : digits ≠ [])
      (hdigits : ∀ c ∈ digits, c.isDigit = true) :
    IsPower ('e' :: (if down then '-' else '+') :: digits) down digits

variable {rest : List Char}

theorem IsPower.exponentDigits_eq {power digits : List Char} {down : Bool}
    (h : IsPower power down digits) (hrest : EndsNumber rest) :
    exponentDigits (power ++ rest) = (down, digits, power.length) := by
  cases h with
  | absent => exact exponentDigits_of_ends hrest
  | present _ hsome hdigits =>
    have htake := takeWhile_digits hdigits hrest
    have hkept : digits.isEmpty = false := List.isEmpty_eq_false_iff.mpr hsome
    cases down <;> simp [exponentDigits, htake, hkept] <;> omega

/-- Behind a power stands no digit and no point. -/
theorem IsPower.ends {power digits : List Char} {down : Bool} (h : IsPower power down digits)
    (hrest : EndsNumber rest) : ∀ c behind, power ++ rest = c :: behind →
      c.isDigit = false ∧ c ≠ '.' := by
  intro c behind htext
  cases h with
  | absent =>
    obtain ⟨hdigit, hpoint, -⟩ := hrest c behind htext
    exact ⟨hdigit, hpoint⟩
  | present =>
    cases htext
    decide

/-- The text of a number that is not read as an integer, part by part. -/
structure FloatText where
  whole : List Char
  fraction : List Char
  power : List Char
  down : Bool
  exponent : List Char
  whole_head : ∃ d others, whole = d :: others ∧ (d = '0' → others = [])
  whole_digits : ∀ c ∈ whole, c.isDigit = true
  fraction_digits : ∀ c ∈ fraction, c.isDigit = true
  isPower : IsPower power down exponent
  isFloat : fraction ≠ [] ∨ exponent ≠ []

namespace FloatText

/-- The text of a number without an exponent. -/
def plain (whole fraction : List Char)
    (hhead : ∃ d others, whole = d :: others ∧ (d = '0' → others = []))
    (hwhole : ∀ c ∈ whole, c.isDigit = true) (hfraction : ∀ c ∈ fraction, c.isDigit = true)
    (hsome : fraction ≠ []) : FloatText where
  whole := whole
  fraction := fraction
  power := []
  down := false
  exponent := []
  whole_head := hhead
  whole_digits := hwhole
  fraction_digits := hfraction
  isPower := .absent
  isFloat := Or.inl hsome

variable (parts : FloatText)

def text : List Char := parts.whole ++ (pointed parts.fraction ++ parts.power)

def value (negative : Bool) : Binary64 :=
  let power : Int := digitsValue parts.exponent
  .ofDecimal negative (digitsValue (parts.whole ++ parts.fraction))
    ((if parts.down then -power else power) - parts.fraction.length)

theorem wholeDigits_text (hrest : EndsNumber rest) :
    wholeDigits (parts.text ++ rest) = parts.whole := by
  obtain ⟨d, others, hwhole, hzero⟩ := parts.whole_head
  have hstop : ∀ c behind, pointed parts.fraction ++ (parts.power ++ rest) = c :: behind →
      c.isDigit = false := by
    intro c behind htext
    unfold pointed at htext
    split at htext
    · exact (parts.isPower.ends hrest c behind htext).1
    · cases htext
      rfl
  have htake := takeWhile_digits_of_stop parts.whole_digits hstop
  rw [text, List.append_assoc, List.append_assoc]
  by_cases hd : d = '0'
  · rw [hwhole, hzero hd, hd]
    rfl
  · rw [hwhole] at htake ⊢
    rw [List.cons_append, wholeDigits, ← List.cons_append, htake]
    intro behind heq
    exact hd (List.cons.inj heq).1

theorem fractionDigits_text (hrest : EndsNumber rest) :
    fractionDigits (pointed parts.fraction ++ (parts.power ++ rest)) = parts.fraction := by
  have hends := parts.isPower.ends hrest
  unfold pointed
  split
  next hnone =>
    rw [List.isEmpty_iff.mp hnone, List.nil_append]
    unfold fractionDigits
    split
    next behind heq => exact absurd rfl (hends '.' behind heq).2
    next => rfl
  next =>
    exact takeWhile_digits_of_stop parts.fraction_digits fun c behind htext =>
      (hends c behind htext).1

theorem drop_pointed (fraction behind : List Char) :
    (if fraction.isEmpty then pointed fraction ++ behind
      else (pointed fraction ++ behind).drop (1 + fraction.length)) = behind := by
  cases fraction with
  | nil => rfl
  | cons d others =>
    simp only [pointed, List.isEmpty_cons, Bool.false_eq_true, if_false, List.cons_append,
      Nat.add_comm 1, List.drop_succ_cons]
    exact List.drop_left

/-- The number is read up to the end of its text, whatever stands behind it. -/
theorem readNumber_text (negative : Bool) (hrest : EndsNumber rest) :
    readNumber ((if negative then ['-'] else []) ++ (parts.text ++ rest)) =
      some (.ok (.float (parts.value negative), rest)) := by
  have hwhole := parts.wholeDigits_text hrest
  have hfraction := parts.fractionDigits_text hrest
  have hexponent := parts.isPower.exponentDigits_eq hrest
  obtain ⟨d, others, hhead, -⟩ := parts.whole_head
  have hsome : parts.whole.isEmpty = false := by
    rw [hhead]
    rfl
  have hfloat : (parts.fraction.isEmpty && parts.exponent.isEmpty) = false := by
    rcases parts.isFloat with hkept | hkept
    · simp [hkept]
    · simp [hkept]
  have hbehind : (parts.text ++ rest).drop parts.whole.length =
      pointed parts.fraction ++ (parts.power ++ rest) := by
    rw [text, List.append_assoc, List.append_assoc]
    exact List.drop_left
  have hsign : ∀ behind, parts.text ++ rest = '-' :: behind → False := by
    intro behind heq
    rw [text, hhead, List.cons_append] at heq
    have hdigit := parts.whole_digits d (by rw [hhead]; exact List.mem_cons_self)
    rw [(List.cons.inj heq).1] at hdigit
    cases hdigit
  unfold readNumber
  cases negative <;>
    simp only [Bool.false_eq_true, if_true, if_false, List.cons_append, List.nil_append, hwhole,
      hsome, hbehind, hfraction, drop_pointed, hexponent, hfloat, List.drop_left, value]

end FloatText

theorem isDigit_zeros (count : Nat) : ∀ c ∈ List.replicate count '0', c.isDigit = true := by
  intro c hc
  rw [List.eq_of_mem_replicate hc]
  rfl

theorem isPower_exponentText (exponent : Int) :
    ∃ down digits, IsPower ('e' :: exponentText exponent) down digits ∧ digits ≠ [] := by
  have hsome : padZeros 2 (decimalDigits exponent.natAbs) ≠ [] := by
    obtain ⟨d, others, hdigits, -, -⟩ := exists_decimalDigits exponent.natAbs
    rw [padZeros, hdigits]
    exact List.append_ne_nil_of_right_ne_nil _ (List.cons_ne_nil _ _)
  have hdigits : ∀ c ∈ padZeros 2 (decimalDigits exponent.natAbs), c.isDigit = true := by
    intro c hc
    rcases List.mem_append.mp hc with hzero | hdigit
    · exact isDigit_zeros _ c hzero
    · exact isDigit_decimalDigits _ c hdigit
  refine ⟨decide (exponent < 0), _, ?_, hsome⟩
  have hpower := IsPower.present (decide (exponent < 0)) hsome hdigits
  simpa [exponentText] using hpower

section

variable {digits : List Char} (hdigits : ∀ c ∈ digits, c.isDigit = true)

include hdigits

theorem exists_smallText (hsome : digits ≠ []) (count : Nat) : ∃ parts : FloatText,
    '0' :: '.' :: List.replicate count '0' ++ digits = parts.text := by
  have hall : ∀ c ∈ List.replicate count '0' ++ digits, c.isDigit = true := by
    intro c hc
    rcases List.mem_append.mp hc with hzero | hdigit
    · exact isDigit_zeros count c hzero
    · exact hdigits c hdigit
  have hfraction : List.replicate count '0' ++ digits ≠ [] :=
    List.append_ne_nil_of_right_ne_nil _ hsome
  refine ⟨.plain ['0'] _ ⟨'0', [], rfl, fun _ => rfl⟩ (isDigit_zeros 1) hall hfraction, ?_⟩
  simp [FloatText.text, FloatText.plain, pointed, hsome]

theorem exists_wholeText {count : Nat}
    (hhead : ∃ d others, digits = d :: others ∧ (d = '0' → others = [] ∧ count = 0)) :
    ∃ parts : FloatText, digits ++ List.replicate count '0' ++ ['.', '0'] = parts.text := by
  have hwhole : ∃ d others, digits ++ List.replicate count '0' = d :: others ∧
      (d = '0' → others = []) := by
    obtain ⟨d, others, rfl, hzero⟩ := hhead
    refine ⟨d, others ++ List.replicate count '0', rfl, ?_⟩
    intro hd
    obtain ⟨rfl, rfl⟩ := hzero hd
    rfl
  have hall : ∀ c ∈ digits ++ List.replicate count '0', c.isDigit = true := by
    intro c hc
    rcases List.mem_append.mp hc with hdigit | hzero
    · exact hdigits c hdigit
    · exact isDigit_zeros count c hzero
  refine ⟨.plain _ ['0'] hwhole hall (isDigit_zeros 1) (List.cons_ne_nil _ _), ?_⟩
  simp [FloatText.text, FloatText.plain, pointed]

theorem exists_insideText
    (hhead : ∃ d others, digits = d :: others ∧ (d = '0' → others = [])) {k : Nat}
    (hk : k + 1 < digits.length) : ∃ parts : FloatText,
    digits.take (k + 1) ++ '.' :: digits.drop (k + 1) = parts.text := by
  have hwhole : ∃ d others, digits.take (k + 1) = d :: others ∧ (d = '0' → others = []) := by
    obtain ⟨d, others, rfl, hzero⟩ := hhead
    refine ⟨d, others.take k, List.take_succ_cons, ?_⟩
    intro hd
    rw [hzero hd, List.take_nil]
  have hfraction : digits.drop (k + 1) ≠ [] := by
    rw [ne_eq, List.drop_eq_nil_iff]
    omega
  refine ⟨.plain _ _ hwhole (fun c hc => hdigits c (List.mem_of_mem_take hc))
    (fun c hc => hdigits c (List.mem_of_mem_drop hc)) hfraction, ?_⟩
  simp [FloatText.text, FloatText.plain, pointed, hfraction]

theorem exists_powerText (hsome : digits ≠ []) (power : Int) : ∃ parts : FloatText,
    digits.take 1 ++ (if (digits.drop 1).isEmpty then [] else '.' :: digits.drop 1) ++
      'e' :: exponentText power = parts.text := by
  obtain ⟨down, exponent, hpower, hexponent⟩ := isPower_exponentText power
  have hhead : ∃ d others, digits.take 1 = d :: others ∧ (d = '0' → others = []) := by
    obtain ⟨d, others, rfl⟩ := List.exists_cons_of_ne_nil hsome
    exact ⟨d, [], rfl, fun _ => rfl⟩
  exact ⟨{
    whole := digits.take 1
    fraction := digits.drop 1
    power := _
    down := down
    exponent := exponent
    whole_head := hhead
    whole_digits := fun c hc => hdigits c (List.mem_of_mem_take hc)
    fraction_digits := fun c hc => hdigits c (List.mem_of_mem_drop hc)
    isPower := hpower
    isFloat := Or.inr hexponent }, by simp [FloatText.text, pointed]⟩

end

/-- A decimal is written as the text of a number that is no integer. -/
theorem exists_floatText {x : Decimal} (hx : x.digits ≠ 0 ∨ x = ⟨0, 0⟩) :
    ∃ parts : FloatText, decimalText x = parts.text := by
  obtain ⟨d, others, hdigits, -, hzero⟩ := exists_decimalDigits x.digits
  have hall := isDigit_decimalDigits x.digits
  have hsome : decimalDigits x.digits ≠ [] := by
    rw [hdigits]
    exact List.cons_ne_nil d others
  unfold decimalText
  dsimp only
  split
  next hrange =>
    split
    next hsmall => exact exists_smallText hall hsome _
    next =>
      split
      next hwhole =>
        apply exists_wholeText hall
        refine ⟨d, others, hdigits, ?_⟩
        intro hd
        obtain ⟨hnone, hothers⟩ := hzero hd
        rcases hx with hx | rfl
        · exact absurd hnone hx
        · exact ⟨hothers, rfl⟩
      next hinside =>
        obtain ⟨k, hk⟩ : ∃ k, ((decimalDigits x.digits).length + x.power : Int).toNat = k + 1 :=
          ⟨((decimalDigits x.digits).length + x.power : Int).toNat - 1, by omega⟩
        rw [hk]
        exact exists_insideText hall ⟨d, others, hdigits, fun hd => (hzero hd).2⟩ (by omega)
  next => exact exists_powerText hall hsome _

/-- The text of a finite number: a sign and the text of a number that is no integer. -/
theorem exists_finiteText (negative : Bool) (mantissa : Nat) (exponent : Int) :
    ∃ parts : FloatText, writeFloat (.finite negative mantissa exponent) =
      (if negative then ['-'] else []) ++ parts.text := by
  have htext : writeFloat (.finite negative mantissa exponent) =
      (if negative then ['-'] else []) ++
        (if mantissa = 0 then ['0', '.', '0'] else decimalText (shortest mantissa exponent)) :=
    String.toList_ofList
  rw [htext]
  by_cases hmantissa : mantissa = 0
  · refine ⟨.plain ['0'] ['0'] ⟨'0', [], rfl, fun _ => rfl⟩ (isDigit_zeros 1) (isDigit_zeros 1)
      (List.cons_ne_nil _ _), ?_⟩
    rw [if_pos hmantissa]
    rfl
  · obtain ⟨parts, hparts⟩ := exists_floatText (shortest_cases exponent hmantissa)
    refine ⟨parts, ?_⟩
    rw [if_neg hmantissa, hparts]

theorem startsNumber_text (parts : FloatText) (negative : Bool) (behind : List Char) :
    StartsNumber ((if negative then ['-'] else []) ++ (parts.text ++ behind)) := by
  obtain ⟨d, others, hhead, -⟩ := parts.whole_head
  have hd : d.isDigit = true := parts.whole_digits d (by rw [hhead]; exact List.mem_cons_self)
  rw [FloatText.text, hhead]
  cases negative with
  | true => exact ⟨'-', _, rfl, Or.inr ⟨rfl, d, _, rfl, hd⟩⟩
  | false => exact ⟨d, _, rfl, Or.inl hd⟩

/-- A floating-point number as it is read back. -/
def readBackFloat (x : Binary64) : Value :=
  match readPlain (writeFloat x) with
  | .ok (value, _) => value
  | .error _ => .float x

/-- A floating-point number is read up to the end of its text. -/
theorem readPlain_float (x : Binary64) (hrest : EndsNumber rest) :
    readPlain (writeFloat x ++ rest) = .ok (readBackFloat x, rest) := by
  suffices hread : ∃ value, ∀ behind, EndsNumber behind →
      readPlain (writeFloat x ++ behind) = .ok (value, behind) by
    obtain ⟨value, hvalue⟩ := hread
    have hwhole := hvalue [] endsNumber_nil
    rw [List.append_nil] at hwhole
    rw [hvalue rest hrest, readBackFloat, hwhole]
  cases x with
  | nan => exact ⟨.float .nan, fun _ _ => rfl⟩
  | infinite negative =>
    refine ⟨.float (.infinite negative), fun _ _ => ?_⟩
    cases negative <;> rfl
  | finite negative mantissa exponent =>
    obtain ⟨parts, htext⟩ := exists_finiteText negative mantissa exponent
    refine ⟨.float (parts.value negative), fun behind hbehind => ?_⟩
    have hword := readWord_of_startsNumber (startsNumber_text parts negative behind)
    have hnumber := parts.readNumber_text negative hbehind
    rw [htext, List.append_assoc, readPlain, hword, hnumber]
    rfl

end Json

end HostLifecycle
