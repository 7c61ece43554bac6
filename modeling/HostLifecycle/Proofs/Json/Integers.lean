import HostLifecycle.Json.Reader

/-!
What a written integer is read back as: itself, unless it has more digits than are
converted. The number ends where its digits do, as long as nothing follows that would go
on with it.
-/

namespace HostLifecycle.Json

open Number

/-- What stands behind a number does not go on with it: it starts with no digit, no point
and no exponent. -/
def EndsNumber (rest : List Char) : Prop :=
  ∀ c behind, rest = c :: behind → c.isDigit = false ∧ c ≠ '.' ∧ c ≠ 'e' ∧ c ≠ 'E'

theorem endsNumber_nil : EndsNumber [] := by
  intro c behind h
  cases h

theorem endsNumber_cons {c : Char} {behind : List Char} (hdigit : c.isDigit = false)
    (hpoint : c ≠ '.') (hlower : c ≠ 'e') (hupper : c ≠ 'E') : EndsNumber (c :: behind) := by
  intro d rest h
  cases h
  exact ⟨hdigit, hpoint, hlower, hupper⟩

variable {rest : List Char}

theorem takeWhile_digits_of_stop {digits : List Char} (hdigits : ∀ c ∈ digits, c.isDigit = true)
    (hstop : ∀ c behind, rest = c :: behind → c.isDigit = false) :
    (digits ++ rest).takeWhile Char.isDigit = digits := by
  rw [List.takeWhile_append_of_pos hdigits]
  cases rest with
  | nil => simp
  | cons c behind => simp [hstop c behind rfl]

theorem takeWhile_digits {digits : List Char} (hdigits : ∀ c ∈ digits, c.isDigit = true)
    (hrest : EndsNumber rest) : (digits ++ rest).takeWhile Char.isDigit = digits :=
  takeWhile_digits_of_stop hdigits fun c behind htext => (hrest c behind htext).1

theorem isDigit_decimalDigits (n : Nat) : ∀ c ∈ decimalDigits n, c.isDigit = true :=
  fun _ hc => Nat.isDigit_of_mem_toDigits (by decide) (by decide) hc

theorem decimalDigits_zero : decimalDigits 0 = ['0'] :=
  Nat.toDigits_zero 10

/-- The first digit of a number is zero only for zero itself. -/
theorem head_decimalDigits {n : Nat} (hn : n ≠ 0) {c : Char} {digits : List Char}
    (h : decimalDigits n = c :: digits) : c ≠ '0' := by
  induction n using Nat.strongRecOn generalizing c digits with
  | ind n ih =>
    by_cases hsmall : n < 10
    · rw [decimalDigits, Nat.toDigits_of_lt_base hsmall] at h
      cases h
      intro hzero
      have hvalue := Nat.toNat_digitChar_sub_48_of_lt_ten hsmall
      rw [hzero] at hvalue
      exact hn hvalue.symm
    · have hquotient : n / 10 ≠ 0 := by omega
      rw [decimalDigits, Nat.toDigits_of_base_le (by decide) (by omega)] at h
      cases hhead : decimalDigits (n / 10) with
      | nil => exact absurd hhead Nat.toDigits_ne_nil
      | cons d others =>
        have hd := ih (n / 10) (by omega) hquotient hhead
        rw [decimalDigits] at hhead
        rw [hhead] at h
        cases h
        exact hd

/-- A number starts with a digit, and with a zero only if it is zero. -/
theorem exists_decimalDigits (n : Nat) : ∃ d others, decimalDigits n = d :: others ∧
    d.isDigit = true ∧ (d = '0' → n = 0 ∧ others = []) := by
  obtain ⟨d, others, hdigits⟩ := List.exists_cons_of_ne_nil
    (Nat.toDigits_ne_nil (n := n) (b := 10))
  have hd : d.isDigit = true :=
    isDigit_decimalDigits n d (by rw [decimalDigits, hdigits]; exact .head _)
  refine ⟨d, others, hdigits, hd, ?_⟩
  intro hzero
  by_cases hn : n = 0
  · have hnone := decimalDigits_zero
    rw [← hn, decimalDigits, hdigits] at hnone
    exact ⟨hn, (List.cons.inj hnone).2⟩
  · exact absurd hzero (head_decimalDigits hn hdigits)

theorem wholeDigits_decimalDigits (n : Nat) (hrest : EndsNumber rest) :
    wholeDigits (decimalDigits n ++ rest) = decimalDigits n := by
  by_cases hn : n = 0
  · subst hn
    rw [decimalDigits_zero]
    rfl
  · cases hdigits : decimalDigits n with
    | nil => exact absurd hdigits Nat.toDigits_ne_nil
    | cons c others =>
      have hc := head_decimalDigits hn hdigits
      have htake := takeWhile_digits (isDigit_decimalDigits n) hrest
      rw [hdigits] at htake
      rw [List.cons_append, wholeDigits, ← List.cons_append, htake]
      intro behind heq
      exact hc (List.cons.inj heq).1

theorem fractionDigits_of_ends (hrest : EndsNumber rest) : fractionDigits rest = [] := by
  unfold fractionDigits
  split
  next behind => exact absurd rfl (hrest '.' behind rfl).2.1
  next => rfl

theorem exponentDigits_of_ends (hrest : EndsNumber rest) :
    exponentDigits rest = (false, [], 0) := by
  cases rest with
  | nil => rfl
  | cons c behind =>
    obtain ⟨-, -, hlower, hupper⟩ := hrest c behind rfl
    simp [exponentDigits, hlower, hupper]

theorem digitsValue_decimalDigits (n : Nat) : digitsValue (decimalDigits n) = n := by
  have hfold : digitsValue (decimalDigits n) = Nat.ofDigitChars 10 (Nat.toDigits 10 n) 0 := by
    rw [Nat.ofDigitChars_eq_foldl]
    rfl
  rw [hfold, Nat.ofDigitChars_ten_toDigits]

/-- An integer as it is read back. -/
def readBackInt (n : Int) : Except Refusal Value :=
  if (decimalDigits n.natAbs).length > maximalDigits then
    .error (.tooManyDigits (decimalDigits n.natAbs).length)
  else .ok (.int n)

theorem toList_integerText (n : Int) : (integerText n).toList =
    (if n < 0 then ['-'] else []) ++ decimalDigits n.natAbs :=
  String.toList_ofList

/-- An integer is read back from its digits and the sign in front of them. -/
theorem readNumber_integer (n : Int) (hrest : EndsNumber rest) :
    readNumber ((integerText n).toList ++ rest) =
      some ((readBackInt n).map fun value => (value, rest)) := by
  have hwhole := wholeDigits_decimalDigits n.natAbs hrest
  have hsome : (decimalDigits n.natAbs).isEmpty = false := by
    rw [List.isEmpty_eq_false_iff]
    exact Nat.toDigits_ne_nil
  have hvalue := digitsValue_decimalDigits n.natAbs
  rw [toList_integerText]
  unfold readNumber readBackInt
  by_cases hn : n < 0
  · have hsigned : -(n.natAbs : Int) = n := by omega
    simp only [hn, if_true, List.cons_append, List.nil_append, hwhole, hsome,
      Bool.false_eq_true, if_false, List.drop_left, fractionDigits_of_ends hrest,
      List.isEmpty_nil, exponentDigits_of_ends hrest, Bool.and_self, List.drop_zero, hvalue,
      hsigned]
    split <;> rfl
  · have hsigned : (n.natAbs : Int) = n := by omega
    rw [if_neg hn, List.nil_append]
    split
    next negative unsigned hsign =>
      split at hsign
      next behind heq =>
        obtain ⟨c, others, hdigits, hc, -⟩ := exists_decimalDigits n.natAbs
        rw [hdigits] at heq
        cases heq
        cases hc
      next =>
        cases hsign
        simp only [hwhole, hsome, Bool.false_eq_true, if_false, List.drop_left,
          fractionDigits_of_ends hrest, List.isEmpty_nil, if_true, exponentDigits_of_ends hrest,
          Bool.and_self, List.drop_zero, hvalue, hsigned]
        split <;> rfl

/-- A text that starts with a digit, or with a sign in front of one. -/
def StartsNumber (text : List Char) : Prop :=
  ∃ c behind, text = c :: behind ∧
    (c.isDigit = true ∨ c = '-' ∧ ∃ d left, behind = d :: left ∧ d.isDigit = true)

theorem ne_of_isDigit {letter c : Char} (hletter : letter.isDigit = false)
    (hc : c.isDigit = true) : letter ≠ c := by
  rintro rfl
  rw [hletter] at hc
  cases hc

theorem StartsNumber.ne {c letter : Char} {behind : List Char} (h : StartsNumber (c :: behind))
    (hletter : letter.isDigit = false) (hminus : letter ≠ '-') : c ≠ letter := by
  obtain ⟨d, left, htext, hd | ⟨rfl, -⟩⟩ := h
  · rw [(List.cons.inj htext).1]
    exact (ne_of_isDigit hletter hd).symm
  · rw [(List.cons.inj htext).1]
    exact hminus.symm

theorem readWord_of_startsNumber {text : List Char} (h : StartsNumber text) :
    readWord text = none := by
  obtain ⟨c, behind, rfl, hhead⟩ := h
  rcases hhead with hc | ⟨rfl, d, left, rfl, hd⟩
  · have hn : 'n' ≠ c := ne_of_isDigit rfl hc
    have ht : 't' ≠ c := ne_of_isDigit rfl hc
    have hf : 'f' ≠ c := ne_of_isDigit rfl hc
    have hN : 'N' ≠ c := ne_of_isDigit rfl hc
    have hI : 'I' ≠ c := ne_of_isDigit rfl hc
    have hminus : '-' ≠ c := ne_of_isDigit rfl hc
    simp [readWord, words, hn, ht, hf, hN, hI, hminus]
  · have hI : 'I' ≠ d := ne_of_isDigit rfl hd
    simp [readWord, words, hI]

theorem startsNumber_integer (n : Int) (rest : List Char) :
    StartsNumber ((integerText n).toList ++ rest) := by
  obtain ⟨d, others, hdigits, hd, -⟩ := exists_decimalDigits n.natAbs
  rw [toList_integerText, hdigits]
  split
  · exact ⟨'-', _, rfl, Or.inr ⟨rfl, d, _, rfl, hd⟩⟩
  · exact ⟨d, _, rfl, Or.inl hd⟩

end HostLifecycle.Json
