import HostLifecycle.Clock.Instant
import HostLifecycle.Proofs.Json.Integers
import Mathlib.Data.Nat.Digits.Defs

/-!
Points in time and their texts. Every part of a text takes the same number of digits, so two
points in time with the same text are the same, as long as the year takes no more than four
digits. The other parts always fit.
-/

namespace HostLifecycle.Clock

open Number

theorem digitsValue_digits (width n : Nat) : Json.digitsValue (digits width n) = n := by
  have hzeros : ∀ count, Json.digitsValue (List.replicate count '0' ++ decimalDigits n) =
      Json.digitsValue (decimalDigits n) := by
    intro count
    induction count with
    | zero => rfl
    | succ count ih => exact ih
  rw [digits, padZeros, hzeros, Json.digitsValue_decimalDigits]

theorem digits_inj {width n m : Nat} (h : digits width n = digits width m) : n = m := by
  have hvalue := congrArg Json.digitsValue h
  rwa [digitsValue_digits, digitsValue_digits] at hvalue

theorem length_digits {width n : Nat} (hwidth : 0 < width) (h : n < 10 ^ width) :
    (digits width n).length = width := by
  have hfew : (decimalDigits n).length ≤ width := Nat.toDigits_length 10 n width hwidth h
  rw [digits, padZeros, List.length_append, List.length_replicate]
  omega

/-- Digits of one width are told apart from what stands behind them. -/
theorem digits_append_inj {width n m : Nat} {rest rest' : List Char} (hwidth : 0 < width)
    (hn : n < 10 ^ width) (hm : m < 10 ^ width)
    (h : digits width n ++ rest = digits width m ++ rest') : n = m ∧ rest = rest' := by
  have hlength : (digits width n).length = (digits width m).length := by
    rw [length_digits hwidth hn, length_digits hwidth hm]
  obtain ⟨hdigits, hrest⟩ := List.append_inj h hlength
  exact ⟨digits_inj hdigits, hrest⟩

/-- Whether the calendar reaches to a year. -/
def IsCalendarYear (year : Int) : Prop := 1 ≤ year ∧ year ≤ 9999

/-- A point in time whose parts have no more digits than are written. -/
structure Moment.Fits (moment : Moment) : Prop where
  year : IsCalendarYear moment.date.year
  month : moment.date.month < 100
  day : moment.date.day < 100
  hour : moment.hour < 100
  minute : moment.minute < 100
  second : moment.second < 100
  micros : moment.micros < 1000000

theorem month_dateOf (days : Int) : (dateOf days).month < 100 := by
  simp only [dateOf]
  have hday : ((days + 719468).fmod 146097).toNat < 146097 := by
    have hpositive := Int.fmod_lt_of_pos (days + 719468) (show (0 : Int) < 146097 by decide)
    omega
  generalize ((days + 719468).fmod 146097).toNat = day at hday
  generalize hyear : (day - day / 1460 + day / 36524 - day / 146096) / 365 = year
  have hdayOfYear : day - (365 * year + year / 4 - year / 100) < 600 := by omega
  split <;> omega

theorem day_dateOf (days : Int) : (dateOf days).day < 100 := by
  simp only [dateOf]
  omega

theorem fits_momentOf {micros : Int} (hyear : IsCalendarYear (momentOf micros).date.year) :
    (momentOf micros).Fits where
  year := hyear
  month := month_dateOf _
  day := day_dateOf _
  hour := by
    have hday := Int.fmod_lt_of_pos (micros.fdiv perSecond) (show (0 : Int) < 86400 by decide)
    simp only [momentOf]
    omega
  minute := by
    simp only [momentOf]
    omega
  second := by
    simp only [momentOf]
    omega
  micros := by
    have hpart := Int.fmod_lt_of_pos micros (show (0 : Int) < perSecond by decide)
    simp only [momentOf, perSecond] at hpart ⊢
    omega

/-- A point in time is told by its text. -/
theorem Moment.text_inj {first second : Moment} (hfirst : first.Fits) (hsecond : second.Fits)
    (h : first.text = second.text) : first = second := by
  have hyears : ∀ {moment : Moment}, moment.Fits → moment.date.year.toNat < 10 ^ 4 := by
    intro moment hfits
    have hupper := hfits.year.2
    omega
  simp only [text, Date.text, timeText, List.append_assoc, List.cons_append] at h
  obtain ⟨hyear, h⟩ := digits_append_inj (by decide) (hyears hfirst) (hyears hsecond) h
  obtain ⟨hmonth, h⟩ := digits_append_inj (by decide) hfirst.month hsecond.month (List.cons.inj h).2
  obtain ⟨hday, h⟩ := digits_append_inj (by decide) hfirst.day hsecond.day (List.cons.inj h).2
  obtain ⟨hhour, h⟩ := digits_append_inj (by decide) hfirst.hour hsecond.hour (List.cons.inj h).2
  obtain ⟨hminute, h⟩ := digits_append_inj (by decide) hfirst.minute hsecond.minute
    (List.cons.inj h).2
  obtain ⟨hinstant, h⟩ := digits_append_inj (by decide) hfirst.second hsecond.second
    (List.cons.inj h).2
  -- a fraction is written exactly where there is one
  have hmicros : first.micros = second.micros := by
    split at h <;> split at h
    next hnone hnone' => rw [hnone, hnone']
    next => cases h
    next => cases h
    next => exact digits_inj (List.cons.inj h).2
  have hpositive := hfirst.year.1
  have hpositive' := hsecond.year.1
  obtain ⟨⟨year, month, day⟩, hour, minute, instant, micros⟩ := first
  obtain ⟨⟨year', month', day'⟩, hour', minute', instant', micros'⟩ := second
  simp only at hyear hmonth hday hhour hminute hinstant hmicros hpositive hpositive'
  have hsame : year = year' := by omega
  subst hsame hmonth hday hhour hminute hinstant hmicros
  rfl

theorem Moment.zuluText_inj {first second : Moment} (hfirst : first.Fits) (hsecond : second.Fits)
    (h : first.zuluText = second.zuluText) : first = second :=
  text_inj hfirst hsecond (List.append_cancel_right (String.ofList_inj.mp h))

/-- A point in time is given wherever the calendar reaches to its year. -/
theorem momentOf?_of_year {micros : Int} (hyear : IsCalendarYear (momentOf micros).date.year) :
    momentOf? micros = .ok (momentOf micros) := by
  obtain ⟨hlower, hupper⟩ := hyear
  have hcountable : isCountable (momentOf micros).date.year = true := by
    simp only [isCountable, Bool.and_eq_true, decide_eq_true_eq]
    omega
  simp only [momentOf?, hcountable]
  split
  next hnone => cases hnone
  split
  next hbeyond => omega
  next => rfl

end HostLifecycle.Clock
