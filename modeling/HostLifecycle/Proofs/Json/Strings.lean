import HostLifecycle.Json.Printer
import HostLifecycle.Json.Reader

/-!
What a written text is read back as. Every code point is read back from its escape, but
where the first half of a pair stands right before the second one, the two are read as the
character that they are the halves of.
-/

namespace HostLifecycle

namespace Text

/-- A text with both halves of every pair put together. -/
def joined : Text → Text
  | [] => []
  | [point] => [point]
  | first :: second :: rest =>
    if isHighHalf first.toNat && isLowHalf second.toNat then
      CodePoint.ofNat (ofHalves first.toNat second.toNat) :: joined rest
    else first :: joined (second :: rest)

theorem toNat_lt_of_half (n : Fin 2048) : (CodePoint.half n).toNat < 65536 := by
  have hn := n.isLt
  simp only [CodePoint.toNat]
  omega

theorem isHighHalf_iff {n : Nat} : isHighHalf n = true ↔ 55296 ≤ n ∧ n ≤ 56319 := by
  simp [isHighHalf]

theorem isLowHalf_iff {n : Nat} : isLowHalf n = true ↔ 56320 ≤ n ∧ n ≤ 57343 := by
  simp [isLowHalf]

/-- The range of a character, which is never half of a pair. -/
theorem toNat_char_range (c : Char) :
    c.toNat < 1114112 ∧ (c.toNat < 55296 ∨ 57343 < c.toNat) := by
  have hvalid := c.valid
  simp only [UInt32.isValidChar, Nat.isValidChar, UInt32.toNat] at hvalid
  simp only [Char.toNat, UInt32.toNat]
  omega

theorem isHighHalf_char (c : Char) : isHighHalf c.toNat = false := by
  have hrange := toNat_char_range c
  rw [← Bool.not_eq_true, isHighHalf_iff]
  omega

theorem isLowHalf_char (c : Char) : isLowHalf c.toNat = false := by
  have hrange := toNat_char_range c
  rw [← Bool.not_eq_true, isLowHalf_iff]
  omega

theorem isHighHalf_highHalf {n : Nat} (hbeyond : 65536 ≤ n) (hsize : n < 1114112) :
    isHighHalf (highHalf n) = true := by
  rw [isHighHalf_iff, highHalf]
  omega

theorem isLowHalf_lowHalf (n : Nat) : isLowHalf (lowHalf n) = true := by
  rw [isLowHalf_iff, lowHalf]
  omega

/-- A text without halves stays as it is. -/
theorem joined_ofChars (chars : List Char) : joined (ofChars chars) = ofChars chars := by
  induction chars with
  | nil => rfl
  | cons c rest ih =>
    cases rest with
    | nil => rfl
    | cons d rest =>
      have hhigh : isHighHalf (CodePoint.char c).toNat = false := isHighHalf_char c
      simp only [ofChars, List.map_cons, joined, hhigh, Bool.false_and, Bool.false_eq_true,
        if_false] at ih ⊢
      rw [ih]

end Text

namespace Json

open Text

theorem hexValue?_hexDigit : ∀ n, n < 16 → hexValue? (hexDigit n) = some n := by
  decide

theorem hexText_four (n : Nat) : hexText 4 n =
    [hexDigit (n / 4096 % 16), hexDigit (n / 256 % 16), hexDigit (n / 16 % 16),
      hexDigit (n % 16)] := by
  simp only [hexText, List.nil_append, List.cons_append, Nat.div_div_eq_div_mul]

theorem unitValue?_hexDigit {n : Nat} (h : n < 65536) :
    unitValue? (hexDigit (n / 4096 % 16)) (hexDigit (n / 256 % 16)) (hexDigit (n / 16 % 16))
      (hexDigit (n % 16)) = some n := by
  have hdigit : ∀ k, hexValue? (hexDigit (k % 16)) = some (k % 16) := fun k =>
    hexValue?_hexDigit _ (Nat.mod_lt k (by decide))
  simp only [unitValue?, hdigit, bind, Option.bind, pure, Option.some.injEq]
  omega

/-- A code point in front of what the rest of a string is read as. -/
def prepend (point : CodePoint) (run : Except Refusal (Text × List Char)) :
    Except Refusal (Text × List Char) :=
  run.map fun found => (point :: found.1, found.2)

theorem bind_eq_prepend (point : CodePoint) (run : Except Refusal (Text × List Char)) :
    (do
      let (chars, left) ← run
      pure (point :: chars, left)) = prepend point run := by
  cases run <;> rfl

variable (opening : Nat)

theorem readString_quote (rest : List Char) :
    readString opening ('"' :: rest) = .ok ([], rest) := by
  rw [readString]

theorem readString_plain {c : Char} (hquote : c ≠ '"') (hslash : c ≠ '\\')
    (hprinted : 32 ≤ c.toNat) (rest : List Char) :
    readString opening (c :: rest) = prepend (.char c) (readString opening rest) := by
  rw [readString]
  · rw [if_neg (by omega), ← bind_eq_prepend]
  all_goals simp_all

theorem readString_short {letter c : Char} (hletter : letter ≠ 'u')
    (hmeaning : unescape? letter = some c) (rest : List Char) :
    readString opening ('\\' :: letter :: rest) =
      prepend (.char c) (readString opening rest) := by
  rw [readString]
  · simp only [hmeaning, bind_eq_prepend]
  all_goals simp_all

theorem secondHalf?_unitEscape {n : Nat} (h : n < 65536) (next : Char) (rest : List Char) :
    secondHalf? (unitEscape n ++ next :: rest) =
      .ok (if isLowHalf n then some n else none) := by
  simp only [unitEscape, hexText_four, List.cons_append, List.nil_append, secondHalf?,
    unitValue?_hexDigit h]

/-- A unit that is not put together with what follows it is a code point of its own. -/
theorem readString_unit {n : Nat} (h : n < 65536) (next : Char) (rest : List Char)
    (hnext : isHighHalf n = true → secondHalf? (next :: rest) = .ok none) :
    readString opening (unitEscape n ++ next :: rest) =
      prepend (CodePoint.ofNat n) (readString opening (next :: rest)) := by
  simp only [unitEscape, hexText_four, List.cons_append, List.nil_append]
  rw [readString]
  simp only [unitValue?_hexDigit h]
  cases hhigh : isHighHalf n with
  | false => exact bind_eq_prepend _ _
  | true =>
    simp only [if_true, hnext hhigh]
    exact bind_eq_prepend _ _

/-- A first half and the second one behind it are one code point. -/
theorem readString_pair {high low : Nat} (hhigh : isHighHalf high = true)
    (hlow : isLowHalf low = true) (next : Char) (rest : List Char) :
    readString opening (unitEscape high ++ (unitEscape low ++ next :: rest)) =
      prepend (CodePoint.ofNat (ofHalves high low)) (readString opening (next :: rest)) := by
  have hhighLt : high < 65536 := by
    have hrange := isHighHalf_iff.mp hhigh
    omega
  have hlowLt : low < 65536 := by
    have hrange := isLowHalf_iff.mp hlow
    omega
  have hsecond := secondHalf?_unitEscape hlowLt next rest
  simp only [unitEscape, hexText_four, List.cons_append, List.nil_append] at hsecond ⊢
  rw [readString]
  simp only [unitValue?_hexDigit hhighLt, hhigh, if_true, hsecond, hlow]
  exact bind_eq_prepend _ _

/-- Every code point is read back from its escape, if it is not put together with what
follows it. -/
theorem readString_escape (point : CodePoint) (next : Char) (rest : List Char)
    (hnext : isHighHalf point.toNat = true → secondHalf? (next :: rest) = .ok none) :
    readString opening (escape point ++ next :: rest) =
      prepend point (readString opening (next :: rest)) := by
  cases point with
  | half n =>
    have hunit := readString_unit opening (toNat_lt_of_half n) next rest hnext
    rw [CodePoint.ofNat_toNat] at hunit
    exact hunit
  | char c =>
    simp only [escape, escapeChar]
    split
    next h => subst h; exact readString_short opening (by decide) rfl _
    split
    next h => subst h; exact readString_short opening (by decide) rfl _
    split
    next h => subst h; exact readString_short opening (by decide) rfl _
    split
    next h => subst h; exact readString_short opening (by decide) rfl _
    split
    next h => subst h; exact readString_short opening (by decide) rfl _
    split
    next h => subst h; exact readString_short opening (by decide) rfl _
    split
    next h => subst h; exact readString_short opening (by decide) rfl _
    split
    next hquote hslash _ _ _ _ _ hprinted =>
      exact readString_plain opening hquote hslash hprinted.1 _
    split
    next hbasic =>
      have hunit := readString_unit opening hbasic next rest hnext
      rw [show CodePoint.ofNat c.toNat = .char c from CodePoint.ofNat_toNat (.char c)] at hunit
      exact hunit
    next hbeyond =>
      have hhigh := isHighHalf_highHalf (Nat.le_of_not_lt hbeyond) (toNat_char_range c).1
      have hlow := isLowHalf_lowHalf c.toNat
      have hpair := readString_pair opening hhigh hlow next rest
      rw [ofHalves_halves _ (by omega),
        show CodePoint.ofNat c.toNat = .char c from CodePoint.ofNat_toNat (.char c)] at hpair
      rw [List.append_assoc]
      exact hpair

/-- What follows a first half is no second half, unless its code point is one. -/
theorem secondHalf?_escape {point : CodePoint} (hpoint : isLowHalf point.toNat = false)
    (next : Char) (rest : List Char) :
    secondHalf? (escape point ++ next :: rest) = .ok none := by
  cases point with
  | half n =>
    have hsecond := secondHalf?_unitEscape (toNat_lt_of_half n) next rest
    rw [hpoint] at hsecond
    exact hsecond
  | char c =>
    simp only [escape, escapeChar]
    split
    next => rfl
    split
    next => rfl
    split
    next => rfl
    split
    next => rfl
    split
    next => rfl
    split
    next => rfl
    split
    next => rfl
    split
    next hslash _ _ _ _ _ _ =>
      simp only [List.cons_append, List.nil_append]
      rw [secondHalf?]
      intro a b c d next' rest' heq
      exact absurd (List.cons.inj heq).1 hslash
    split
    next hbasic =>
      rw [secondHalf?_unitEscape hbasic, isLowHalf_char]
      rfl
    next hbeyond =>
      have hhigh := isHighHalf_iff.mp
        (isHighHalf_highHalf (Nat.le_of_not_lt hbeyond) (toNat_char_range c).1)
      have hlow : isLowHalf (highHalf c.toNat) = false := by
        rw [← Bool.not_eq_true, isLowHalf_iff]
        omega
      have hescape : unitEscape (lowHalf c.toNat) = '\\' :: 'u' :: hexText 4 (lowHalf c.toNat) :=
        rfl
      rw [List.append_assoc, hescape, List.cons_append,
        secondHalf?_unitEscape (by omega), hlow]
      rfl

theorem writeString_append (text : Text) (rest : List Char) :
    writeString text ++ rest = '"' :: (text.flatMap escape ++ '"' :: rest) := by
  simp [writeString]

/-- Whatever text is written, a code point or the closing quote stands at its front. -/
theorem exists_cons_flatMap (text : Text) (rest : List Char) :
    ∃ next behind, text.flatMap escape ++ '"' :: rest = next :: behind := by
  cases h : text.flatMap escape with
  | nil => exact ⟨'"', rest, rfl⟩
  | cons next behind => exact ⟨next, behind ++ '"' :: rest, rfl⟩

/-- A written text is read back with its halves put together. -/
theorem readString_flatMap (text : Text) (rest : List Char) :
    readString opening (text.flatMap escape ++ '"' :: rest) = .ok (text.joined, rest) := by
  induction text using joined.induct with
  | case1 => exact readString_quote opening rest
  | case2 point =>
    rw [List.flatMap_singleton, readString_escape opening point _ _ fun _ => rfl,
      readString_quote]
    rfl
  | case3 first second behind hpair ih =>
    obtain ⟨hhigh, hlow⟩ := (Bool.and_eq_true _ _).mp hpair
    obtain ⟨next, left, hleft⟩ := exists_cons_flatMap behind rest
    have hfirst : escape first = unitEscape first.toNat := by
      cases first with
      | half n => rfl
      | char c => exact absurd ((isHighHalf_char c).symm.trans hhigh) nofun
    have hsecond : escape second = unitEscape second.toNat := by
      cases second with
      | half n => rfl
      | char c => exact absurd ((isLowHalf_char c).symm.trans hlow) nofun
    rw [List.flatMap_cons, List.flatMap_cons, List.append_assoc, List.append_assoc, hleft,
      hfirst, hsecond, readString_pair opening hhigh hlow, ← hleft, ih, joined, if_pos hpair]
    rfl
  | case4 first second behind hpair ih =>
    obtain ⟨next, left, hleft⟩ := exists_cons_flatMap behind rest
    obtain ⟨follower, left', hleft'⟩ := exists_cons_flatMap (second :: behind) rest
    have hnext : isHighHalf first.toNat = true → secondHalf? (follower :: left') = .ok none := by
      intro hhigh
      have hlow : isLowHalf second.toNat = false := by
        simpa [hhigh] using hpair
      rw [← hleft', List.flatMap_cons, List.append_assoc, hleft]
      exact secondHalf?_escape hlow next left
    rw [List.flatMap_cons, List.append_assoc, hleft', readString_escape opening first _ _ hnext,
      ← hleft', ih, joined, if_neg hpair]
    rfl

end Json

end HostLifecycle
