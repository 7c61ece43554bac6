import HostLifecycle.Proofs.Attempt
import HostLifecycle.Proofs.Json.ReadBack
import HostLifecycle.Proofs.Text.Halves
import HostLifecycle.Proofs.Value.Fields

/-!
What a reader of JSON may come to. Its texts hold no first half of a pair right before the second
one, as the two would have been read as one character, and the names of its objects are all
different. So what was read is written and read again without a change, as far as it is made of
texts.
-/

namespace HostLifecycle

open Text

namespace CodePoint

theorem isHighHalf_ofNat (n : Nat) : isHighHalf (ofNat n).toNat = isHighHalf n := by
  unfold ofNat
  split
  next h =>
    have hsame : 55296 + (n - 55296) = n := by omega
    simp [toNat, hsame]
  next h =>
    have hnone : isHighHalf n = false := by
      rw [← Bool.not_eq_true, isHighHalf_iff]
      omega
    rw [hnone]
    exact isHighHalf_char _

theorem isLowHalf_ofNat (n : Nat) : isLowHalf (ofNat n).toNat = isLowHalf n := by
  unfold ofNat
  split
  next h =>
    have hsame : 55296 + (n - 55296) = n := by omega
    simp [toNat, hsame]
  next h =>
    have hnone : isLowHalf n = false := by
      rw [← Bool.not_eq_true, isLowHalf_iff]
      omega
    rw [hnone]
    exact isLowHalf_char _

end CodePoint

namespace Json

/-- What one code point in front of others tells of the text that it was read from: the others
were read from a shorter text, no second half follows it there if it is a first half, and it is no
second half if the text does not begin with one. -/
structure FirstRead (text rest : List Char) (point : CodePoint) : Prop where
  shorter : rest.length < text.length
  behind : isHighHalf point.toNat = true → secondHalf? rest = .ok none
  start : secondHalf? text = .ok none → isLowHalf point.toNat = false

theorem firstRead_char {text rest : List Char} (hshorter : rest.length < text.length) (c : Char) :
    FirstRead text rest (.char c) := by
  refine ⟨hshorter, fun hhigh => ?_, fun _ => isLowHalf_char c⟩
  have hnone : isHighHalf (CodePoint.char c).toNat = false := isHighHalf_char c
  rw [hnone] at hhigh
  cases hhigh

theorem firstRead_unit {a b c d next : Char} {rest : List Char} {n : Nat}
    (hunit : unitValue? a b c d = some n)
    (hbehind : isHighHalf n = true → secondHalf? (next :: rest) = .ok none) :
    FirstRead ('\\' :: 'u' :: a :: b :: c :: d :: next :: rest) (next :: rest)
      (.ofNat n) := by
  refine ⟨by simp, ?_, ?_⟩
  · rw [CodePoint.isHighHalf_ofNat]
    exact hbehind
  · intro hstart
    rw [CodePoint.isLowHalf_ofNat]
    rw [secondHalf?, hunit] at hstart
    by_contra hlow
    simp [hlow] at hstart

theorem firstRead_pair {text rest : List Char} (hshorter : rest.length < text.length)
    (high low : Nat) : FirstRead text rest (.ofNat (ofHalves high low)) := by
  have hbeyond : ¬ (55296 ≤ ofHalves high low ∧ ofHalves high low < 57344) := by
    unfold ofHalves
    omega
  rw [CodePoint.ofNat, dif_neg hbeyond]
  exact firstRead_char hshorter _

/-- Reading goes on behind one code point. -/
theorem exists_of_prepend {opening : Nat} {text rest left : List Char} {point : CodePoint}
    {points : Text} (hfirst : FirstRead text rest point)
    (h : prepend point (readString opening rest) = .ok (points, left)) :
    ∃ rest point others, points = point :: others ∧ FirstRead text rest point ∧
      readString opening rest = .ok (others, left) := by
  obtain ⟨⟨others, behind⟩, hread, hsame⟩ := Attempt.exists_of_map_ok h
  cases hsame
  exact ⟨rest, point, others, rfl, hfirst, hread⟩

/-- A text is read as nothing, or as one code point in front of what the rest is read as. -/
theorem exists_of_readString {opening : Nat} {text left : List Char} {points : Text}
    (h : readString opening text = .ok (points, left)) :
    points = [] ∨ ∃ rest point others, points = point :: others ∧ FirstRead text rest point ∧
      readString opening rest = .ok (others, left) := by
  unfold readString at h
  split at h
  · cases h
  · cases h
    exact Or.inl rfl
  · cases h
  next a b c d next rest =>
    right
    split at h
    · cases h
    next n hunit =>
      cases hhigh : isHighHalf n with
      | false =>
        simp only [hhigh, Bool.false_eq_true, if_false, pure_bind, bind_eq_prepend] at h
        exact exists_of_prepend (firstRead_unit hunit fun hnone => by simp [hhigh] at hnone) h
      | true =>
        simp only [hhigh, if_true] at h
        obtain ⟨second, hsecond, h⟩ := Attempt.exists_of_bind_ok h
        cases second with
        | none =>
          simp only [bind_eq_prepend] at h
          exact exists_of_prepend (firstRead_unit hunit fun _ => hsecond) h
        | some low =>
          simp only at h
          split at h
          next behind =>
            rw [bind_eq_prepend] at h
            apply exists_of_prepend (firstRead_pair _ n low) h
            simp only [List.length_cons]
            omega
          · cases h
  · cases h
  next c rest _ _ =>
    right
    split at h
    · cases h
    next found _ =>
      rw [bind_eq_prepend] at h
      apply exists_of_prepend (firstRead_char _ found) h
      simp only [List.length_cons]
      omega
  next c rest _ _ _ _ _ =>
    right
    split at h
    · cases h
    · rw [bind_eq_prepend] at h
      exact exists_of_prepend (firstRead_char (by simp) c) h

/-- In a text that was read no first half of a pair stands right before the second one. -/
theorem unsplit_of_readString {opening : Nat} {text left : List Char} {points : Text}
    (h : readString opening text = .ok (points, left)) : points.Unsplit := by
  suffices hchain : points.IsChain CodePoint.Apart ∧
      (secondHalf? text = .ok none → ∀ y ∈ points.head?, isLowHalf y.toNat = false) from
    (unsplit_iff points).mpr hchain.1
  -- on the length of the text; what may stand first is what the code point in front asks for
  induction hlength : text.length using Nat.strongRecOn generalizing text points with
  | ind size ih =>
    rcases exists_of_readString h with rfl | ⟨rest, point, others, rfl, hfirst, hread⟩
    · exact ⟨.nil, fun _ y hy => by cases hy⟩
    · obtain ⟨hchain, hhead⟩ := ih rest.length (hlength ▸ hfirst.shorter) hread rfl
      constructor
      · rw [List.isChain_cons]
        refine ⟨fun second hsecond hpair => ?_, hchain⟩
        have hlow := hhead (hfirst.behind hpair.1) second hsecond
        rw [hpair.2] at hlow
        cases hlow
      · intro hstart y hy
        cases hy
        exact hfirst.start hstart

/-- A value as it is read: its texts are read back as they were written, and the names of each of
its objects are all different. -/
inductive Tidy : Value → Prop where
  | null : Tidy .null
  | bool (b : Bool) : Tidy (.bool b)
  | int (n : Int) : Tidy (.int n)
  | float (x : Number.Binary64) : Tidy (.float x)
  | str {text : Text} (htext : text.Unsplit) : Tidy (.str text)
  | list {items : List Value} (hitems : ∀ item ∈ items, Tidy item) : Tidy (.list items)
  | object {fields : Fields Value} (hnames : fields.names.Nodup)
      (hunsplit : ∀ field ∈ fields, field.1.Unsplit) (hfields : ∀ field ∈ fields, Tidy field.2) :
    Tidy (.object fields)

theorem tidy_ofPairs {pairs : Fields Value}
    (h : ∀ pair ∈ pairs, pair.1.Unsplit ∧ Tidy pair.2) :
    Tidy (.object (Fields.ofPairs pairs)) := by
  have hfields := Fields.forall_names_ofPairs h
  exact .object (Fields.nodup_names_ofPairs pairs) (fun field hfield => (hfields field hfield).1)
    fun field hfield => (hfields field hfield).2

/-- A number is an integer or a floating-point number, whatever tells the two apart. -/
theorem tidy_number {missing whole long : Prop} [Decidable missing] [Decidable whole]
    [Decidable long] {refusal : Refusal} {n : Int} {x : Number.Binary64} {behind left : List Char}
    {value : Value}
    (h : (if missing then none else some (if whole then
        if long then .error refusal else .ok (.int n, behind) else .ok (.float x, behind))) =
      some (Except.ok (value, left))) : Tidy value := by
  by_cases hmissing : missing
  · rw [if_pos hmissing] at h
    cases h
  rw [if_neg hmissing] at h
  have hread := Option.some.inj h
  split at hread
  · split at hread
    · cases hread
    · cases hread
      exact .int n
  · cases hread
    exact .float x

theorem tidy_readNumber {text left : List Char} {value : Value}
    (h : readNumber text = some (.ok (value, left))) : Tidy value := by
  unfold readNumber at h
  exact tidy_number h

theorem tidy_readPlain {text left : List Char} {value : Value}
    (h : readPlain text = .ok (value, left)) : Tidy value := by
  unfold readPlain at h
  split at h
  next found hword =>
    cases h
    obtain ⟨⟨word, read⟩, hmember, hfound⟩ := List.exists_of_findSome?_eq_some hword
    have hvalue : value = read := by
      simp only at hfound
      split at hfound
      · cases hfound; rfl
      · cases hfound
    rw [hvalue]
    simp only [words, List.mem_cons, Prod.mk.injEq, List.not_mem_nil, or_false] at hmember
    rcases hmember with ⟨-, rfl⟩ | ⟨-, rfl⟩ | ⟨-, rfl⟩ | ⟨-, rfl⟩ | ⟨-, rfl⟩ | ⟨-, rfl⟩
    · exact .null
    · exact .bool _
    · exact .bool _
    · exact .float _
    · exact .float _
    · exact .float _
  next =>
    cases hnumber : readNumber text with
    | none => rw [hnumber] at h; cases h
    | some result =>
      rw [hnumber, Option.getD_some] at h
      exact tidy_readNumber (h ▸ hnumber)

/-- Whatever is read in a number of steps is tidy: a value, the items of a list, and the fields of
an object. -/
structure ReadsTidy (fuel : Nat) : Prop where
  value : ∀ {levels text value left}, readValue fuel levels text = .ok (value, left) → Tidy value
  items : ∀ {levels text items left}, readItems fuel levels text = .ok (items, left) →
    ∀ item ∈ items, Tidy item
  fields : ∀ {levels text fields left}, readFields fuel levels text = .ok (fields, left) →
    ∀ field ∈ fields, field.1.Unsplit ∧ Tidy field.2

namespace ReadsTidy

variable {fuel levels : Nat} {text left : List Char}

theorem readValue (h : ReadsTidy fuel) {value : Value}
    (hread : readValue (fuel + 1) levels text = .ok (value, left)) : Tidy value := by
  unfold Json.readValue at hread
  split at hread
  · obtain ⟨⟨points, behind⟩, hpoints, hsame⟩ := Attempt.exists_of_bind_ok hread
    cases hsame
    exact .str (unsplit_of_readString hpoints)
  · split at hread
    · cases hread
    · cases hread
      exact .list (List.forall_mem_nil _)
    · obtain ⟨⟨items, behind⟩, hitems, hsame⟩ := Attempt.exists_of_bind_ok hread
      cases hsame
      exact .list (h.items hitems)
  · split at hread
    · cases hread
    · cases hread
      exact .object List.nodup_nil (List.forall_mem_nil _) (List.forall_mem_nil _)
    · obtain ⟨⟨pairs, behind⟩, hpairs, hsame⟩ := Attempt.exists_of_bind_ok hread
      cases hsame
      exact tidy_ofPairs (h.fields hpairs)
  · exact tidy_readPlain hread

theorem readItems (h : ReadsTidy fuel) {items : List Value}
    (hread : readItems (fuel + 1) levels text = .ok (items, left)) :
    ∀ item ∈ items, Tidy item := by
  unfold Json.readItems at hread
  obtain ⟨⟨item, behind⟩, hitem, hread⟩ := Attempt.exists_of_bind_ok hread
  simp only at hread
  split at hread
  · cases hread
    exact List.forall_mem_singleton.mpr (h.value hitem)
  · obtain ⟨⟨others, behind⟩, hothers, hsame⟩ := Attempt.exists_of_bind_ok hread
    cases hsame
    exact List.forall_mem_cons.mpr ⟨h.value hitem, h.items hothers⟩
  · cases hread

theorem readFields (h : ReadsTidy fuel) {fields : List (Text × Value)}
    (hread : readFields (fuel + 1) levels text = .ok (fields, left)) :
    ∀ field ∈ fields, field.1.Unsplit ∧ Tidy field.2 := by
  unfold Json.readFields at hread
  split at hread
  · obtain ⟨⟨name, behind⟩, hname, hread⟩ := Attempt.exists_of_bind_ok hread
    simp only at hread
    split at hread
    · obtain ⟨⟨value, behind⟩, hvalue, hread⟩ := Attempt.exists_of_bind_ok hread
      have hfield := And.intro (unsplit_of_readString hname) (h.value hvalue)
      simp only at hread
      split at hread
      · cases hread
        exact List.forall_mem_singleton.mpr hfield
      · obtain ⟨⟨others, behind⟩, hothers, hsame⟩ := Attempt.exists_of_bind_ok hread
        cases hsame
        exact List.forall_mem_cons.mpr ⟨hfield, h.fields hothers⟩
      · cases hread
    · cases hread
  · cases hread

end ReadsTidy

theorem readsTidy (fuel : Nat) : ReadsTidy fuel := by
  induction fuel with
  | zero =>
    constructor
    · intro levels text value left h
      rw [readValue] at h
      cases h
    · intro levels text items left h
      rw [readItems] at h
      cases h
    · intro levels text fields left h
      rw [readFields] at h
      cases h
  | succ fuel ih => exact ⟨ih.readValue, ih.readItems, ih.readFields⟩

/-- A value that was read is tidy. -/
theorem tidy_of_read {text : String} {value : Value} (h : read text = .ok value) :
    Tidy value := by
  unfold read readAll at h
  split at h
  · cases h
  · obtain ⟨⟨found, left⟩, hread, h⟩ := Attempt.exists_of_bind_ok h
    simp only at h
    split at h
    · cases h
      exact (readsTidy _).value hread
    · cases h

/-- An object of texts, with different names, that is read back as it was written. -/
inductive TextObject : Value → Prop where
  | mk {fields : Fields Value} (htidy : Tidy (.object fields))
      (htexts : ∀ field ∈ fields, ∃ text, field.2 = .str text) : TextObject (.object fields)

theorem readBackFields_eq {levels : Nat} {fields : Fields Value}
    (hnames : ∀ field ∈ fields, field.1.Unsplit)
    (h : ∀ field ∈ fields, readBack levels field.2 = .ok field.2) :
    readBackFields levels fields = .ok fields := by
  induction fields with
  | nil => rfl
  | cons field rest ih =>
    obtain ⟨name, value⟩ := field
    rw [List.forall_mem_cons] at hnames h
    have hname : name.joined = name := hnames.1
    rw [readBackFields, h.1, ih hnames.2 h.2, hname]
    rfl

theorem readBackItems_eq {levels : Nat} {items : List Value}
    (h : ∀ item ∈ items, readBack levels item = .ok item) :
    readBackItems levels items = .ok items := by
  induction items with
  | nil => rfl
  | cons item rest ih =>
    rw [List.forall_mem_cons] at h
    rw [readBackItems, h.1, ih h.2]
    rfl

/-- An object is read back as it was written if its entries are. -/
theorem readBack_object_eq {levels : Nat} {fields : Fields Value} (hnames : fields.names.Nodup)
    (hunsplit : ∀ field ∈ fields, field.1.Unsplit)
    (h : ∀ field ∈ fields, readBack levels field.2 = .ok field.2) :
    readBack (levels + 1) (.object fields) = .ok (.object fields) := by
  rw [readBack, readBackFields_eq hunsplit h]
  simp only [Except.map, Fields.ofPairs_of_nodup hnames]

theorem readBack_str_eq {text : Text} (h : text.Unsplit) (levels : Nat) :
    readBack levels (.str text) = .ok (.str text) := by
  have hkept : text.joined = text := h
  rw [readBack, hkept]

theorem TextObject.readBack_eq {value : Value} (h : TextObject value) (levels : Nat) :
    readBack (levels + 1) value = .ok value := by
  obtain @⟨fields, htidy, htexts⟩ := h
  cases htidy with
  | object hnames hunsplit hfields =>
    apply readBack_object_eq hnames hunsplit
    intro field hfield
    obtain ⟨text, htext⟩ := htexts field hfield
    have htidy := hfields field hfield
    rw [htext] at htidy ⊢
    cases htidy with
    | str hunsplit => exact readBack_str_eq hunsplit levels

/-- A list of objects of texts is written and read again without a change. -/
theorem read_write_list (layout : Layout) {items : List Value}
    (h : ∀ item ∈ items, TextObject item) :
    read (write layout (.list items)) = .ok (.list items) := by
  have hread := readBackItems_eq fun item hitem => (h item hitem).readBack_eq 985
  rw [read_write, maximalLevels, readBack, hread]
  rfl

end Json

end HostLifecycle
