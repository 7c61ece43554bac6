import HostLifecycle.Proofs.Json.Floats
import HostLifecycle.Proofs.Json.Strings

/-!
What a written value is read back as. A value is read back part by part: texts with their
halves put together, the fields of an object one after the other, and a value that holds too
many digits or too many levels not at all. The text ends where the value does, whatever stands
behind it and however its parts are set apart.
-/

namespace HostLifecycle

namespace Json

open Number

mutual

/-- A value as it is read back from its written form, with containers of at most so many
levels. -/
def readBack : (levels : Nat) → Value → Except Refusal Value
  | _, .int n => readBackInt n
  | _, .float x => .ok (readBackFloat x)
  | _, .str text => .ok (.str text.joined)
  | 0, .list _ => .error (.tooDeep .list)
  | levels + 1, .list items => (readBackItems levels items).map .list
  | 0, .object _ => .error (.tooDeep .object)
  | levels + 1, .object fields =>
    (readBackFields levels fields).map fun pairs => .object (Fields.ofPairs pairs)
  | 0, .mapping _ => .error (.tooDeep .object)
  | levels + 1, .mapping entries =>
    (readBackEntries levels entries).map fun pairs => .object (Fields.ofPairs pairs)
  | _, value => .ok value
termination_by structural _ value => value

def readBackItems (levels : Nat) : List Value → Except Refusal (List Value)
  | [] => .ok []
  | item :: rest => do
    let item ← readBack levels item
    let rest ← readBackItems levels rest
    pure (item :: rest)
termination_by structural items => items

def readBackFields (levels : Nat) :
    List (Text × Value) → Except Refusal (List (Text × Value))
  | [] => .ok []
  | (name, value) :: rest => do
    let value ← readBack levels value
    let rest ← readBackFields levels rest
    pure ((name.joined, value) :: rest)
termination_by structural fields => fields

/-- The entries of a mapping as they are read back, each under the name of its key. -/
def readBackEntries (levels : Nat) :
    List (Key × Value) → Except Refusal (List (Text × Value))
  | [] => .ok []
  | (key, value) :: rest => do
    let value ← readBack levels value
    let rest ← readBackEntries levels rest
    pure (((nameOf key).joined, value) :: rest)
termination_by structural entries => entries

end

/-- The entries of a mapping as fields, each under the name of its key. -/
def namedFields (entries : Entries Value) : List (Text × Value) :=
  entries.map fun entry => (nameOf entry.1, entry.2)

theorem writeEntries_eq (layout : Layout) (depth : Nat) (entries : Entries Value) :
    writeEntries layout depth entries = writeFields layout depth (namedFields entries) := by
  induction entries with
  | nil => rfl
  | cons entry rest ih =>
    rw [writeEntries, ih]
    rfl

/-- A mapping is written as the object of its names is. -/
theorem writeAt_mapping (layout : Layout) (depth : Nat) (entries : Entries Value) :
    writeAt layout depth (.mapping entries) =
      writeAt layout depth (.object (namedFields entries)) := by
  cases entries with
  | nil => rfl
  | cons entry rest =>
    rw [writeAt, writeEntries_eq]
    rfl

theorem readBackEntries_eq (levels : Nat) (entries : Entries Value) :
    readBackEntries levels entries = readBackFields levels (namedFields entries) := by
  induction entries with
  | nil => rfl
  | cons entry rest ih =>
    rw [readBackEntries, ih]
    rfl

theorem readBack_mapping (levels : Nat) (entries : Entries Value) :
    readBack levels (.mapping entries) = readBack levels (.object (namedFields entries)) := by
  cases levels with
  | zero => rfl
  | succ levels =>
    simp only [readBack, readBackEntries_eq]

theorem skipGap_append {gap : List Char} (hgap : ∀ c ∈ gap, isGap c = true)
    (text : List Char) : skipGap (gap ++ text) = skipGap text := by
  induction gap with
  | nil => rfl
  | cons c gap ih =>
    have hc := hgap c List.mem_cons_self
    have htail := ih fun d hd => hgap d (List.mem_cons_of_mem c hd)
    rw [skipGap, List.cons_append, List.dropWhile_cons, if_pos hc]
    exact htail

theorem skipGap_cons {c : Char} (hc : isGap c = false) (text : List Char) :
    skipGap (c :: text) = c :: text := by
  rw [skipGap, List.dropWhile_cons, hc]
  rfl

theorem isGap_replicate (count : Nat) : ∀ c ∈ List.replicate count ' ', isGap c = true := by
  intro c hc
  rw [List.eq_of_mem_replicate hc]
  rfl

theorem isGap_lineBreak (count : Nat) :
    ∀ c ∈ '\n' :: List.replicate count ' ', isGap c = true := by
  intro c hc
  rcases List.mem_cons.mp hc with rfl | hc
  · rfl
  · exact isGap_replicate count c hc

theorem isGap_opening (layout : Layout) (depth : Nat) :
    ∀ c ∈ layout.opening depth, isGap c = true := by
  cases layout with
  | line => exact nofun
  | indented => exact isGap_lineBreak _

theorem isGap_closing (layout : Layout) (depth : Nat) :
    ∀ c ∈ layout.closing depth, isGap c = true := by
  cases layout with
  | line => exact nofun
  | indented => exact isGap_lineBreak _

/-- Between two parts stands a comma with a gap behind it. -/
theorem exists_between (layout : Layout) (depth : Nat) :
    ∃ gap, (∀ c ∈ gap, isGap c = true) ∧ layout.between depth = ',' :: gap := by
  cases layout with
  | line => exact ⟨[' '], isGap_replicate 1, rfl⟩
  | indented => exact ⟨_, isGap_lineBreak _, rfl⟩

theorem endsNumber_closing (layout : Layout) (depth : Nat) {c : Char} (hc : EndsNumber [c])
    (rest : List Char) : EndsNumber (layout.closing depth ++ c :: rest) := by
  cases layout with
  | line =>
    obtain ⟨hdigit, hpoint, hlower, hupper⟩ := hc c [] rfl
    exact endsNumber_cons hdigit hpoint hlower hupper
  | indented => exact endsNumber_cons rfl (by decide) (by decide) (by decide)

theorem readPlain_integer (n : Int) {rest : List Char} (hrest : EndsNumber rest) :
    readPlain ((integerText n).toList ++ rest) =
      (readBackInt n).map fun value => (value, rest) := by
  rw [readPlain, readWord_of_startsNumber (startsNumber_integer n rest),
    readNumber_integer n hrest]
  rfl

theorem readPlain_null (rest : List Char) :
    readPlain ("null".toList ++ rest) = .ok (.null, rest) := by
  simp [readPlain, readWord, words, ← String.length_toList]

theorem readPlain_true (rest : List Char) :
    readPlain ("true".toList ++ rest) = .ok (.bool true, rest) := by
  simp [readPlain, readWord, words, ← String.length_toList]

theorem readPlain_false (rest : List Char) :
    readPlain ("false".toList ++ rest) = .ok (.bool false, rest) := by
  simp [readPlain, readWord, words, ← String.length_toList]

theorem readValue_plain (fuel levels : Nat) {c : Char} (hquote : c ≠ '"') (hlist : c ≠ '[')
    (hobject : c ≠ '\x7b') (rest : List Char) :
    readValue (fuel + 1) levels (c :: rest) = readPlain (c :: rest) := by
  rw [readValue]
  all_goals simp_all

theorem exists_head_of_startsNumber {text : List Char} (h : StartsNumber text) :
    ∃ c behind, text = c :: behind ∧ isGap c = false ∧ c ≠ ']' ∧ c ≠ '\ufeff' := by
  obtain ⟨c, behind, rfl, -⟩ := id h
  have hother : ∀ letter : Char, letter.isDigit = false → letter ≠ '-' → c ≠ letter :=
    fun _ => h.ne
  refine ⟨c, behind, rfl, ?_, hother ']' rfl (by decide), hother '\ufeff' rfl (by decide)⟩
  simp [isGap, hother ' ' rfl (by decide), hother '\t' rfl (by decide),
    hother '\n' rfl (by decide), hother '\r' rfl (by decide)]

/-- A written value starts with a character that is neither a gap nor the end of a list nor
a byte order mark. -/
theorem exists_head (layout : Layout) (depth : Nat) (value : Value) :
    ∃ c behind, writeAt layout depth value = c :: behind ∧
      isGap c = false ∧ c ≠ ']' ∧ c ≠ '\ufeff' := by
  cases value with
  | null => exact ⟨'n', _, rfl, rfl, by decide⟩
  | bool b =>
    cases b with
    | true => exact ⟨'t', _, rfl, rfl, by decide⟩
    | false => exact ⟨'f', _, rfl, rfl, by decide⟩
  | int n =>
    have hstart := startsNumber_integer n []
    rw [List.append_nil] at hstart
    exact exists_head_of_startsNumber hstart
  | float x =>
    cases x with
    | nan => exact ⟨'N', _, rfl, rfl, by decide⟩
    | infinite negative =>
      cases negative with
      | true => exact ⟨'-', _, rfl, rfl, by decide⟩
      | false => exact ⟨'I', _, rfl, rfl, by decide⟩
    | finite negative mantissa exponent =>
      obtain ⟨parts, htext⟩ := exists_finiteText negative mantissa exponent
      have hstart := startsNumber_text parts negative []
      rw [List.append_nil, ← htext] at hstart
      exact exists_head_of_startsNumber hstart
  | str text => exact ⟨'"', _, rfl, rfl, by decide⟩
  | list items => cases items <;> exact ⟨'[', _, rfl, rfl, by decide⟩
  | object fields =>
    rcases fields with _ | ⟨⟨name, value⟩, rest⟩ <;> exact ⟨'\x7b', _, rfl, rfl, by decide⟩
  | mapping entries =>
    rcases entries with _ | ⟨⟨key, value⟩, rest⟩ <;> exact ⟨'\x7b', _, rfl, rfl, by decide⟩

/-- A value is read back from its written form, whatever stands behind it, as long as the
steps of the search do not end before the written form does. -/
def ReadsBack (layout : Layout) (value : Value) : Prop :=
  ∀ depth fuel levels rest, EndsNumber rest → (writeAt layout depth value).length < fuel →
    readValue fuel levels (writeAt layout depth value ++ rest) =
      (readBack levels value).map fun found => (found, rest)

/-- A gap in front of a written value is skipped, and nothing of the value. -/
theorem skipGap_writeAt (layout : Layout) (depth : Nat) {gap : List Char}
    (hgap : ∀ c ∈ gap, isGap c = true) (value : Value)
    (text : List Char) : skipGap (gap ++ (writeAt layout depth value ++ text)) =
      writeAt layout depth value ++ text := by
  obtain ⟨c, behind, htext, hc, -, -⟩ := exists_head layout depth value
  rw [skipGap_append hgap, htext, List.cons_append, skipGap_cons hc]

/-- A gap in front of a written name is skipped, and nothing of the name. -/
theorem skipGap_writeString {gap : List Char} (hgap : ∀ c ∈ gap, isGap c = true) (name : Text)
    (text : List Char) :
    skipGap (gap ++ (writeString name ++ text)) = writeString name ++ text := by
  rw [skipGap_append hgap, writeString_append]
  exact skipGap_cons rfl _

/-- What stands behind an item of a list. -/
theorem exists_behind_item (layout : Layout) (depth : Nat) (rest : List Value)
    (tail : List Char) :
    EndsNumber (writeItems layout depth rest ++ (layout.closing depth ++ ']' :: tail)) := by
  cases rest with
  | nil => exact endsNumber_closing layout depth (endsNumber_cons rfl (by decide) (by decide)
      (by decide)) tail
  | cons item rest =>
    obtain ⟨gap, -, hbetween⟩ := exists_between layout depth
    rw [writeItems, hbetween]
    exact endsNumber_cons rfl (by decide) (by decide) (by decide)

/-- Reading an item, and then what stands behind it. -/
theorem readItems_item (layout : Layout) (depth fuel levels : Nat) {item : Value}
    (hitem : ReadsBack layout item) {rest : List Char} (hrest : EndsNumber rest)
    (hfuel : (writeAt layout (depth + 1) item).length < fuel) :
    readItems (fuel + 1) levels (writeAt layout (depth + 1) item ++ rest) =
      (do
        let found ← readBack levels item
        match skipGap rest with
        | ']' :: left => pure ([found], left)
        | ',' :: left =>
          let (items, left) ← readItems fuel levels (skipGap left)
          pure (found :: items, left)
        | left => .error (.defect .expectedComma left.length)) := by
  rw [readItems, hitem (depth + 1) fuel levels rest hrest hfuel]
  cases readBack levels item <;> rfl

theorem readItems_write (layout : Layout) (depth : Nat) (tail : List Char) (rest : List Value) :
    ∀ (item : Value) (fuel levels : Nat), (∀ value ∈ item :: rest, ReadsBack layout value) →
    (writeAt layout (depth + 1) item ++ writeItems layout depth rest).length + 1 < fuel →
    readItems fuel levels (writeAt layout (depth + 1) item ++
        (writeItems layout depth rest ++ (layout.closing depth ++ ']' :: tail))) =
      (readBackItems levels (item :: rest)).map fun found => (found, tail) := by
  induction rest with
  | nil =>
    intro item fuel levels hitems hfuel
    cases fuel with
    | zero => exact absurd hfuel (Nat.not_lt_zero _)
    | succ fuel =>
      rw [List.length_append] at hfuel
      rw [readItems_item layout depth fuel levels (hitems item List.mem_cons_self)
        (exists_behind_item layout depth [] tail) (by omega), readBackItems]
      cases readBack levels item with
      | error refusal => rfl
      | ok found =>
        have hgap := skipGap_append (isGap_closing layout depth) (']' :: tail)
        simp only [Except.map, bind, Except.bind, writeItems, List.nil_append, hgap,
          skipGap_cons (show isGap ']' = false from rfl), readBackItems, pure, Except.pure]
  | cons next rest ih =>
    intro item fuel levels hitems hfuel
    cases fuel with
    | zero => exact absurd hfuel (Nat.not_lt_zero _)
    | succ fuel =>
      obtain ⟨gap, hgap, hbetween⟩ := exists_between layout depth
      have hrest := ih next fuel levels
        (fun value hvalue => hitems value (List.mem_cons_of_mem item hvalue)) (by
          simp only [writeItems, hbetween, List.length_append, List.length_cons] at hfuel ⊢
          omega)
      have hskip := skipGap_writeAt layout (depth + 1) hgap next
        (writeItems layout depth rest ++ (layout.closing depth ++ ']' :: tail))
      rw [List.length_append] at hfuel
      rw [readItems_item layout depth fuel levels (hitems item List.mem_cons_self)
        (exists_behind_item layout depth (next :: rest) tail) (by omega), readBackItems]
      cases readBack levels item with
      | error refusal => rfl
      | ok found =>
        simp only [Except.map, bind, Except.bind, writeItems, hbetween, List.cons_append,
          List.append_assoc, skipGap_cons (show isGap ',' = false from rfl), hskip, hrest]
        cases readBackItems levels (next :: rest) with
        | error refusal => rfl
        | ok others => rfl

/-- What stands behind a field of an object. -/
theorem exists_behind_field (layout : Layout) (depth : Nat) (rest : List (Text × Value))
    (tail : List Char) :
    EndsNumber (writeFields layout depth rest ++
      (layout.closing depth ++ '\x7d' :: tail)) := by
  rcases rest with _ | ⟨⟨name, value⟩, rest⟩
  · exact endsNumber_closing layout depth (endsNumber_cons rfl (by decide) (by decide)
      (by decide)) tail
  · obtain ⟨gap, -, hbetween⟩ := exists_between layout depth
    rw [writeFields, hbetween]
    exact endsNumber_cons rfl (by decide) (by decide) (by decide)

/-- Reading a field: its name, and then its value behind a colon. -/
theorem readFields_field (layout : Layout) (depth fuel levels : Nat) (name : Text)
    {value : Value} (hvalue : ReadsBack layout value)
    {rest : List Char} (hrest : EndsNumber rest)
    (hfuel : (writeAt layout (depth + 1) value).length < fuel) :
    readFields (fuel + 1) levels
        (writeString name ++ (':' :: ' ' :: (writeAt layout (depth + 1) value ++ rest))) =
      (do
        let found ← readBack levels value
        match skipGap rest with
        | '\x7d' :: left => pure ([(name.joined, found)], left)
        | ',' :: left =>
          let (fields, left) ← readFields fuel levels (skipGap left)
          pure ((name.joined, found) :: fields, left)
        | left => .error (.defect .expectedComma left.length)) := by
  have hskip := skipGap_writeAt layout (depth + 1) (isGap_replicate 1) value rest
  have hcolon : isGap ':' = false := rfl
  rw [writeString_append, readFields, readString_flatMap]
  simp only [bind, Except.bind, skipGap_cons hcolon]
  rw [show ' ' :: (writeAt layout (depth + 1) value ++ rest) =
    List.replicate 1 ' ' ++ (writeAt layout (depth + 1) value ++ rest) from rfl, hskip,
    hvalue (depth + 1) fuel levels rest hrest hfuel]
  cases readBack levels value <;> rfl

theorem readFields_write (layout : Layout) (depth : Nat) (tail : List Char)
    (rest : List (Text × Value)) :
    ∀ (name : Text) (value : Value) (fuel levels : Nat),
    (∀ field ∈ (name, value) :: rest, ReadsBack layout field.2) →
    (writeAt layout (depth + 1) value ++ writeFields layout depth rest).length + 1 < fuel →
    readFields fuel levels (writeString name ++ (':' :: ' ' ::
        (writeAt layout (depth + 1) value ++
          (writeFields layout depth rest ++ (layout.closing depth ++ '\x7d' :: tail))))) =
      (readBackFields levels ((name, value) :: rest)).map fun found => (found, tail) := by
  induction rest with
  | nil =>
    intro name value fuel levels hfields hfuel
    have hvalue : ReadsBack layout value := hfields _ List.mem_cons_self
    cases fuel with
    | zero => exact absurd hfuel (Nat.not_lt_zero _)
    | succ fuel =>
      rw [List.length_append] at hfuel
      have hfield := readFields_field layout depth fuel levels name hvalue
        (exists_behind_field layout depth [] tail) (by omega)
      have hgap := skipGap_append (isGap_closing layout depth) ('\x7d' :: tail)
      have hend : isGap '\x7d' = false := rfl
      rw [hfield, readBackFields]
      cases readBack levels value with
      | error refusal => rfl
      | ok found =>
        simp only [Except.map, bind, Except.bind, writeFields, List.nil_append, hgap,
          skipGap_cons hend, readBackFields, pure, Except.pure]
  | cons next rest ih =>
    intro name value fuel levels hfields hfuel
    obtain ⟨other, content⟩ := next
    have hvalue : ReadsBack layout value := hfields _ List.mem_cons_self
    cases fuel with
    | zero => exact absurd hfuel (Nat.not_lt_zero _)
    | succ fuel =>
      obtain ⟨gap, hgap, hbetween⟩ := exists_between layout depth
      have hfield := readFields_field layout depth fuel levels name hvalue
        (exists_behind_field layout depth ((other, content) :: rest) tail) (by
          simp only [List.length_append] at hfuel
          omega)
      have hothers := ih other content fuel levels
        (fun field hfield => hfields field (List.mem_cons_of_mem _ hfield)) (by
          simp only [writeFields, List.length_append, List.length_cons] at hfuel ⊢
          omega)
      have hskip := skipGap_writeString hgap other (':' :: ' ' ::
        (writeAt layout (depth + 1) content ++ (writeFields layout depth rest ++
          (layout.closing depth ++ '\x7d' :: tail))))
      have hcomma : isGap ',' = false := rfl
      rw [hfield, readBackFields]
      cases readBack levels value with
      | error refusal => rfl
      | ok found =>
        simp only [Except.map, bind, Except.bind, writeFields, hbetween, List.cons_append,
          List.nil_append, List.append_assoc, skipGap_cons hcomma, hskip, hothers]
        cases readBackFields levels ((other, content) :: rest) with
        | error refusal => rfl
        | ok others => rfl

/-- Reading a list that holds something: its items, if one more level is followed. -/
theorem readValue_list (fuel levels : Nat) {text : List Char} {c : Char} {behind : List Char}
    (htext : skipGap text = c :: behind) (hc : c ≠ ']') :
    readValue (fuel + 1) levels ('[' :: text) =
      match levels with
      | 0 => .error (.tooDeep .list)
      | levels + 1 =>
        (readItems fuel levels (skipGap text)).map fun found => (.list found.1, found.2) := by
  cases levels with
  | zero => simp only [readValue]
  | succ levels =>
    simp only [readValue]
    split
    next heq => cases heq
    next left _ hleft =>
      rw [htext] at hleft
      exact absurd (List.cons.inj hleft).1 hc
    next heq _ =>
      cases heq
      cases readItems fuel levels (skipGap text) <;> rfl

/-- Reading an object that holds something: its fields, if one more level is followed. -/
theorem readValue_object (fuel levels : Nat) {text : List Char} {c : Char} {behind : List Char}
    (htext : skipGap text = c :: behind) (hc : c ≠ '\x7d') :
    readValue (fuel + 1) levels ('\x7b' :: text) =
      match levels with
      | 0 => .error (.tooDeep .object)
      | levels + 1 =>
        (readFields fuel levels (skipGap text)).map fun found =>
          (.object (Fields.ofPairs found.1), found.2) := by
  cases levels with
  | zero => simp only [readValue]
  | succ levels =>
    simp only [readValue]
    split
    next heq => cases heq
    next left _ hleft =>
      rw [htext] at hleft
      exact absurd (List.cons.inj hleft).1 hc
    next heq _ =>
      cases heq
      cases readFields fuel levels (skipGap text) <;> rfl

theorem readsBack_list (layout : Layout) {items : List Value}
    (hitems : ∀ item ∈ items, ReadsBack layout item) :
    ReadsBack layout (.list items) := by
  intro depth fuel levels tail _ hfuel
  cases fuel with
  | zero => exact absurd hfuel (Nat.not_lt_zero _)
  | succ fuel =>
    cases items with
    | nil => cases levels <;> rfl
    | cons item rest =>
      obtain ⟨c, behind, hhead, -, hc, -⟩ := exists_head layout (depth + 1) item
      have hskip := skipGap_writeAt layout (depth + 1) (isGap_opening layout depth) item
        (writeItems layout depth rest ++ (layout.closing depth ++ ']' :: tail))
      have htext : writeAt layout depth (.list (item :: rest)) ++ tail =
          '[' :: (layout.opening depth ++ (writeAt layout (depth + 1) item ++
            (writeItems layout depth rest ++ (layout.closing depth ++ ']' :: tail)))) := by
        simp [writeAt]
      rw [htext, readValue_list fuel levels (hskip.trans (by rw [hhead]; rfl)) hc, hskip]
      cases levels with
      | zero => rfl
      | succ levels =>
        have hread := readItems_write layout depth tail rest item fuel levels hitems (by
          simp only [writeAt, List.length_append, List.length_cons, List.length_nil] at hfuel ⊢
          omega)
        simp only [hread, readBack]
        cases readBackItems levels (item :: rest) <;> rfl

theorem readsBack_object (layout : Layout) {fields : List (Text × Value)}
    (hfields : ∀ field ∈ fields, ReadsBack layout field.2) :
    ReadsBack layout (.object fields) := by
  intro depth fuel levels tail _ hfuel
  cases fuel with
  | zero => exact absurd hfuel (Nat.not_lt_zero _)
  | succ fuel =>
    rcases fields with _ | ⟨⟨name, value⟩, rest⟩
    · cases levels <;> rfl
    · let inside := writeString name ++ (':' :: ' ' :: (writeAt layout (depth + 1) value ++
        (writeFields layout depth rest ++ (layout.closing depth ++ '\x7d' :: tail))))
      have hinside : inside = '"' :: _ := writeString_append name _
      have hskip : skipGap (layout.opening depth ++ inside) = inside :=
        skipGap_writeString (isGap_opening layout depth) name _
      have htext : writeAt layout depth (.object ((name, value) :: rest)) ++ tail =
          '\x7b' :: (layout.opening depth ++ inside) := by
        simp [writeAt, inside]
      rw [htext, readValue_object fuel levels (hskip.trans hinside) (by decide), hskip]
      cases levels with
      | zero => rfl
      | succ levels =>
        have hread := readFields_write layout depth tail rest name value fuel levels hfields (by
          simp only [writeAt, List.length_append, List.length_cons, List.length_nil] at hfuel ⊢
          omega)
        simp only [inside, hread, readBack]
        cases readBackFields levels ((name, value) :: rest) <;> rfl

theorem readsBack_mapping (layout : Layout) {entries : Entries Value}
    (hentries : ∀ entry ∈ entries, ReadsBack layout entry.2) :
    ReadsBack layout (.mapping entries) := by
  have hfields : ∀ field ∈ namedFields entries, ReadsBack layout field.2 :=
    List.forall_mem_map.mpr hentries
  intro depth fuel levels tail hrest hfuel
  rw [writeAt_mapping] at hfuel ⊢
  rw [readBack_mapping]
  exact readsBack_object layout hfields depth fuel levels tail hrest hfuel

/-- A value whose written form is no text, list or object is read back as it is by itself. -/
theorem readsBack_of_plain (layout : Layout) {value : Value}
    (hplain : ∀ depth rest, EndsNumber rest →
      readPlain (writeAt layout depth value ++ rest) =
        (readBack 0 value).map fun found => (found, rest))
    (hlevels : ∀ levels, readBack levels value = readBack 0 value)
    (hhead : ∀ depth c behind, writeAt layout depth value = c :: behind →
      c ≠ '"' ∧ c ≠ '[' ∧ c ≠ '\x7b') : ReadsBack layout value := by
  intro depth fuel levels rest hrest hfuel
  cases fuel with
  | zero => exact absurd hfuel (Nat.not_lt_zero _)
  | succ fuel =>
    obtain ⟨c, behind, htext, -, -⟩ := exists_head layout depth value
    obtain ⟨hquote, hlist, hobject⟩ := hhead depth c behind htext
    have hread := hplain depth rest hrest
    rw [htext, List.cons_append] at hread ⊢
    rw [readValue_plain fuel levels hquote hlist hobject, hread, hlevels levels]

theorem readsBack_int (layout : Layout) (n : Int) : ReadsBack layout (.int n) := by
  refine readsBack_of_plain layout (fun _ rest hrest => readPlain_integer n hrest)
    (fun _ => by simp only [readBack]) ?_
  intro depth c behind htext
  have hstart := startsNumber_integer n []
  rw [List.append_nil, show (integerText n).toList = c :: behind from htext] at hstart
  exact ⟨hstart.ne rfl (by decide), hstart.ne rfl (by decide), hstart.ne rfl (by decide)⟩

theorem readsBack_float (layout : Layout) (x : Binary64) : ReadsBack layout (.float x) := by
  refine readsBack_of_plain layout (fun _ rest hrest => readPlain_float x hrest)
    (fun _ => by simp only [readBack]) ?_
  intro depth c behind htext
  cases x with
  | nan => cases htext; decide
  | infinite negative => cases negative <;> cases htext <;> decide
  | finite negative mantissa exponent =>
    obtain ⟨parts, hparts⟩ := exists_finiteText negative mantissa exponent
    have hstart := startsNumber_text parts negative []
    rw [List.append_nil, ← hparts, show writeFloat _ = c :: behind from htext] at hstart
    exact ⟨hstart.ne rfl (by decide), hstart.ne rfl (by decide), hstart.ne rfl (by decide)⟩

theorem readsBack_str (layout : Layout) (text : Text) : ReadsBack layout (.str text) := by
  intro depth fuel levels rest _ hfuel
  cases fuel with
  | zero => exact absurd hfuel (Nat.not_lt_zero _)
  | succ fuel =>
    rw [writeAt, writeString_append, readValue, readString_flatMap, readBack]
    rfl

/-- Every value is read back from its written form. -/
theorem readsBack (layout : Layout) : ∀ value : Value, ReadsBack layout value
  | .null => readsBack_of_plain layout (fun _ rest _ => readPlain_null rest)
    (fun _ => by simp only [readBack]) fun _ _ _ htext => by cases htext; decide
  | .bool true => readsBack_of_plain layout (fun _ rest _ => readPlain_true rest)
    (fun _ => by simp only [readBack]) fun _ _ _ htext => by cases htext; decide
  | .bool false => readsBack_of_plain layout (fun _ rest _ => readPlain_false rest)
    (fun _ => by simp only [readBack]) fun _ _ _ htext => by cases htext; decide
  | .int n => readsBack_int layout n
  | .float x => readsBack_float layout x
  | .str text => readsBack_str layout text
  | .list items => readsBack_list layout fun item _ => readsBack layout item
  | .object fields => readsBack_object layout fun field _ => readsBack layout field.2
  | .mapping entries => readsBack_mapping layout fun entry _ => readsBack layout entry.2
termination_by value => sizeOf value
decreasing_by
  · rename_i hitem
    have hsmaller := List.sizeOf_lt_of_mem hitem
    simp only [Value.list.sizeOf_spec]
    omega
  · rename_i hfield
    have hsmaller := List.sizeOf_lt_of_mem hfield
    have hcontent : sizeOf field.2 < sizeOf field := by
      obtain ⟨name, content⟩ := field
      simp only [Prod.mk.sizeOf_spec]
      omega
    simp only [Value.object.sizeOf_spec]
    omega
  · rename_i hentry
    have hsmaller := List.sizeOf_lt_of_mem hentry
    have hcontent : sizeOf entry.2 < sizeOf entry := by
      obtain ⟨key, content⟩ := entry
      simp only [Prod.mk.sizeOf_spec]
      omega
    simp only [Value.mapping.sizeOf_spec]
    omega

/-- What the whole written form of a value is read back as. -/
theorem read_write (layout : Layout) (value : Value) :
    read (write layout value) = readBack maximalLevels value := by
  obtain ⟨c, behind, htext, hc, -, hmark⟩ := exists_head layout 0 value
  have hvalue := readsBack layout value 0 ((writeAt layout 0 value).length + 1)
    maximalLevels [] endsNumber_nil (Nat.lt_succ_self _)
  rw [List.append_nil] at hvalue
  have hskip : skipGap (writeAt layout 0 value) = writeAt layout 0 value := by
    rw [htext, skipGap_cons hc]
  rw [read, write, String.toList_ofList]
  unfold readAll
  split
  next heq =>
    rw [htext] at heq
    exact absurd (List.cons.inj heq).1 hmark
  next =>
    rw [hskip, hvalue]
    cases readBack maximalLevels value <;> rfl

end Json

end HostLifecycle
