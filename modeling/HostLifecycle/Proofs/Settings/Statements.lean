import HostLifecycle.Proofs.Text.Runs
import HostLifecycle.Proofs.Value.Fields
import HostLifecycle.Settings.EnvFile

/-!
Files of variables. Every reader leaves an end of the text that it was given, and a statement takes
at least one character, so the reading goes on statement by statement up to the end of the file,
and the lines that it tells are lines of the file. What is written between single quotes, with its
quotes and backslashes escaped, is read back as it was written.
-/

namespace HostLifecycle.Settings.EnvFile

open Text

/-- What a reader leaves, and the place where it comes to a halt, are ends of the text. -/
def Leaves {α : Type} (text : List Char) : Halting (α × List Char) → Prop
  | .ok (_, left) => left <:+ text
  | .error left => left <:+ text

section

variable {α : Type} {text start : List Char}

theorem Leaves.of_suffix {result : Halting (α × List Char)} (h : Leaves start result)
    (hstart : start <:+ text) : Leaves text result := by
  cases result with
  | error left => exact h.trans hstart
  | ok found => exact h.trans hstart

theorem skipSpace_suffix (text : List Char) : skipSpace text <:+ text :=
  List.dropWhile_suffix _

theorem splitLine_suffix (text : List Char) : (splitLine text).2 <:+ text :=
  List.dropWhile_suffix _

theorem skipExport_suffix (text : List Char) : skipExport text <:+ text := by
  unfold skipExport
  split
  · simp only
    split
    · exact (skipSpace_suffix _).trans (List.drop_suffix _ _)
    · exact List.suffix_refl _
  · exact List.suffix_refl _

theorem skipComment_suffix (text : List Char) : skipComment text <:+ text := by
  unfold skipComment
  split
  next rest hskipped =>
    have hrest : rest <:+ text := by
      have hmarked := skipSpace_suffix text
      rw [hskipped] at hmarked
      exact (List.suffix_cons _ _).trans hmarked
    exact (splitLine_suffix rest).trans hrest
  next => exact List.suffix_refl _

theorem leaves_readEnd (text : List Char) : Leaves text (readEnd text) := by
  have hskipped := skipSpace_suffix text
  unfold readEnd
  split
  · exact List.nil_suffix
  next rest heq =>
    rw [heq] at hskipped
    exact (List.suffix_cons _ _).trans hskipped
  · exact List.suffix_refl _

theorem splitAtQuote_suffix {quote : Char} {text value left : List Char}
    (h : splitAtQuote quote text = some (value, left)) : left <:+ text := by
  induction text using splitAtQuote.induct quote generalizing value left with
  | case1 => simp [splitAtQuote] at h
  | case2 c rest hescaped ih =>
    rw [splitAtQuote, if_pos hescaped, Option.map_eq_some_iff] at h
    obtain ⟨⟨value, left⟩, hrest, heq⟩ := h
    cases heq
    exact (ih hrest).trans ((List.suffix_cons _ _).trans (List.suffix_cons _ _))
  | case3 c rest hplain ih =>
    rw [splitAtQuote, if_neg hplain, Option.map_eq_some_iff] at h
    obtain ⟨⟨value, left⟩, hrest, heq⟩ := h
    cases heq
    exact (ih hrest).trans (List.suffix_cons _ _)
  | case4 c rest hescape hquote =>
    rw [splitAtQuote, if_pos hquote] at h
    · cases h
      exact List.suffix_cons _ _
    · exact hescape
  | case5 c rest hescape hquote ih =>
    rw [splitAtQuote, if_neg hquote, Option.map_eq_some_iff] at h
    · obtain ⟨⟨value, left⟩, hrest, heq⟩ := h
      cases heq
      exact (ih hrest).trans (List.suffix_cons _ _)
    · exact hescape

/-- A value between quotes, or the place where it comes to a halt. -/
theorem leaves_quoted {quote : Char} {rest : List Char} (hstart : start = quote :: rest)
    (letters : List (Char × Char)) :
    Leaves start (match splitAtQuote quote rest with
      | some (value, left) => .ok (unescape letters value, left)
      | none => .error start) := by
  cases hsplit : splitAtQuote quote rest with
  | none => exact List.suffix_refl _
  | some found =>
    rw [hstart]
    exact (splitAtQuote_suffix hsplit).trans (List.suffix_cons _ _)

theorem leaves_readValue (text : List Char) : Leaves text (readValue text) := by
  unfold readValue
  simp only
  split
  next rest hstart => exact (leaves_quoted hstart _).of_suffix (skipSpace_suffix text)
  next rest hstart => exact (leaves_quoted hstart _).of_suffix (skipSpace_suffix text)
  next => exact splitLine_suffix text

theorem leaves_readBinding (text : List Char) : Leaves text (readBinding text) := by
  have hskipped := skipSpace_suffix text
  unfold readBinding
  split
  next rest heq =>
    rw [heq] at hskipped
    have hvalue := (leaves_readValue rest).of_suffix ((List.suffix_cons _ _).trans hskipped)
    cases hread : readValue rest with
    | error left =>
      rw [hread] at hvalue
      exact hvalue
    | ok found =>
      rw [hread] at hvalue
      exact hvalue
  next => exact hskipped

/-- A name takes at least one character, and where there is none a comment stands. -/
inductive Named (text : List Char) : Halting (Option String × List Char) → Prop where
  | name (name : String) (left : List Char) (hleft : left <:+ text)
      (hshorter : left.length < text.length) : Named text (.ok (some name, left))
  | comment (rest : List Char) (htext : text = '#' :: rest) : Named text (.ok (none, text))
  | halted : Named text (.error text)

theorem length_dropWhile_lt {inClass : Char → Bool} (h : text.takeWhile inClass ≠ []) :
    (text.dropWhile inClass).length < text.length := by
  have hlength := congrArg List.length (List.takeWhile_append_dropWhile (p := inClass) (l := text))
  rw [List.length_append] at hlength
  have hpositive := List.length_pos_iff.mpr h
  omega

theorem named_readName (text : List Char) : Named text (readName text) := by
  unfold readName
  split
  next rest => exact .comment rest rfl
  next rest =>
    simp only
    have hbehind : rest.dropWhile (· != '\'') <:+ '\'' :: rest :=
      (List.dropWhile_suffix _).trans (List.suffix_cons _ _)
    split
    next quote left heq =>
      rw [heq] at hbehind
      have hleft := (List.suffix_cons quote left).trans hbehind
      have hlength := hbehind.length_le
      split
      · exact .halted
      · exact .name _ _ hleft hlength
    next => exact .halted
  next =>
    simp only
    split
    · exact .halted
    next hname =>
      refine .name _ _ (List.dropWhile_suffix _) (length_dropWhile_lt ?_)
      simpa using hname

/-- A statement that is read is not empty, and one that is not read comes to a halt within the
text. -/
def Shortens (text : List Char) : Halting (Statement × List Char) → Prop
  | .ok (_, left) => left <:+ text ∧ left.length < text.length
  | .error left => left <:+ text

/-- The end of a line, behind a comment or not, ends a statement that has begun. -/
theorem shortens_end (name value : Option String) {left : List Char} (hleft : left <:+ text)
    (hshorter : (skipComment left).length < text.length) :
    Shortens text (do
      let (_, left) ← readEnd (skipComment left)
      match name with
      | some name => pure (.binding name value, left)
      | none => pure (.comment, left)) := by
  have hends := leaves_readEnd (skipComment left)
  have hcomment := (skipComment_suffix left).trans hleft
  cases hread : readEnd (skipComment left) with
  | error halted =>
    rw [hread] at hends
    exact hends.trans hcomment
  | ok found =>
    rw [hread] at hends
    have hbehind : found.2 <:+ text ∧ found.2.length < text.length :=
      ⟨hends.trans hcomment, Nat.lt_of_le_of_lt hends.length_le hshorter⟩
    cases name <;> exact hbehind

theorem shortens_readStatement (text : List Char) : Shortens text (readStatement text) := by
  have hstart := skipExport_suffix text
  have hnamed := named_readName (skipExport text)
  unfold readStatement
  generalize readName (skipExport text) = named at hnamed
  cases hnamed with
  | halted => exact hstart
  | comment rest htext =>
    rw [htext] at hstart ⊢
    have hshorter : (skipComment ('#' :: rest)).length < text.length :=
      Nat.lt_of_le_of_lt (splitLine_suffix rest).length_le hstart.length_le
    exact shortens_end none none hstart hshorter
  | name name left hleft hshorter =>
    have hbinding := leaves_readBinding left
    simp only [bind, Except.bind]
    cases hread : readBinding left with
    | error halted =>
      rw [hread] at hbinding
      exact (hbinding.trans hleft).trans hstart
    | ok found =>
      rw [hread] at hbinding
      have hbehind := (skipComment_suffix found.2).trans hbinding
      refine shortens_end (some name) found.1 ((hbinding.trans hleft).trans hstart) ?_
      have hlength := hbehind.length_le
      have hwhole := hstart.length_le
      omega

theorem suffix_nextStatement (text : List Char) : (nextStatement text).2 <:+ text := by
  have hstart : text.dropWhile isBlank <:+ text := List.dropWhile_suffix _
  unfold nextStatement
  split
  · exact List.nil_suffix
  next =>
    have hshortens := shortens_readStatement (text.dropWhile isBlank)
    split
    next statement left hread =>
      rw [hread] at hshortens
      exact hshortens.1.trans hstart
    next left hread =>
      rw [hread] at hshortens
      exact (List.drop_suffix _ _).trans ((splitLine_suffix left).trans (hshortens.trans hstart))

/-- A statement takes at least one character. -/
theorem length_nextStatement_lt (h : text ≠ []) : (nextStatement text).2.length < text.length := by
  have hstart := (List.dropWhile_suffix (p := isBlank) (l := text)).length_le
  have hpositive := List.length_pos_iff.mpr h
  unfold nextStatement
  split
  · exact hpositive
  next hsome =>
    have hshortens := shortens_readStatement (text.dropWhile isBlank)
    split
    next statement left hread =>
      rw [hread] at hshortens
      exact Nat.lt_of_lt_of_le hshortens.2 hstart
    next left hread =>
      rw [hread] at hshortens
      have hline := (splitLine_suffix left).length_le
      have hhalted := hshortens.length_le
      rw [List.length_drop]
      omega

theorem statementsFrom_cons (fuel line : Nat) (h : text ≠ []) :
    statementsFrom (fuel + 1) line text =
      (line, (nextStatement text).1) :: statementsFrom fuel
        (line + (text.count '\n' - (nextStatement text).2.count '\n')) (nextStatement text).2 := by
  cases text with
  | nil => exact absurd rfl h
  | cons c rest => rfl

/-- As many steps as there are characters are enough to read a text. -/
theorem statementsFrom_of_length_le (text : List Char) {fuel : Nat} (h : text.length ≤ fuel)
    (line : Nat) : statementsFrom fuel line text = statementsFrom text.length line text := by
  -- a statement is followed by less text, which both numbers of steps are enough for
  induction hlength : text.length using Nat.strong_induction_on generalizing text fuel line with
  | _ length ih =>
    by_cases hsome : text = []
    · subst hsome
      subst hlength
      cases fuel <;> rfl
    · have hless := length_nextStatement_lt hsome
      have hpositive := List.length_pos_iff.mpr hsome
      obtain ⟨steps, rfl⟩ : ∃ steps, fuel = steps + 1 := ⟨fuel - 1, by omega⟩
      obtain ⟨fewer, rfl⟩ : ∃ fewer, length = fewer + 1 := ⟨length - 1, by omega⟩
      have hbehind : ∀ steps line, (nextStatement text).2.length ≤ steps →
          statementsFrom steps line (nextStatement text).2 =
            statementsFrom (nextStatement text).2.length line (nextStatement text).2 :=
        fun _ line hsteps => ih _ (hlength ▸ hless) _ hsteps line rfl
      rw [statementsFrom_cons _ _ hsome, statementsFrom_cons _ _ hsome,
        hbehind steps _ (by omega), hbehind fewer _ (by omega)]

/-- A text is read on from statement to statement. -/
theorem statementsFrom_length (h : text ≠ []) (line : Nat) :
    statementsFrom text.length line text =
      (line, (nextStatement text).1) :: statementsFrom (nextStatement text).2.length
        (line + (text.count '\n' - (nextStatement text).2.count '\n')) (nextStatement text).2 := by
  have hless := length_nextStatement_lt h
  obtain ⟨fewer, hfewer⟩ : ∃ fewer, text.length = fewer + 1 := ⟨text.length - 1, by omega⟩
  rw [hfewer, statementsFrom_cons _ _ h, statementsFrom_of_length_le _ (by omega)]

/-- The lines that are told come one behind the other, and all of them are lines of the text. -/
theorem lines_statementsFrom (fuel line : Nat) (text : List Char) :
    ((statementsFrom fuel line text).map Prod.fst).Pairwise (· ≤ ·) ∧
      ∀ entry ∈ statementsFrom fuel line text,
        line ≤ entry.1 ∧ entry.1 ≤ line + text.count '\n' := by
  induction fuel generalizing line text with
  | zero => exact ⟨List.Pairwise.nil, fun _ h => absurd h List.not_mem_nil⟩
  | succ fuel ih =>
    by_cases hsome : text = []
    · subst hsome
      exact ⟨List.Pairwise.nil, fun _ h => absurd h List.not_mem_nil⟩
    · have hfeeds := (suffix_nextStatement text).sublist.count_le '\n'
      obtain ⟨hsorted, hlines⟩ := ih (line + (text.count '\n' - (nextStatement text).2.count '\n'))
        (nextStatement text).2
      rw [statementsFrom_cons _ _ hsome]
      refine ⟨List.pairwise_cons.mpr ⟨?_, hsorted⟩, ?_⟩
      · intro other hother
        obtain ⟨entry, hentry, rfl⟩ := List.mem_map.mp hother
        exact Nat.le_trans (Nat.le_add_right _ _) (hlines entry hentry).1
      · intro entry hentry
        rcases List.mem_cons.mp hentry with rfl | hrest
        · exact ⟨Nat.le_refl _, Nat.le_add_right _ _⟩
        · obtain ⟨hfrom, hto⟩ := hlines entry hrest
          exact ⟨by omega, by omega⟩

end

/-- A value with a backslash in front of each of its backslashes and quotes. -/
def escaped : List Char → List Char
  | [] => []
  | c :: rest => if c = '\\' ∨ c = '\'' then '\\' :: c :: escaped rest else c :: escaped rest

theorem splitAtQuote_escaped (value rest : List Char) :
    splitAtQuote '\'' (escaped value ++ '\'' :: rest) = some (escaped value, rest) := by
  induction value with
  | nil => simp [escaped, splitAtQuote]
  | cons c value ih =>
    by_cases hc : c = '\\' ∨ c = '\''
    · have hescape : (c == '\'' || c == '\\') = true := by
        rcases hc with rfl | rfl <;> rfl
      simp [escaped, if_pos hc, splitAtQuote, hescape, ih]
    · rw [not_or] at hc
      have hquote : (c == '\'') = false := beq_eq_false_iff_ne.mpr hc.2
      rw [escaped, if_neg (not_or.mpr hc), List.cons_append, splitAtQuote, hquote, ih]
      · rfl
      · exact fun _ _ heq => absurd heq hc.1

theorem unescape_escaped (value : List Char) : unescape singleEscapes (escaped value) = value := by
  induction value with
  | nil => rfl
  | cons c value ih =>
    by_cases hc : c = '\\' ∨ c = '\''
    · have hletter : escaped? singleEscapes c = some c := by
        rcases hc with rfl | rfl <;> rfl
      rw [escaped, if_pos hc, unescape, hletter, ih]
    · rw [not_or] at hc
      rw [escaped, if_neg (not_or.mpr hc), unescape, ih]
      exact fun _ _ heq => absurd heq hc.1

structure IsName (name : List Char) : Prop where
  nonempty : name ≠ []
  unmarked : name.head? ≠ some '\ufeff'
  unquoted : name.head? ≠ some '\''
  letters : ∀ c ∈ name, c ≠ '=' ∧ c ≠ '#' ∧ isBlank c = false

def quotedLine (name value : List Char) : List Char :=
  name ++ '=' :: '\'' :: (escaped value ++ ['\'', '\n'])

section

variable {name value rest behind : List Char}

/-- No word in front of a name is passed over that belongs to the name itself. -/
theorem skipExport_name (h : IsName name) : skipExport (name ++ '=' :: behind) =
    name ++ '=' :: behind := by
  unfold skipExport
  split
  next hexport =>
    obtain ⟨tail, htail⟩ := List.isPrefixOf_iff_prefix.mp hexport
    obtain ⟨more, rfl⟩ := exists_append_of_not_mem htail (by decide)
    have hplain : (more ++ '=' :: behind).head?.any isSpace = false := by
      cases more with
      | nil => rfl
      | cons first more =>
        have hblank := (h.letters first (by simp)).2.2
        simp [isSpace, hblank]
    have hdropped : List.drop 6 ("export".toList ++ more ++ '=' :: behind) =
        more ++ '=' :: behind := by
      rw [List.append_assoc]
      rfl
    simp only [hdropped, hplain, Bool.false_eq_true, if_false]
  next => rfl

theorem readName_name (h : IsName name) : readName (name ++ '=' :: behind) =
    .ok (some (String.ofList name), '=' :: behind) := by
  have hletters : ∀ c ∈ name, (c != '=' && c != '#' && !isBlank c) = true := by
    intro c hc
    obtain ⟨hequals, hhash, hblank⟩ := h.letters c hc
    simp [hequals, hhash, hblank]
  have hends : ∀ c ∈ ('=' :: behind).head?, (c != '=' && c != '#' && !isBlank c) = false := by
    rintro c ⟨⟩
    rfl
  obtain ⟨first, more, rfl⟩ := List.exists_cons_of_ne_nil h.nonempty
  unfold readName
  split
  next heq =>
    obtain ⟨rfl, -⟩ := List.cons.inj heq
    exact absurd rfl (h.letters '#' List.mem_cons_self).2.1
  next heq =>
    obtain ⟨rfl, -⟩ := List.cons.inj heq
    exact absurd rfl h.unquoted
  next =>
    simp only [takeWhile_run hletters hends, dropWhile_run hletters hends]
    rfl

theorem readBinding_quoted (value rest : List Char) :
    readBinding ('=' :: '\'' :: (escaped value ++ '\'' :: rest)) =
      .ok (some (String.ofList value), rest) := by
  have hspace : ∀ text, skipSpace ('\'' :: text) = '\'' :: text := fun _ => rfl
  have hequals : ∀ text, skipSpace ('=' :: text) = '=' :: text := fun _ => rfl
  have hvalue : readValue ('\'' :: (escaped value ++ '\'' :: rest)) = .ok (value, rest) := by
    simp only [readValue, hspace, splitAtQuote_escaped, unescape_escaped]
  simp only [readBinding, hequals, hvalue]
  rfl

/-- A line that was written for a variable is read as this variable with its value. -/
theorem nextStatement_quotedLine (h : IsName name) (value rest : List Char) :
    nextStatement (quotedLine name value ++ rest) =
      (.binding (String.ofList name) (some (String.ofList value)), rest) := by
  have hline : quotedLine name value ++ rest =
      name ++ '=' :: '\'' :: (escaped value ++ '\'' :: '\n' :: rest) := by
    simp [quotedLine]
  have hstart : (quotedLine name value ++ rest).dropWhile isBlank =
      quotedLine name value ++ rest := by
    obtain ⟨first, more, rfl⟩ := List.exists_cons_of_ne_nil h.nonempty
    have hblank := (h.letters first List.mem_cons_self).2.2
    rw [hline, List.cons_append, List.dropWhile_cons_of_neg (by simp [hblank])]
  have hread : readStatement (quotedLine name value ++ rest) =
      .ok (.binding (String.ofList name) (some (String.ofList value)), rest) := by
    rw [hline, readStatement, skipExport_name h, readName_name h]
    simp only [bind, Except.bind, readBinding_quoted]
    rfl
  rw [nextStatement, hstart]
  split
  next heq => simp [quotedLine] at heq
  next => simp only [hread]

end

/-- A value without references stays as it is. -/
theorem resolve_of_plain (known : Fields (Option Text)) (fuel : Nat) {value : List Char}
    (h : ¬ ['$', '\x7b'] <:+: value) : resolve known fuel value = ofChars value := by
  induction fuel generalizing value with
  | zero => rfl
  | succ fuel ih =>
    cases value with
    | nil => rfl
    | cons c rest =>
      have hrest : resolve known fuel rest = ofChars rest :=
        ih fun hwithin => h (hwithin.trans (List.suffix_cons c rest).isInfix)
      rw [resolve, hrest]
      · rfl
      · rintro inside rfl rfl
        exact h ⟨[], inside, rfl⟩

/-- The file that gives entries their values, each on a line of its own at least. -/
def written (entries : List (String × String)) : String :=
  String.ofList (entries.flatMap fun entry => quotedLine entry.1.toList entry.2.toList)

section

variable {entries : List (String × String)}

theorem statementsFrom_quotedLines (h : ∀ entry ∈ entries, IsName entry.1.toList)
    {fuel : Nat} {text : List Char}
    (htext : text = entries.flatMap fun entry => quotedLine entry.1.toList entry.2.toList)
    (hfuel : text.length ≤ fuel) (line : Nat) :
    (statementsFrom fuel line text).map Prod.snd =
      entries.map fun entry => .binding entry.1 (some entry.2) := by
  induction entries generalizing fuel line text with
  | nil =>
    subst htext
    cases fuel <;> rfl
  | cons entry rest ih =>
    have hname := h entry List.mem_cons_self
    have hnext := nextStatement_quotedLine hname entry.2.toList
      (rest.flatMap fun entry => quotedLine entry.1.toList entry.2.toList)
    rw [List.flatMap_cons] at htext
    rw [← htext, String.ofList_toList, String.ofList_toList] at hnext
    have hsome : text ≠ [] := by
      rw [htext]
      simp [quotedLine]
    have hless := length_nextStatement_lt hsome
    have hpositive := List.length_pos_iff.mpr hsome
    obtain ⟨fewer, rfl⟩ : ∃ fewer, fuel = fewer + 1 := ⟨fuel - 1, by omega⟩
    rw [statementsFrom_cons _ _ hsome, hnext, List.map_cons, List.map_cons,
      ih (fun other hother => h other (List.mem_cons_of_mem _ hother)) rfl]
    rw [hnext] at hless
    simp only at hless
    omega

theorem statements_written (h : ∀ entry ∈ entries, IsName entry.1.toList) :
    (statements (written entries)).map Prod.snd =
      entries.map fun entry => .binding entry.1 (some entry.2) := by
  have hunmarked : ∀ rest, (written entries).toList ≠ '\ufeff' :: rest := by
    intro rest hmarked
    cases entries with
    | nil => simp [written] at hmarked
    | cons entry others =>
      have hname := h entry List.mem_cons_self
      obtain ⟨first, more, hfirst⟩ := List.exists_cons_of_ne_nil hname.nonempty
      rw [written, String.toList_ofList, List.flatMap_cons, hfirst] at hmarked
      obtain ⟨rfl, -⟩ := List.cons.inj hmarked
      exact hname.unmarked (by rw [hfirst]; rfl)
  rw [statements]
  simp only
  exact statementsFrom_quotedLines h (String.toList_ofList) (Nat.le_refl _) 1

theorem foldl_extended (process known : Fields (Option Text))
    (hvalues : ∀ entry ∈ entries, ¬ ['$', '\x7b'] <:+: entry.2.toList) :
    (entries.map fun entry => Statement.binding entry.1 (some entry.2)).foldl
        (extended process) known =
      known.merge (entries.map fun entry => (ofString entry.1, some (ofString entry.2))) := by
  induction entries generalizing known with
  | nil => rfl
  | cons entry rest ih =>
    have hentry := hvalues entry List.mem_cons_self
    rw [List.map_cons, List.foldl_cons, extended, Option.map_some, resolve_of_plain _ _ hentry,
      ih _ fun other hother => hvalues other (List.mem_cons_of_mem _ hother)]
    rfl

/-- What is written between single quotes is read back as it was written: a file of such lines
tells of its variables in their order, the last value of one that is given several times, and no
line of it is told not to be understood. -/
theorem bindings_written (environment : Environment)
    (hnames : ∀ entry ∈ entries, IsName entry.1.toList)
    (hvalues : ∀ entry ∈ entries, ¬ ['$', '\x7b'] <:+: entry.2.toList) :
    bindings environment (written entries) =
        Fields.ofPairs (entries.map fun entry => (ofString entry.1, some (ofString entry.2))) ∧
      warnings (written entries) = [] := by
  have hstatements := statements_written hnames
  constructor
  · rw [bindings, ← List.foldl_map (f := Prod.snd) (g := extended _), hstatements,
      foldl_extended _ _ hvalues]
    rfl
  · rw [warnings, List.filterMap_eq_nil_iff]
    rintro ⟨line, statement⟩ hentry
    have hbinding : statement ∈ entries.map fun entry => .binding entry.1 (some entry.2) :=
      hstatements ▸ List.mem_map_of_mem hentry
    obtain ⟨entry, -, rfl⟩ := List.mem_map.mp hbinding
    rfl

end

/-- Every line that is told of a file is one of its lines, and they are told in their order. -/
theorem lines_statements (text : String) :
    ((statements text).map Prod.fst).Pairwise (· ≤ ·) ∧
      ∀ entry ∈ statements text, 1 ≤ entry.1 ∧ entry.1 ≤ 1 + text.toList.count '\n' := by
  rw [statements]
  split
  next rest hmarked =>
    have hfeeds : rest.count '\n' ≤ text.toList.count '\n' := by
      rw [hmarked]
      exact List.count_le_count_cons
    obtain ⟨hsorted, hlines⟩ := lines_statementsFrom rest.length 1 rest
    refine ⟨hsorted, fun entry hentry => ?_⟩
    obtain ⟨hfrom, hto⟩ := hlines entry hentry
    exact ⟨hfrom, by omega⟩
  next => exact lines_statementsFrom _ 1 _

end HostLifecycle.Settings.EnvFile
