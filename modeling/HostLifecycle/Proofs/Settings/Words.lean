import HostLifecycle.Proofs.Attempt
import HostLifecycle.Proofs.Text.Runs
import HostLifecycle.Proofs.Value.Fields
import HostLifecycle.Settings.Arguments

/-!
Settings on a command line. No word of it is lost: each one is part of an option or left over, and
a command line tells of the settings of its group only. What is written as an option with its value
is read back, and of several values of one setting the last one counts.
-/

namespace HostLifecycle.Settings

open Attempt

namespace CommandLine

/-- The setting that a word tells on its own, or together with the word behind it. -/
def WordKind.setting? : WordKind → Option Text
  | option setting => some setting
  | assigned setting _ => some setting
  | _ => none

section

variable {options : Options} {told after : Told} {words : List Text}

/-- A word tells only of settings that have an option. -/
theorem exists_of_kindOf {word setting : Text}
    (h : (kindOf options word).setting? = some setting) : ∃ pair ∈ options, pair.2 = setting := by
  unfold kindOf dashedKind at h
  split at h
  · cases h
  · split at h
    · split at h
      next found hfound =>
        cases h
        exact Fields.exists_of_get? hfound
      next =>
        simp only at h
        split at h
        next found hfound =>
          cases h
          exact Fields.exists_of_get? hfound
        next => split at h <;> cases h
    · cases h

/-- How the words of a command line are read. An option with its value, in one word or in two,
tells of its setting; any other word is left over, and so are all words from the mark on. -/
inductive Taken (options : Options) : Told → List Text → Told → Prop where
  | done (told : Told) : Taken options told [] told
  | assigned {told after : Told} {word setting value : Text} {rest : List Text}
      (hkind : (kindOf options word).setting? = some setting)
      (hrest : Taken options { told with found := told.found.put setting value } rest after) :
      Taken options told (word :: rest) after
  | option {told after : Told} {word setting value : Text} {rest : List Text}
      (hkind : (kindOf options word).setting? = some setting)
      (hrest : Taken options { told with found := told.found.put setting value } rest after) :
      Taken options told (word :: value :: rest) after
  | mark (told : Told) (words : List Text) :
      Taken options told words { told with left := told.left ++ words }
  | other {told after : Told} {word : Text} {rest : List Text}
      (hrest : Taken options { told with left := told.left ++ [word] } rest after) :
      Taken options told (word :: rest) after

theorem taken_read (h : read options told words = .ok after) :
    Taken options told words after := by
  induction told, words using read.induct options with
  | case1 told =>
    cases h
    exact .done _
  | case2 told word rest setting value hkind ih =>
    rw [read, hkind] at h
    exact .assigned (by rw [hkind]; rfl) (ih h)
  | case3 told word setting hkind =>
    rw [read, hkind] at h
    cases h
  | case4 told word setting hkind value rest hplain ih =>
    rw [read, hkind] at h
    simp only [hplain, if_true] at h
    exact .option (by rw [hkind]; rfl) (ih h)
  | case5 told word setting hkind value rest hplain =>
    rw [read, hkind] at h
    simp only [hplain, if_false] at h
    cases h
  | case6 told word rest hkind =>
    rw [read, hkind] at h
    cases h
    exact .mark _ _
  | case7 told word rest hassigned hoption hmark ih =>
    rw [read] at h
    split at h
    next heq => exact absurd heq (hassigned _ _)
    next heq => exact absurd heq (hoption _)
    next heq => exact absurd heq hmark
    next => exact .other (ih h)

/-- The words that are left over are words of the command line, in their order. -/
theorem left_read (hread : read options told words = .ok after) :
    ∃ left, after.left = told.left ++ left ∧ left.Sublist words := by
  have h := taken_read hread
  clear hread
  induction h with
  | done told => exact ⟨[], (List.append_nil _).symm, List.Sublist.refl _⟩
  | assigned _ _ ih =>
    obtain ⟨left, hleft, hwords⟩ := ih
    exact ⟨left, hleft, hwords.cons _⟩
  | option _ _ ih =>
    obtain ⟨left, hleft, hwords⟩ := ih
    exact ⟨left, hleft, (hwords.cons _).cons _⟩
  | mark told words => exact ⟨words, rfl, List.Sublist.refl _⟩
  | @other told _ word _ _ ih =>
    obtain ⟨left, hleft, hwords⟩ := ih
    refine ⟨word :: left, ?_, hwords.cons_cons word⟩
    rw [hleft, List.append_assoc]
    rfl

/-- What holds of all settings that have an option holds of the settings that are told of. -/
theorem Taken.forall_found {onName : Text → Prop} (h : Taken options told words after)
    (hoptions : ∀ pair ∈ options, onName pair.2) (htold : ∀ field ∈ told.found, onName field.1) :
    ∀ field ∈ after.found, onName field.1 := by
  have hsetting : ∀ {word setting : Text}, (kindOf options word).setting? = some setting →
      onName setting := by
    intro word setting hkind
    obtain ⟨pair, hpair, rfl⟩ := exists_of_kindOf hkind
    exact hoptions pair hpair
  induction h with
  | done | mark => exact htold
  | assigned hkind _ ih => exact ih (Fields.forall_fst_put (hsetting hkind) _ htold)
  | option hkind _ ih => exact ih (Fields.forall_fst_put (hsetting hkind) _ htold)
  | other _ ih => exact ih htold

/-- An option with an equals sign and a value behind it. -/
theorem kindOf_assigned {option setting : Text} (value : Text)
    (hoption : options.get? option = some setting) (hdash : option.head? = some (.char '-'))
    (hnames : ∀ name ∈ options.names, .char '=' ∉ name) :
    kindOf options (option ++ .char '=' :: value) = .assigned setting value := by
  have hplain : ∀ c ∈ option, (c != CodePoint.char '=') = true := by
    intro c hc
    have hlisted : option ∈ options.names :=
      Fields.isSome_get?_iff.mp (by rw [hoption]; rfl)
    exact bne_iff_ne.mpr fun heq => hnames option hlisted (heq ▸ hc)
  have hends : ∀ c ∈ (CodePoint.char '=' :: value).head?, (c != CodePoint.char '=') = false := by
    rintro c ⟨⟩
    rfl
  have hlong : (option ++ CodePoint.char '=' :: value == "--") = false := by
    rw [beq_eq_false_iff_ne]
    intro heq
    have hmember : CodePoint.char '=' ∈ Text.ofString "--" := heq ▸ by simp
    exact absurd hmember (by decide)
  have hunknown : options.get? (option ++ .char '=' :: value) = none := by
    rw [Option.eq_none_iff_forall_not_mem]
    intro found hfound
    have hlisted := Fields.isSome_get?_iff.mp (Option.isSome_of_mem hfound)
    exact hnames _ hlisted (by simp)
  have hstarts : (option ++ CodePoint.char '=' :: value).head? = some (.char '-') := by
    rw [List.head?_append, hdash]
    rfl
  simp only [kindOf, hlong, Bool.false_eq_true, if_false, hstarts, beq_self_eq_true, if_true,
    dashedKind, hunknown, Text.takeWhile_run hplain hends, hoption]
  simp

end

section

variable {settings : List Text}

theorem mem_of_mem_ofSettings (dashed : Bool) :
    ∀ pair ∈ Options.ofSettings dashed settings, pair.2 ∈ settings := by
  intro pair hpair
  obtain ⟨setting, hsetting, rfl⟩ := List.mem_map.mp hpair
  exact hsetting

theorem get?_ofSettings {setting : Text} (h : setting ∈ settings) :
    (Options.ofSettings false settings).get? ("--" ++ setting) = some setting := by
  induction settings with
  | nil => cases h
  | cons first rest ih =>
    have hfields : Options.ofSettings false (first :: rest) =
        ("--" ++ first, first) :: Options.ofSettings false rest := rfl
    rw [hfields, Fields.get?, List.find?_cons]
    by_cases hfirst : first = setting
    · rw [hfirst, beq_self_eq_true]
      rfl
    · have hother : (Text.ofString "--" ++ first == Text.ofString "--" ++ setting) = false :=
        beq_eq_false_iff_ne.mpr fun heq => hfirst (List.append_cancel_left heq)
      rw [hother]
      exact ih ((List.mem_cons.mp h).resolve_left fun heq => hfirst heq.symm)

/-- The word that gives a setting its value. -/
def assignment (pair : Text × Text) : Text :=
  (Text.ofString "--" ++ pair.1) ++ .char '=' :: pair.2

/-- What is written as options with their values is read back. A setting that is written several
times has its last value. -/
theorem read_settings (hsettings : ∀ setting ∈ settings, .char '=' ∉ setting) {pairs : Fields Text}
    (hpairs : ∀ pair ∈ pairs, pair.1 ∈ settings) (told : Told) :
    read (Options.ofSettings false settings) told (pairs.map assignment) =
      .ok { told with found := told.found.merge pairs } := by
  induction pairs generalizing told with
  | nil => rfl
  | cons pair rest ih =>
    have hnames : ∀ name ∈ (Options.ofSettings false settings).names, .char '=' ∉ name := by
      intro name hname hequals
      obtain ⟨field, hfield, rfl⟩ := List.mem_map.mp hname
      obtain ⟨setting, hsetting, rfl⟩ := List.mem_map.mp hfield
      rcases List.mem_append.mp hequals with hdashes | hletters
      · exact absurd hdashes (by decide)
      · exact hsettings setting hsetting hletters
    have hkind := kindOf_assigned pair.2 (get?_ofSettings (hpairs pair List.mem_cons_self))
      (by rw [List.head?_append]; rfl) hnames
    rw [List.map_cons, read, assignment, hkind]
    exact ih (fun other hother => hpairs other (List.mem_cons_of_mem _ hother)) _

end

end CommandLine

namespace Arguments

variable {settings : List Text} {arguments : Fields Value}

theorem exists_of_readWords {words : List Text} {found : Fields Text}
    (h : readWords settings arguments words = .ok found) :
    ∃ others after, CommandLine.read
        (CommandLine.Options.ofSettings (isTold arguments "_cli_kebab_case") settings) ⟨[], []⟩
        others = .ok after ∧ after.found = found := by
  unfold readWords at h
  simp only at h
  split at h
  next found' _ hread =>
    cases h
    obtain ⟨after, hafter, hrest⟩ := exists_of_bind_ok hread
    refine ⟨_, after, hafter, ?_⟩
    split at hrest
    · exact Except.ok.inj hrest
    · cases hrest
  next => split at h <;> cases h
  next => cases h

/-- A command line tells of nothing but the settings of the group. -/
theorem names_commanded {found : Fields Value}
    (h : commanded settings arguments = .ok found) : ∀ name ∈ found.names, name ∈ settings := by
  have hnone : ∀ name ∈ Fields.names ([] : Fields Value), name ∈ settings := nofun
  unfold commanded at h
  split at h
  · cases h
    exact hnone
  · cases h
    exact hnone
  · cases h
    exact hnone
  · split at h
    · cases h
    next words _ =>
      obtain ⟨texts, hread, rfl⟩ := exists_of_map_ok h
      obtain ⟨others, after, hafter, rfl⟩ := exists_of_readWords hread
      have hfound : ∀ field ∈ after.found, field.1 ∈ settings :=
        (CommandLine.taken_read hafter).forall_found (CommandLine.mem_of_mem_ofSettings _) nofun
      intro name hname
      simp only [Fields.names, List.map_map, List.mem_map, Function.comp_apply] at hname
      obtain ⟨field, hfield, rfl⟩ := hname
      exact hfound field hfield
  · split at h
    · cases h
      exact hnone
    · cases h
  · cases h

end Arguments

end HostLifecycle.Settings
