import HostLifecycle.Proofs.Attempt
import HostLifecycle.Settings.Given

/-!
What is gathered for the settings of a group. Whatever keeps from gathering it is no issue with a
setting, since nothing is read yet; and what is gathered without arguments has the variables of the
process ahead of all files.
-/

namespace HostLifecycle.Settings

open Attempt Storage

def IsPlain (fault : Fault) : Prop := ∀ issues, fault ≠ .settings issues

variable {fault : Fault}

section

variable {own : Option Text} {sources : Sources}

theorem plain_accountHome {account : Text} (h : accountHome account = .error fault) :
    IsPlain fault := by
  unfold accountHome at h
  split at h
  · cases h
    exact nofun
  · split at h
    · cases h
      exact nofun
    · split at h <;> cases h
      exact nofun

theorem plain_fromHome {path : Path} (h : path.fromHome own = .error fault) : IsPlain fault := by
  unfold Path.fromHome at h
  split at h
  · rcases error_of_bind h with hhome | ⟨home, -, hbelow⟩
    · unfold homeNamed at hhome
      split at hhome
      · cases hhome
      · exact plain_accountHome hhome
      · exact plain_accountHome hhome
    · unfold Path.below at hbelow
      split at hbelow <;> cases hbelow
      exact nofun
  · cases h

theorem plain_pathOf {value : Value} (h : pathOf sources value = .error fault) :
    IsPlain fault := by
  unfold pathOf at h
  split at h
  · exact plain_fromHome h
  · cases h
    exact nofun

theorem plain_entry {disk : Disk} {path : Path} (h : disk.entry? path = .error fault) :
    IsPlain fault := by
  unfold Disk.entry? at h
  split at h <;> cases h
  exact nofun

theorem fails_fileBindings {encoding : Except Fault Text.Encoding}
    (hencoding : ∀ fault, encoding = .error fault → IsPlain fault) (path : Path) :
    Fails IsPlain (fileBindings encoding sources path) := by
  refine (fails_ofExcept fun _ => plain_entry).bind fun entry => ?_
  split
  · refine (fails_ofExcept fun fault h => ?_).bind fun text => fun _ _ => nofun
    rcases error_of_bind h with hnamed | ⟨encoding, -, hread⟩
    · exact hencoding fault hnamed
    · split at hread <;> cases hread <;> exact nofun
  · exact fun _ _ => nofun

theorem fails_allBindings {encoding : Except Fault Text.Encoding}
    (hencoding : ∀ fault, encoding = .error fault → IsPlain fault) (values : List Value) :
    Fails IsPlain (allBindings encoding sources values) := by
  induction values with
  | nil => exact fun _ _ => nofun
  | cons value rest ih =>
    exact (fails_ofExcept fun _ => plain_pathOf).bind fun path =>
      (fails_fileBindings hencoding path).bind fun first =>
        ih.bind fun others => fun _ _ => nofun

end

section

variable {arguments : Fields Value} {settings : List Text}

theorem plain_checkParts (h : Arguments.checkParts arguments = .error fault) : IsPlain fault := by
  unfold Arguments.checkParts at h
  split at h
  · cases h
  · cases h
  · split at h <;> cases h
    exact nofun

theorem plain_checkStart (h : Arguments.checkStart arguments = .error fault) : IsPlain fault := by
  unfold Arguments.checkStart at h
  split at h
  · cases h
  · split at h <;> cases h
    exact nofun

theorem plain_values {name : Text} (h : Arguments.values arguments name = .error fault) :
    IsPlain fault := by
  unfold Arguments.values at h
  split at h
  · cases h
  · cases h
  next value _ _ =>
    cases hparts : value.parts? <;> rw [hparts] at h <;> cases h
    exact nofun

theorem plain_encoding (h : Arguments.encoding arguments = .error fault) : IsPlain fault := by
  unfold Arguments.encoding at h
  split at h
  · cases h
  · split at h
    next name _ =>
      cases hnamed : Text.Encoding.named? name <;> rw [hnamed] at h <;> cases h
      exact nofun
    · cases h
      exact nofun

theorem plain_naming {usual : Text} (h : Arguments.naming usual settings arguments = .error fault) :
    IsPlain fault := by
  have hstart := error_of_map h
  unfold Arguments.start at hstart
  split at hstart
  · cases hstart
  · split at hstart <;> cases hstart
    exact nofun

theorem plain_commanded (h : Arguments.commanded settings arguments = .error fault) :
    IsPlain fault := by
  unfold Arguments.commanded at h
  split at h
  · cases h
  · cases h
  · cases h
  · split at h
    · cases h
      exact nofun
    · have hwords := error_of_map h
      unfold Arguments.readWords at hwords
      simp only at hwords
      split at hwords
      · cases hwords
      · split at hwords <;> cases hwords <;> exact nofun
      · cases hwords
        exact nofun
  · split at h <;> cases h
    exact nofun
  · cases h
    exact nofun

end

section

variable {naming : Naming} {sources : Sources}

theorem plain_addAllLoose {found : Fields Value} {entries : Fields (Option Text)}
    (h : naming.addAllLoose found entries = .error fault) : IsPlain fault := by
  unfold Naming.addAllLoose at h
  generalize naming.respell entries = respelled at h
  induction respelled generalizing found with
  | nil => cases h
  | cons entry rest ih =>
    rw [List.foldlM_cons] at h
    rcases error_of_bind h with hentry | ⟨next, -, hrest⟩
    · unfold Naming.addLoose at hentry
      split at hentry
      · cases hentry
      · split at hentry
        · cases hentry
        · have hstart := error_of_map (error_of_map hentry)
          unfold Naming.knownGroupStart at hstart
          split at hstart <;> cases hstart
          split <;> exact nofun
    · exact ih hrest

theorem plain_mapM {α β : Type} {read : α → Except Fault β}
    (hread : ∀ x fault, read x = .error fault → IsPlain fault) {values : List α}
    (h : values.mapM read = .error fault) : IsPlain fault := by
  induction values generalizing fault with
  | nil => cases h
  | cons value rest ih =>
    rw [List.mapM_cons] at h
    rcases error_of_bind h with hfirst | ⟨first, -, h⟩
    · exact hread value fault hfirst
    · rcases error_of_bind h with hrest | ⟨others, -, hpure⟩
      · exact ih hrest
      · cases hpure

theorem plain_secretsIn {disk : Disk} {entries : List (Path × Option Entry)}
    (h : secretsIn disk entries = .error fault) : IsPlain fault := by
  induction entries with
  | nil => cases h
  | cons entry rest ih =>
    obtain ⟨path, _ | _ | _⟩ := entry
    · exact ih h
    · exact ih (error_of_map h)
    · cases h
      exact nofun

theorem plain_secretsOf {values : List Value} (h : secretsOf sources values = .error fault) :
    IsPlain fault := by
  rcases error_of_bind h with hpaths | ⟨paths, -, h⟩
  · exact plain_mapM (fun _ _ => plain_pathOf) hpaths
  · rcases error_of_bind h with hentries | ⟨entries, -, h⟩
    · exact plain_mapM (fun _ _ hentry => plain_entry (error_of_map hentry)) hentries
    · exact plain_secretsIn h

theorem plain_findSecrets {secrets : Secrets} {names : List Text}
    (h : findSecrets naming secrets names = .error fault) : IsPlain fault := by
  induction names with
  | nil => cases h
  | cons name rest ih =>
    rw [findSecrets] at h
    split at h
    · exact ih h
    · split at h
      · cases h
        exact nofun
      · exact ih (error_of_map h)

end

/-- Whatever keeps from gathering what is given for settings, it is no issue with one of them. -/
theorem fails_gather (usual : Text) (settings : List Text) (arguments : Fields Value)
    (sources : Sources) : Fails IsPlain (Given.gather usual settings arguments sources) :=
  (fails_ofExcept fun _ => plain_checkParts).bind fun _ =>
    (fails_ofExcept fun _ => plain_checkStart).bind fun _ =>
      (fails_ofExcept fun _ => plain_values).bind fun files =>
        (fails_allBindings (fun _ => plain_encoding) files).bind fun _ =>
          (fails_ofExcept fun _ => plain_commanded).bind fun _ =>
            (fails_ofExcept fun _ => plain_naming).bind fun _ =>
              (fails_ofExcept fun _ => plain_addAllLoose).bind fun _ =>
                (fails_ofExcept fun _ => plain_values).bind fun _ =>
                  (fails_ofExcept fun _ => plain_secretsOf).bind fun _ =>
                    (fails_ofExcept fun _ => plain_findSecrets).bind fun _ =>
                      fun _ _ => nofun

theorem get?_filterMap {α : Type} (value : Text → Option α) (settings : List Text) (name : Text) :
    Fields.get? (settings.filterMap fun setting => (value setting).map fun found =>
        (setting, found)) name = if name ∈ settings then value name else none := by
  induction settings with
  | nil => rfl
  | cons setting rest ih =>
    rw [List.filterMap_cons]
    by_cases hsetting : setting = name
    · subst hsetting
      cases hvalue : value setting with
      | none =>
        rw [hvalue, ite_self] at ih
        simpa using ih
      | some found => simp [Fields.get?]
    · have hmember : (name ∈ setting :: rest) = (name ∈ rest) := by
        simp [Ne.symm hsetting]
      simp only [hmember]
      cases hvalue : value setting with
      | none => exact ih
      | some found => simpa [Fields.get?, hsetting] using ih

theorem Environment.lastOf?_map {α β : Type} (f : α → β) (isExact : Bool) (entries : Fields α)
    (name : Text) : lastOf? isExact (entries.map fun entry => (entry.1, f entry.2)) name =
      (lastOf? isExact entries name).map f := by
  simp only [lastOf?, List.filter_map, List.getLast?_map, Option.map_map]
  rfl

theorem findSecrets_nil (naming : Naming) (settings : List Text) :
    findSecrets naming [] settings = .ok [] := by
  induction settings with
  | nil => rfl
  | cons name rest ih =>
    rw [findSecrets]
    exact ih

/-- Without arguments each setting of a group is given by the variable of the process that has its
name, in any spelling, with the beginning of the group in front; and nothing keeps from gathering
the settings so. -/
theorem runOn_gather_of_no_arguments (usual : Text) (settings : List Text) (sources : Sources)
    (journal : List Logging.LogEntry) :
    ∃ given, (Given.gather usual settings [] sources).runOn journal = (.ok given, journal) ∧
      ∀ name ∈ settings, given.value? name =
        (Environment.lastOf? false sources.environment (usual ++ name)).map .str := by
  let naming : Naming := ⟨false, usual, .str usual, settings⟩
  let entries : Fields (Option Text) :=
    sources.environment.map fun entry => (entry.1, some entry.2)
  have hpresent : (Arguments.taking []).present entries = entries :=
    List.filter_eq_self.mpr fun _ _ => rfl
  refine ⟨⟨[], [], [naming.find ((Arguments.taking []).values entries), [], []]⟩, ?_, ?_⟩
  · have hgather : Given.gather usual settings [] sources = (do
        let inSecrets ← Attempt.ofExcept (findSecrets naming [] settings)
        pure ⟨[], [], [naming.find ((Arguments.taking []).values
          ((Arguments.taking []).present entries)), naming.find [], inSecrets]⟩) := rfl
    have hnone : naming.find ([] : Fields (Option Value)) = [] :=
      List.filterMap_eq_nil_iff.mpr fun _ _ => rfl
    rw [hgather, findSecrets_nil, hpresent, hnone]
    rfl
  · intro name hname
    have hentries : (Arguments.taking []).values entries =
        sources.environment.map fun entry => (entry.1, some (.str entry.2)) := by
      simp only [Taking.values, entries, List.map_map]
      rfl
    have hfound : (naming.find ((Arguments.taking []).values entries)).get? name =
        (Environment.lastOf? false sources.environment (usual ++ name)).map .str := by
      rw [hentries, Naming.find, get?_filterMap, if_pos hname,
        Environment.lastOf?_map fun text => some (Value.str text)]
      cases Environment.lastOf? naming.isExact sources.environment (naming.start ++ name) <;> rfl
    change ([naming.find _, [], []] : List (Fields Value)).findSome?
      (fun layer => layer.get? name) = _
    rw [List.findSome?_cons, hfound]
    cases Environment.lastOf? false sources.environment (usual ++ name) <;> rfl

end HostLifecycle.Settings
