import HostLifecycle.Proofs.Storage.Folders

/-!
Where paths lead. A path leads to a place by its last name, from the folder that holds what it
leads to, and so does the path of the second file beside it; the two places are different unless
the name of the path ends like that of the second file. Without detours, and on a disk on which
everything stands in a folder, the names alone tell the place.
-/

namespace HostLifecycle

namespace Text

theorem byteSize_append (text other : Text) :
    (text ++ other).byteSize = text.byteSize + other.byteSize := by
  induction text with
  | nil => simp [byteSize]
  | cons point rest ih =>
    simp only [byteSize, List.cons_append, List.foldr_cons] at ih ⊢
    rw [ih, Nat.add_assoc]

theorem byteSize_pos {text : Text} (h : text ≠ "") : 0 < text.byteSize := by
  obtain ⟨point, rest, rfl⟩ := List.exists_cons_of_ne_nil h
  have hpoint : 0 < point.byteSize := by
    cases point with
    | char c => exact c.utf8Size_pos
    | half n => exact Nat.zero_lt_succ 2
  rw [byteSize, List.foldr_cons]
  omega

end Text

theorem joinWith_prefix (separator : Text) (parts : List Text) (last : Text) :
    Value.joinWith separator parts <+: Value.joinWith separator (parts ++ [last]) := by
  induction parts with
  | nil => exact List.nil_prefix
  | cons first rest ih =>
    cases rest with
    | nil => exact (List.prefix_append first separator).trans (List.prefix_append _ last)
    | cons next rest => exact (List.prefix_append_right_inj (first ++ separator)).mpr ih

namespace Storage

open Attempt

namespace Path

/-- A path that has a name has a last one. -/
theorem exists_of_name {path : Path} (hname : path.name ≠ "") :
    ∃ (root : Text) (above : List Text) (last : Text),
      path = ⟨root, above ++ [last]⟩ ∧ last ≠ "" := by
  obtain ⟨root, names⟩ := path
  cases hlast : names.getLast? with
  | none =>
    rw [name, hlast] at hname
    exact absurd rfl hname
  | some last =>
    rw [name, hlast] at hname
    obtain ⟨above, rfl⟩ := List.getLast?_eq_some_iff.mp hlast
    exact ⟨root, above, last, rfl, hname⟩

theorem byteSize_parent_le {path : Path} (hname : path.name ≠ "") :
    path.parent.text.byteSize ≤ path.text.byteSize := by
  obtain ⟨root, above, last, rfl, hlast⟩ := exists_of_name hname
  have hfull : text ⟨root, above ++ [last]⟩ = root ++ Value.joinWith "/" (above ++ [last]) := by
    rw [text, if_neg (by simp)]
  obtain ⟨behind, hbehind⟩ := joinWith_prefix "/" above last
  rw [hfull, parent, List.dropLast_concat]
  by_cases hempty : (root == "" && above.isEmpty) = true
  · have hone : ("." : Text).byteSize = 1 := by decide
    have hpositive := Text.byteSize_pos hlast
    rw [Bool.and_eq_true, List.isEmpty_iff] at hempty
    rw [text, if_pos (by simpa using hempty), hempty.2, hone, Text.byteSize_append]
    exact Nat.le_add_left_of_le hpositive
  · rw [text, if_neg hempty, ← hbehind, ← List.append_assoc, Text.byteSize_append _ behind]
    exact Nat.le_add_right _ _

end Path

namespace Disk

variable {disk after : Disk} {place origin goal : Place} {path second : Path}

/-- A name is followed behind those that come before it. -/
theorem follow_concat (place : Place) (above : List Text) (last : Text) :
    disk.follow place (above ++ [last]) =
      (disk.follow place above >>= fun folder => disk.enter folder last) := by
  induction above generalizing place with
  | nil =>
    simp only [List.nil_append, follow]
    cases hlast : disk.enter place last with
    | error failure => simp [bind, Except.bind, hlast]
    | ok next => simp [bind, Except.bind, hlast]
  | cons name rest ih =>
    simp only [List.cons_append, follow]
    cases disk.enter place name with
    | error failure => rfl
    | ok next => exact ih next

/-- A path leads to a place by its last name, from the folder that holds what it leads to. -/
theorem exists_of_locate {root : Text} {above : List Text} {last : Text}
    (h : disk.locate ⟨root, above ++ [last]⟩ = .ok place) :
    ∃ folder, disk.follow (if root == "" then [] else [rootName]) above = .ok folder ∧
      disk.enter folder last = .ok place := by
  unfold locate at h
  split at h
  · cases h
  · rw [follow_concat] at h
    exact exists_of_bind_ok h

theorem enter_eq {folder : Place} {name : Text} (h : disk.enter folder name = .ok place) :
    disk.standing? folder = some .folder ∧
      place = if name == upName then above folder else folder ++ [name] := by
  unfold enter at h
  split at h
  · cases h
  · cases h
  next hfolder =>
    refine ⟨hfolder, ?_⟩
    split at h
    next hup => cases h; rw [if_pos hup]
    next hname =>
      split at h
      · cases h
      · cases h; rw [if_neg hname]

/-- A path that leads anywhere has a folder that holds what it leads to. -/
theorem isFolder_parent_of_locate (hname : path.name ≠ "") (h : disk.locate path = .ok goal) :
    disk.isFolder path.parent = true := by
  have hshort := Path.byteSize_parent_le hname
  obtain ⟨root, above, last, rfl, -⟩ := Path.exists_of_name hname
  obtain ⟨folder, hfollow, henter⟩ := exists_of_locate h
  have hparent : Path.parent ⟨root, above ++ [last]⟩ = ⟨root, above⟩ := by
    rw [Path.parent, List.dropLast_concat]
  have hlength : ¬ (Path.text ⟨root, above ++ [last]⟩).byteSize > maximalPath := by
    intro hlong
    rw [locate, if_pos hlong] at h
    cases h
  rw [hparent] at hshort ⊢
  refine isFolder_iff.mpr ⟨folder, ?_, (enter_eq henter).1⟩
  rw [locate, if_neg (by omega)]
  exact hfollow

/-- The place above a folder is none that another name than two dots leads to from there. -/
theorem above_ne_concat (folder : Place) {name : Text} (hname : name ≠ upName) :
    above folder ≠ folder ++ [name] := by
  intro habove
  unfold above at habove
  split at habove
  · simpa using congrArg List.length habove
  · split at habove
    · exact hname (List.singleton_inj.mp (List.append_cancel_left habove)).symm
    · have hlength := congrArg List.length habove
      rw [List.length_dropLast, List.length_append, List.length_singleton] at hlength
      omega

/-- A path and the second file beside it lead to different places, if the name of the path does
not end like that of the second file. -/
theorem ne_of_locate_second (hname : ¬ (".tmp" : Text) <:+ path.name)
    (hsecond : path.withExtension? ".tmp" = some second) (hgoal : disk.locate path = .ok goal)
    (horigin : disk.locate second = .ok origin) : origin ≠ goal := by
  rw [Path.withExtension?] at hsecond
  split at hsecond
  · cases hsecond
  next hnonempty =>
    cases hsecond
    obtain ⟨root, above, last, rfl, -⟩ := Path.exists_of_name (by simpa using hnonempty)
    have hlast : Path.name ⟨root, above ++ [last]⟩ = last := by
      rw [Path.name, List.getLast?_concat]
      rfl
    rw [hlast] at hname horigin
    rw [List.dropLast_concat] at horigin
    obtain ⟨folder, hfollow, henter⟩ := exists_of_locate hgoal
    obtain ⟨folder', hfollow', henter'⟩ := exists_of_locate horigin
    rw [hfollow] at hfollow'
    cases hfollow'
    have hsecond : Path.stemOf last ++ ".tmp" ≠ upName := by
      intro heq
      have hlength := congrArg List.length heq
      have htmp : (".tmp" : Text).length = 4 := rfl
      have hup : upName.length = 2 := rfl
      rw [List.length_append] at hlength
      omega
    -- two dots lead above the folder, every other name below it
    rw [(enter_eq henter').2, (enter_eq henter).2, if_neg (by simpa using hsecond)]
    split
    · exact (above_ne_concat folder hsecond).symm
    · intro heq
      have hsame := List.singleton_inj.mp (List.append_cancel_left heq)
      exact hname (hsame ▸ List.suffix_append _ _)

/-- A file is read where its path leads. -/
theorem exists_of_read {content : ByteArray} (h : disk.read path = .ok content) :
    ∃ goal, disk.locate path = .ok goal ∧ disk.standing? goal = some (.file content) := by
  unfold read at h
  split at h
  · cases h
  next hentry =>
    cases h
    unfold entryAt at hentry
    obtain ⟨goal, hgoal, hentry⟩ := exists_of_bind_ok hentry
    refine ⟨goal, hgoal, ?_⟩
    split at hentry
    next hstanding => cases hentry; exact hstanding
    · cases hentry
  · cases h
  · cases h

/-- A disk on which nothing stands but in a folder. -/
def Rooted (disk : Disk) : Prop :=
  ∀ place name, disk.standing? (place ++ [name]) ≠ none → disk.standing? place = some .folder

theorem rooted_nil (device : Device) : Rooted ⟨[], device⟩ := by
  intro place name hstanding
  unfold standing? at hstanding ⊢
  split at hstanding
  next hfixed =>
    rw [Bool.or_eq_true, List.all_append, Bool.and_eq_true, beq_iff_eq] at hfixed
    rcases hfixed with ⟨hup, -⟩ | hroot
    · rw [hup, Bool.true_or, if_pos rfl]
    · have hplace : place = [] := (List.append_eq_singleton_iff.mp hroot).elim And.left
        fun h => absurd h.2 (List.cons_ne_nil _ _)
      rw [hplace]
      rfl
  · exact absurd rfl hstanding

/-- All that leads to what stands on a rooted disk is folders. -/
theorem Rooted.folder (h : disk.Rooted) {names : List Text} (hnames : names ≠ [])
    (hstanding : disk.standing? (place ++ names) ≠ none) : disk.standing? place = some .folder := by
  induction names generalizing place with
  | nil => exact absurd rfl hnames
  | cons name rest ih =>
    by_cases hrest : rest = []
    · subst hrest
      exact h place name hstanding
    · rw [List.append_cons] at hstanding
      exact h place name (by rw [ih hrest hstanding]; simp)

theorem follow_direct {names : List Text} (hnames : ∀ name ∈ names, name ≠ upName)
    (h : disk.follow place names = .ok goal) : goal = place ++ names := by
  induction names generalizing place with
  | nil =>
    cases h
    exact (List.append_nil goal).symm
  | cons name rest ih =>
    rw [follow] at h
    rw [List.forall_mem_cons] at hnames
    split at h
    next next henter =>
      have hnext := (enter_eq henter).2
      rw [if_neg (by simpa using hnames.1)] at hnext
      rw [List.append_cons, ← hnext]
      exact ih hnames.2 h
    · cases h

/-- Names without detours lead where they lead on any other disk, if something stands there. -/
theorem Rooted.follow (hrooted : disk.Rooted) {names : List Text}
    (hnames : ∀ name ∈ names, name ≠ upName) (h : after.follow place names = .ok goal)
    (hstanding : disk.standing? goal ≠ none) : disk.follow place names = .ok goal := by
  induction names generalizing place with
  | nil => exact h
  | cons name rest ih =>
    have hgoal := follow_direct hnames h
    have hfolder : disk.standing? place = some .folder :=
      hrooted.folder (List.cons_ne_nil name rest) (hgoal ▸ hstanding)
    rw [Disk.follow] at h ⊢
    split at h
    next next henter =>
      have hsame : disk.enter place name = .ok next := by
        have hthere := (enter_eq henter).1
        unfold enter at henter ⊢
        rw [hthere] at henter
        rw [hfolder]
        exact henter
      rw [hsame]
      exact ih (fun other hother => hnames other (List.mem_cons_of_mem _ hother)) h
    · cases h

theorem Rooted.locate (hrooted : disk.Rooted) (hnames : ∀ name ∈ path.names, name ≠ upName)
    (h : after.locate path = .ok goal) (hstanding : disk.standing? goal ≠ none) :
    disk.locate path = .ok goal := by
  unfold Disk.locate at h ⊢
  split at h
  · cases h
  next hshort =>
    rw [if_neg hshort]
    exact hrooted.follow hnames h hstanding

end Disk

end Storage

end HostLifecycle
