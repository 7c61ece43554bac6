import HostLifecycle.Storage.Disk
import HostLifecycle.Proofs.Attempt

/-!
Folders that stay. A disk grows if no folder is lost on it and its device stays the same. On a
disk that has grown every path leads where it led before, as long as it led anywhere. Making the
folders of a path preserves what making one folder does, and behind it the path leads to a folder.
-/

namespace HostLifecycle.Storage

open Attempt

namespace Disk

variable {disk after : Disk} {place : Place} {entry : Entry}

/-- At a place stands a folder on every disk, or else what is found there first. -/
theorem standing_cases (place : Place) :
    (∀ disk : Disk, disk.standing? place = some .folder) ∨
      ∀ disk : Disk, disk.standing? place =
        (disk.entries.find? fun entry => entry.1 == place).map (·.2) := by
  by_cases hfixed : (place.all (· == upName) || place == [rootName]) = true
  · exact Or.inl fun _ => if_pos hfixed
  · exact Or.inr fun _ => if_neg hfixed

theorem find?_filter_of_ne {other : Place} (hne : other ≠ place) (entries : List (Place × Entry)) :
    (entries.filter fun found => found.1 != place).find? (fun entry => entry.1 == other) =
      entries.find? fun entry => entry.1 == other := by
  rw [List.find?_filter]
  congr 1
  funext found
  by_cases hfound : found.1 = other
  · simp [hfound, hne]
  · simp [hfound]

/-- What is put at a place that is no folder stands there, and nothing else is moved. -/
theorem standing_put (hplace : disk.standing? place ≠ some .folder) (entry : Entry)
    (other : Place) : (disk.put place entry).standing? other =
      if other = place then some entry else disk.standing? other := by
  rcases standing_cases other with hfolder | hfind
  · have hne : other ≠ place := by
      rintro rfl
      exact hplace (hfolder disk)
    rw [hfolder, hfolder, if_neg hne]
  · rw [hfind, hfind, put, List.find?_append]
    by_cases hsame : other = place
    · subst hsame
      have hnone : (disk.entries.filter fun found => found.1 != other).find?
          (fun entry => entry.1 == other) = none := by
        simp
      simp [hnone]
    · have hlast : ¬ place = other := fun h => hsame h.symm
      rw [find?_filter_of_ne hsame, if_neg hsame]
      simp [hlast]

/-- What is removed from a place that is no folder is gone, and nothing else is. -/
theorem standing_remove (hplace : disk.standing? place ≠ some .folder) (other : Place) :
    (disk.remove place).standing? other =
      if other = place then none else disk.standing? other := by
  rcases standing_cases other with hfolder | hfind
  · have hne : other ≠ place := by
      rintro rfl
      exact hplace (hfolder disk)
    rw [hfolder, hfolder, if_neg hne]
  · rw [hfind, hfind, remove]
    by_cases hsame : other = place
    · subst hsame
      simp
    · rw [find?_filter_of_ne hsame, if_neg hsame]

/-- A disk on which no folder is lost, and whose device stays the same. -/
structure Grows (disk after : Disk) : Prop where
  folders : ∀ place, disk.standing? place = some .folder → after.standing? place = some .folder
  device : after.device = disk.device

theorem Grows.refl (disk : Disk) : Grows disk disk :=
  ⟨fun _ h => h, rfl⟩

theorem Grows.trans {first second third : Disk} (h : Grows first second)
    (h' : Grows second third) : Grows first third :=
  ⟨fun place hfolder => h'.folders place (h.folders place hfolder), h'.device.trans h.device⟩

theorem grows_put (hplace : disk.standing? place ≠ some .folder) (entry : Entry) :
    Grows disk (disk.put place entry) := by
  refine ⟨fun other hfolder => ?_, rfl⟩
  have hne : other ≠ place := by
    rintro rfl
    exact hplace hfolder
  rw [standing_put hplace, if_neg hne, hfolder]

theorem grows_remove (hplace : disk.standing? place ≠ some .folder) :
    Grows disk (disk.remove place) := by
  refine ⟨fun other hfolder => ?_, rfl⟩
  have hne : other ≠ place := by
    rintro rfl
    exact hplace hfolder
  rw [standing_remove hplace, if_neg hne, hfolder]

theorem Grows.enter (h : Grows disk after) {next : Place} {name : Text}
    (henter : disk.enter place name = .ok next) : after.enter place name = .ok next := by
  unfold Disk.enter at henter ⊢
  split at henter
  · cases henter
  · cases henter
  next hfolder =>
    rw [h.folders place hfolder]
    exact henter

theorem Grows.follow (h : Grows disk after) {names : List Text} {found : Place}
    (hfollow : disk.follow place names = .ok found) : after.follow place names = .ok found := by
  induction names generalizing place with
  | nil => exact hfollow
  | cons name rest ih =>
    rw [Disk.follow] at hfollow ⊢
    cases henter : disk.enter place name with
    | error failure => rw [henter] at hfollow; cases hfollow
    | ok next =>
      rw [henter] at hfollow
      rw [h.enter henter]
      exact ih hfollow

/-- A path leads where it led before. -/
theorem Grows.locate (h : Grows disk after) {path : Path}
    (hlocate : disk.locate path = .ok place) : after.locate path = .ok place := by
  unfold Disk.locate at hlocate ⊢
  split at hlocate
  · cases hlocate
  next hlength =>
    rw [if_neg hlength]
    exact h.follow hlocate

theorem isFolder_iff {path : Path} : disk.isFolder path = true ↔
    ∃ place, disk.locate path = .ok place ∧ disk.standing? place = some .folder := by
  unfold isFolder entryAt
  cases hlocate : disk.locate path with
  | error failure => simp [bind, Except.bind]
  | ok place =>
    cases hstanding : disk.standing? place with
    | none => simp [bind, Except.bind, hstanding]
    | some entry => cases entry <;> simp [bind, Except.bind, pure, Except.pure, hstanding]

theorem Grows.isFolder (h : Grows disk after) {path : Path}
    (hfolder : disk.isFolder path = true) : after.isFolder path = true := by
  obtain ⟨place, hlocate, hstanding⟩ := isFolder_iff.mp hfolder
  exact isFolder_iff.mpr ⟨place, h.locate hlocate, h.folders place hstanding⟩

/-- Whether a folder is accepted or not, nothing happens to the disk. -/
theorem preserves_acceptFolder {invariant : Disk → Prop} (path : Path)
    (result : Except Fault Unit) : Preserves invariant (acceptFolder path result) := by
  intro disk h
  simp only [runOn, acceptFolder, ExceptT.run]
  split
  · split <;> exact h
  · exact h

/-- What is preserved where one folder is made is preserved where all of a path are. -/
theorem preserves_makeFolders {invariant : Disk → Prop}
    (hfolder : ∀ path, Preserves invariant (makeFolder path)) (names : Nat) (path : Path) :
    Preserves invariant (makeFolders names path) := by
  have hmake : ∀ path, Preserves invariant (makeFolder path).settled := fun path disk h =>
    hfolder path disk h
  induction names generalizing path with
  | zero => exact (hmake path).bind fun _ => preserves_acceptFolder path _
  | succ names ih =>
    refine (hmake path).bind fun result => ?_
    split
    · refine (ih path.parent).bind fun _ => (hmake path).bind fun again => ?_
      split
      · exact preserves_ofExcept again
      · exact preserves_acceptFolder path again
    · exact preserves_acceptFolder path result

/-- A folder that was made stands where its path leads. -/
theorem isFolder_of_makeFolder {path : Path}
    (h : (makeFolder path).runOn disk = (.ok (), after)) :
    unusable? path = none ∧ after.isFolder path = true := by
  simp only [runOn, makeFolder, ExceptT.run] at h
  split at h
  · cases h
  · cases h
  next place husable hlocate =>
    split at h
    · cases h
    next hnone =>
      split at h
      · cases h
      · cases h
        have hfree : disk.standing? place ≠ some .folder := by simp [hnone]
        refine ⟨husable, isFolder_iff.mpr ⟨place, (grows_put hfree _).locate hlocate, ?_⟩⟩
        rw [standing_put hfree, if_pos rfl]

/-- Only on a path that can be asked for the device is at fault. -/
theorem usable_of_makeFolder {path : Path} {error : FileError}
    (h : ((makeFolder path).runOn disk).1 = .error (.file error)) : unusable? path = none := by
  simp only [runOn, makeFolder, ExceptT.run] at h
  cases husable : unusable? path with
  | none => rfl
  | some fault =>
    rw [husable] at h
    cases h
    unfold unusable? at husable
    split at husable
    · cases husable
    · split at husable <;> cases husable

theorem isFolder_of_acceptFolder {path : Path} {result : Except Fault Unit}
    (h : (acceptFolder path result).runOn disk = (.ok (), after)) :
    after = disk ∧ (result = .ok () ∨
      (∃ error, result = .error (.file error)) ∧ disk.isFolder path = true) := by
  simp only [runOn, acceptFolder, ExceptT.run] at h
  split at h
  next error =>
    split at h
    next hfolder =>
      cases h
      exact ⟨rfl, Or.inr ⟨⟨error, rfl⟩, hfolder⟩⟩
    · cases h
  · cases h
    exact ⟨rfl, Or.inl rfl⟩

/-- Behind the attempt to make a folder the path leads to one, if it is accepted. -/
theorem isFolder_of_made {path : Path} {made : Disk}
    (h : (acceptFolder path ((makeFolder path).runOn disk).1).runOn
      ((makeFolder path).runOn disk).2 = (.ok (), made)) :
    unusable? path = none ∧ made.isFolder path = true := by
  obtain ⟨rfl, hmade | ⟨⟨error, herror⟩, hfolder⟩⟩ := isFolder_of_acceptFolder h
  · exact isFolder_of_makeFolder (Prod.ext hmade rfl)
  · exact ⟨usable_of_makeFolder herror, hfolder⟩

theorem isFolder_of_makeFolders {names : Nat} {path : Path}
    (h : (makeFolders names path).runOn disk = (.ok (), after)) :
    unusable? path = none ∧ after.isFolder path = true := by
  cases names with
  | zero =>
    rw [makeFolders, runOn_bind, runOn_settled] at h
    exact isFolder_of_made h
  | succ names =>
    rw [makeFolders, runOn_bind, runOn_settled] at h
    simp only at h
    split at h
    · rw [runOn_bind] at h
      split at h
      next parents hparents =>
        rw [runOn_bind, runOn_settled] at h
        simp only at h
        split at h
        next hmissing =>
          rw [runOn_ofExcept] at h
          have hmade := congrArg Prod.fst h
          simp only at hmade
          rw [hmade] at hmissing
          cases hmissing
        · exact isFolder_of_made h
      · cases h
    · exact isFolder_of_made h

/-- A folder that stands already is accepted. -/
theorem runOn_makeFolders_of_isFolder (names : Nat) {path : Path} (husable : unusable? path = none)
    (hfolder : disk.isFolder path = true) :
    (makeFolders names path).runOn disk = (.ok (), disk) := by
  obtain ⟨place, hlocate, hstanding⟩ := isFolder_iff.mp hfolder
  have hmake : (makeFolder path).runOn disk = (.error (fault path .occupied), disk) := by
    simp only [runOn, makeFolder, ExceptT.run, husable, hlocate, hstanding]
  have haccept : (acceptFolder path (.error (fault path .occupied))).runOn disk =
      (.ok (), disk) := by
    simp only [runOn, acceptFolder, ExceptT.run, fault, hfolder, if_true]
  have hpresent : isMissing (.error (fault path .occupied)) = false := rfl
  cases names with
  | zero =>
    rw [makeFolders, runOn_bind, runOn_settled, hmake]
    exact haccept
  | succ names =>
    rw [makeFolders, runOn_bind, runOn_settled, hmake]
    simp only [hpresent, Bool.false_eq_true, if_false]
    exact haccept

end Disk

end HostLifecycle.Storage
