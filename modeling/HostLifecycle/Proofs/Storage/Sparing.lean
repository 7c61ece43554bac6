import HostLifecycle.Proofs.Storage.Leading
import HostLifecycle.Proofs.Storage.Replacing

/-!
What a replacement that fails leaves alone. The folders that it made stay, and something may be
left of the second file; every other file is what it was, and none has come up.
-/

namespace HostLifecycle.Storage

open Attempt

namespace Disk

variable {disk after : Disk} {place origin goal : Place} {path second : Path}

/-- Every file stands on both disks as it is, but for those at places that are set apart. -/
def SameFiles (apart : Place → Prop) (disk after : Disk) : Prop :=
  ∀ place, ¬ apart place → ∀ content,
    after.standing? place = some (.file content) ↔ disk.standing? place = some (.file content)

variable {apart : Place → Prop}

theorem SameFiles.refl (disk : Disk) : SameFiles apart disk disk :=
  fun _ _ _ => Iff.rfl

theorem SameFiles.trans {first second third : Disk} (h : SameFiles apart first second)
    (h' : SameFiles apart second third) : SameFiles apart first third :=
  fun place hplace content => (h' place hplace content).trans (h place hplace content)

/-- A disk that only grows, and on which the files stay as they are. -/
structure Spares (apart : Place → Prop) (disk after : Disk) : Prop extends Grows disk after where
  files : SameFiles apart disk after

theorem Spares.refl (disk : Disk) : Spares apart disk disk :=
  ⟨Grows.refl disk, SameFiles.refl disk⟩

theorem Spares.trans {first second third : Disk} (h : Spares apart first second)
    (h' : Spares apart second third) : Spares apart first third :=
  ⟨h.toGrows.trans h'.toGrows, h.files.trans h'.files⟩

theorem spares_put_folder (hnone : disk.standing? place = none) :
    Spares apart disk (disk.put place .folder) := by
  have hfree : disk.standing? place ≠ some .folder := by simp [hnone]
  refine ⟨grows_put hfree _, fun other _ content => ?_⟩
  rw [standing_put hfree]
  split
  next heq => simp [heq, hnone]
  · exact Iff.rfl

theorem spares_written (hplace : disk.standing? place ≠ some .folder) (content : ByteArray) :
    Spares (· = place) disk (disk.written place content) := by
  refine ⟨grows_written hplace content, fun other hother found => ?_⟩
  rw [standing_written hplace, if_neg hother]

section

variable {start : Disk}

theorem spares_makeFolder (path : Path) : Preserves (Spares apart start) (makeFolder path) := by
  intro disk h
  simp only [runOn, makeFolder, ExceptT.run]
  split
  · exact h
  · exact h
  · split
    · exact h
    next hnone =>
      split
      · exact h
      · exact h.trans (spares_put_folder hnone)

theorem spares_makeFolders (names : Nat) (path : Path) :
    Preserves (Spares apart start) (makeFolders names path) :=
  preserves_makeFolders spares_makeFolder names path

end

theorem spares_makeParents (apart : Place → Prop) {result : Except Fault Unit}
    (h : (makeParents path).runOn disk = (result, after)) : Spares apart disk after := by
  have hmade : Spares apart disk ((makeParents path).runOn disk).2 :=
    spares_makeFolders path.names.length path.parent disk (Spares.refl disk)
  rw [h] at hmade
  exact hmade

/-- A file is written where its path leads, or nothing is; what is written may be a part only. -/
theorem written_of_write {content : ByteArray} {result : Except Fault Unit}
    (h : (write path content).runOn disk = (result, after)) :
    after = disk ∨ ∃ place left, disk.locate path = .ok place ∧
      disk.standing? place ≠ some .folder ∧ after = disk.written place left := by
  rw [write, runOn_bind] at h
  split at h
  next place opened hopen =>
    right
    simp only [runOn, openForWriting, openFile, ExceptT.run] at hopen
    split at hopen
    · cases hopen
    · cases hopen
    next found husable hlocate =>
      split at hopen
      · cases hopen
      next hplace =>
        split at hopen
        · cases hopen
        · cases hopen
          simp only [runOn, fill, ExceptT.run] at h
          split at h <;> cases h <;> exact ⟨place, _, hlocate, hplace, rfl⟩
  next fault opened hopen =>
    left
    cases h
    simp only [runOn, openForWriting, openFile, ExceptT.run] at hopen
    split at hopen
    · cases hopen; rfl
    · cases hopen; rfl
    · split at hopen
      · cases hopen; rfl
      · split at hopen
        · cases hopen; rfl
        · cases hopen

/-- A file that cannot be moved stays where it is. -/
theorem eq_of_replace_error {source target : Path} {fault : Fault}
    (h : (replace source target).runOn disk = (.error fault, after)) : after = disk := by
  simp only [runOn, replace, ExceptT.run] at h
  split at h
  · cases h; rfl
  · cases h; rfl
  · cases h; rfl
  · split at h
    · cases h; rfl
    · cases h; rfl
    · cases h; rfl
    · split at h
      · cases h; rfl
      · split at h <;> cases h

/-- Where the file of a path is not replaced, the folders of the path were made, as far as that
went, and a part of the text may have been written to the second file. -/
theorem written_of_failure {text : String} {fault : Fault}
    (hsecond : path.withExtension? ".tmp" = some second)
    (h : (Audit.Trail.replaceFile path text).runOn disk = (.error fault, after)) :
    let parents := ((makeParents path).runOn disk).2
    after = parents ∨ ∃ origin left, parents.locate second = .ok origin ∧
      parents.standing? origin ≠ some .folder ∧ after = parents.written origin left := by
  rw [Audit.Trail.replaceFile, runOn_bind] at h
  split at h
  next parents hparents =>
    rw [hparents]
    rw [hsecond] at h
    simp only at h
    rw [runOn_bind] at h
    split at h
    next written hwrite =>
      cases eq_of_replace_error h
      exact written_of_write hwrite
    next failed hwrite =>
      cases h
      exact written_of_write hwrite
  next failed hparents =>
    cases h
    rw [hparents]
    exact Or.inl rfl

/-- Where the file of a path is not replaced, nothing but the second file was touched. -/
theorem spares_of_failure {text : String} {fault : Fault}
    (hsecond : path.withExtension? ".tmp" = some second)
    (h : (Audit.Trail.replaceFile path text).runOn disk = (.error fault, after)) :
    Spares (fun place => after.locate second = .ok place) disk after := by
  have hmade : Spares (fun place => after.locate second = .ok place) disk
      ((makeParents path).runOn disk).2 :=
    spares_makeParents _ rfl
  rcases written_of_failure hsecond h with hsame | ⟨origin, left, hlocate, hplace, hwritten⟩
  · rw [← hsame] at hmade
    exact hmade
  · obtain ⟨hgrows, hfiles⟩ := spares_written hplace left
    rw [← hwritten] at hgrows hfiles
    refine hmade.trans ⟨hgrows, fun place hapart => hfiles place ?_⟩
    rintro rfl
    exact hapart (hgrows.locate hlocate)

/-- Where a path leads anywhere, no folder has to be made for it. -/
theorem runOn_makeParents_of_locate (hname : path.name ≠ "")
    (hlocate : disk.locate path = .ok goal) :
    ((makeParents path).runOn disk).2 = disk := by
  have hfolder := isFolder_parent_of_locate hname hlocate
  rw [makeParents]
  cases husable : unusable? path.parent with
  | none => rw [runOn_makeFolders_of_isFolder _ husable hfolder]
  | some fault =>
    -- a folder that cannot be asked for is not missing, so that none above it is made either
    have hmake : (makeFolder path.parent).runOn disk = (.error fault, disk) := by
      simp only [runOn, makeFolder, ExceptT.run, husable]
    have hpresent : isMissing (.error fault) = false := by
      unfold unusable? at husable
      split at husable
      · cases husable; rfl
      · split at husable <;> cases husable; rfl
    have haccept : ∀ result, Preserves (· = disk) (acceptFolder path.parent result) :=
      fun result => preserves_acceptFolder path.parent result
    cases path.names.length with
    | zero =>
      rw [makeFolders, runOn_bind, runOn_settled, hmake]
      exact haccept _ disk rfl
    | succ names =>
      rw [makeFolders, runOn_bind, runOn_settled, hmake]
      simp only [hpresent, Bool.false_eq_true, if_false]
      exact haccept _ disk rfl

/-- What is left of a disk where the file of a path could not be replaced by way of a second file:
every other file is what it was, and none has come up; the file of the path is another one; and
where the path led anywhere, it leads to what it led to. So a path without detours is read as it
was before, if the disk is in order. -/
structure Untouched (disk : Disk) (path second : Path) (after : Disk) : Prop where
  files : SameFiles (fun place => after.locate second = .ok place) disk after
  other : ∀ goal, after.locate path = .ok goal → after.locate second ≠ .ok goal
  kept : ∀ goal, disk.locate path = .ok goal → after.read path = disk.read path
  direct : disk.Rooted → (∀ name ∈ path.names, name ≠ upName) →
    ∀ content, after.read path = .ok content ↔ disk.read path = .ok content

/-- Where the path led, what stands there is what stood there. -/
theorem standing_of_failure {text : String} {fault : Fault}
    (hending : ¬ (".tmp" : Text) <:+ path.name)
    (hsecond : path.withExtension? ".tmp" = some second)
    (h : (Audit.Trail.replaceFile path text).runOn disk = (.error fault, after))
    (hlocate : disk.locate path = .ok goal) : after.standing? goal = disk.standing? goal := by
  have hname : path.name ≠ "" := by
    rw [Path.withExtension?] at hsecond
    split at hsecond
    · cases hsecond
    next hnonempty => simpa using hnonempty
  have hwritten := written_of_failure hsecond h
  rw [runOn_makeParents_of_locate hname hlocate] at hwritten
  rcases hwritten with rfl | ⟨origin, left, horigin, hplace, rfl⟩
  · rfl
  · have hne := ne_of_locate_second hending hsecond hlocate horigin
    rw [standing_written hplace, if_neg hne.symm]

theorem untouched_of_failure {text : String} {fault : Fault}
    (hending : ¬ (".tmp" : Text) <:+ path.name)
    (hsecond : path.withExtension? ".tmp" = some second)
    (h : (Audit.Trail.replaceFile path text).runOn disk = (.error fault, after)) :
    disk.Untouched path second after := by
  obtain ⟨hgrows, hfiles⟩ := spares_of_failure hsecond h
  have hother : ∀ goal, after.locate path = .ok goal → after.locate second ≠ .ok goal :=
    fun goal hgoal horigin => ne_of_locate_second hending hsecond hgoal horigin rfl
  have hkept : ∀ goal, disk.locate path = .ok goal → after.read path = disk.read path := by
    intro goal hlocate
    have hsame := standing_of_failure hending hsecond h hlocate
    have hentry : after.entryAt path = disk.entryAt path := by
      rw [entryAt, entryAt, hlocate, hgrows.locate hlocate]
      simp only [bind, Except.bind, hsame]
    rw [read, read, hentry]
  refine ⟨hfiles, hother, hkept, fun hrooted hnames content => ⟨fun hread => ?_, fun hread => ?_⟩⟩
  · obtain ⟨goal, hgoal, hstanding⟩ := exists_of_read hread
    rw [hfiles goal (hother goal hgoal)] at hstanding
    rw [← hkept goal (hrooted.locate hnames hgoal (by simp [hstanding])), hread]
  · obtain ⟨goal, hgoal, -⟩ := exists_of_read hread
    rw [hkept goal hgoal, hread]

theorem standing_origin_moved {content : ByteArray} (hne : origin ≠ goal)
    (horigin : disk.standing? origin = some (.file content))
    (hgoal : disk.standing? goal ≠ some .folder) :
    (disk.moved origin goal (.file content)).standing? origin = none := by
  have hfile : disk.standing? origin ≠ some .folder := by simp [horigin]
  have hfree : (disk.remove origin).standing? goal ≠ some .folder := by
    rw [standing_remove hfile, if_neg hne.symm]
    exact hgoal
  rw [moved, if_neg (by simpa using hne), standing_put hfree, if_neg hne, standing_remove hfile,
    if_pos rfl]

/-- Where the file of a path was replaced, it is read, and the second file is gone. -/
theorem stored_of_success {text : String} (hending : ¬ (".tmp" : Text) <:+ path.name)
    (h : (Audit.Trail.replaceFile path text).runOn disk = (.ok (), after)) :
    after.read path = .ok text.toUTF8 ∧
      ∀ second, path.withExtension? ".tmp" = some second → after.holds second = .ok false := by
  obtain ⟨parents, second, origin, goal, htakes, rfl⟩ := exists_replaced_of_replaceFile h
  refine ⟨(htakes.read_replaced _).2, fun other hother => ?_⟩
  rw [htakes.second_eq] at hother
  cases hother
  have hne := ne_of_locate_second hending htakes.second_eq htakes.locate htakes.locate_second
  have hlocate := (htakes.grows_replaced text.toUTF8).locate htakes.locate_second
  have hgone : (parents.replaced origin goal text.toUTF8).standing? origin = none :=
    standing_origin_moved hne (htakes.standing_origin _) (htakes.goal_written _)
  have hentry : (parents.replaced origin goal text.toUTF8).entryAt second = .error .notFound := by
    simp only [entryAt, hlocate, bind, Except.bind, hgone]
  simp only [holds, entry?, htakes.usable_second, hentry, Except.map, Option.isSome]

end Disk

end HostLifecycle.Storage
