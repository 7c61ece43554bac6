import HostLifecycle.Audit.Recorder
import HostLifecycle.Proofs.Storage.Folders

/-!
Files that are replaced. A text is written to a second file, which takes the place of the first
one. A file that was replaced once can be read, and it can be replaced again by any other text.
-/

namespace HostLifecycle.Storage

open Attempt

namespace Disk

variable {disk after : Disk} {place : Place}

/-- A disk on which the file of a path can be replaced, by way of a second file: the folder of
the path stands, both paths lead to places that are no folders, and the device refuses none of
the steps. -/
structure Takes (disk : Disk) (path second : Path) (origin goal : Place) : Prop where
  parent : unusable? path.parent = none ∧ disk.isFolder path.parent = true
  second_eq : path.withExtension? ".tmp" = some second
  usable_second : unusable? second = none
  usable : unusable? path = none
  locate_second : disk.locate second = .ok origin
  locate : disk.locate path = .ok goal
  origin_free : disk.standing? origin ≠ some .folder
  goal_free : disk.standing? goal ≠ some .folder
  opens : disk.device.refuses .openFile = none
  writes : disk.device.refuses .writeFile = none
  replaces : disk.device.refuses .replaceFile = none

def written (disk : Disk) (place : Place) (content : ByteArray) : Disk :=
  (disk.put place (.file .empty)).put place (.file content)

theorem grows_written (hplace : disk.standing? place ≠ some .folder) (content : ByteArray) :
    Grows disk (disk.written place content) := by
  have hopened : (disk.put place (.file .empty)).standing? place ≠ some .folder := by
    rw [standing_put hplace, if_pos rfl]
    simp
  exact (grows_put hplace _).trans (grows_put hopened _)

theorem standing_written (hplace : disk.standing? place ≠ some .folder) (content : ByteArray)
    (other : Place) : (disk.written place content).standing? other =
      if other = place then some (.file content) else disk.standing? other := by
  have hopened : (disk.put place (.file .empty)).standing? place ≠ some .folder := by
    rw [standing_put hplace, if_pos rfl]
    simp
  rw [written, standing_put hopened, standing_put hplace]
  split <;> rfl

/-- No folder comes up where a content is written. -/
theorem grows_of_written (hplace : disk.standing? place ≠ some .folder) (content : ByteArray) :
    Grows (disk.written place content) disk := by
  refine ⟨fun other hfolder => ?_, rfl⟩
  rw [standing_written hplace] at hfolder
  split at hfolder
  · cases hfolder
  · exact hfolder

theorem runOn_write {path : Path} (husable : unusable? path = none)
    (hlocate : disk.locate path = .ok place) (hplace : disk.standing? place ≠ some .folder)
    (hopens : disk.device.refuses .openFile = none)
    (hwrites : disk.device.refuses .writeFile = none) (content : ByteArray) :
    (write path content).runOn disk = (.ok (), disk.written place content) := by
  have hopen : (openForWriting path).runOn disk = (.ok place, disk.put place (.file .empty)) := by
    simp only [runOn, openForWriting, openFile, ExceptT.run, husable, hlocate, hopens]
    rfl
  have hfill : (fill place content).runOn (disk.put place (.file .empty)) =
      (.ok (), disk.written place content) := by
    have hdevice : (disk.put place (.file .empty)).device.refuses .writeFile = none := hwrites
    simp only [runOn, fill, ExceptT.run, hdevice]
    rfl
  rw [write, runOn_bind_ok hopen]
  exact hfill

/-- What has to be the case for a file to be written. -/
theorem of_runOn_write {path : Path} {content : ByteArray}
    (h : (write path content).runOn disk = (.ok (), after)) :
    unusable? path = none ∧ ∃ place, disk.locate path = .ok place ∧
      disk.standing? place ≠ some .folder ∧ disk.device.refuses .openFile = none ∧
      disk.device.refuses .writeFile = none ∧ after = disk.written place content := by
  rw [write, runOn_bind] at h
  split at h
  next place opened hopen =>
    simp only [runOn, openForWriting, openFile, ExceptT.run] at hopen
    split at hopen
    · cases hopen
    · cases hopen
    next found husable hlocate =>
      split at hopen
      · cases hopen
      next hplace =>
        split at hopen
        · cases hopen
        next hopens =>
          cases hopen
          simp only [runOn, fill, ExceptT.run] at h
          split at h
          · cases h
          next hwrites =>
            cases h
            exact ⟨husable, place, hlocate, hplace, hopens, hwrites, rfl⟩
  · cases h

/-- The disk once a file was moved from a place to another one. -/
def moved (disk : Disk) (origin goal : Place) (entry : Entry) : Disk :=
  if origin == goal then disk else (disk.remove origin).put goal entry

/-- What has to be the case for a file to be moved. -/
theorem of_runOn_replace {source target : Path} {origin : Place} {content : ByteArray}
    (hlocate : disk.locate source = .ok origin)
    (hstanding : disk.standing? origin = some (.file content))
    (h : (replace source target).runOn disk = (.ok (), after)) :
    unusable? target = none ∧ ∃ goal, disk.locate target = .ok goal ∧
      disk.standing? goal ≠ some .folder ∧ disk.device.refuses .replaceFile = none := by
  simp only [runOn, replace, ExceptT.run, hlocate] at h
  split at h
  · cases h
  · cases h
  · cases h
  next found goal husable hfound hgoal =>
    cases hfound
    have htarget : unusable? target = none := by
      cases hsource : unusable? source with
      | none => rw [hsource] at husable; exact husable
      | some fault => rw [hsource] at husable; cases husable
    rw [hstanding] at h
    have hfree : disk.standing? goal ≠ some .folder := by
      intro hfolder
      rw [hfolder] at h
      cases h
    refine ⟨htarget, goal, hgoal, hfree, ?_⟩
    cases hreplaces : disk.device.refuses .replaceFile with
    | none => rfl
    | some failure =>
      rw [hreplaces] at h
      cases hbefore : disk.standing? goal with
      | none => rw [hbefore] at h; cases h
      | some entry =>
        rw [hbefore] at h
        cases entry with
        | folder => exact absurd hbefore hfree
        | file => cases h

theorem runOn_replace {source target : Path} {origin goal : Place} {content : ByteArray}
    (hsource : unusable? source = none) (htarget : unusable? target = none)
    (horigin : disk.locate source = .ok origin) (hgoal : disk.locate target = .ok goal)
    (hstanding : disk.standing? origin = some (.file content))
    (hfree : disk.standing? goal ≠ some .folder)
    (hreplaces : disk.device.refuses .replaceFile = none) :
    (replace source target).runOn disk = (.ok (), disk.moved origin goal (.file content)) := by
  simp only [runOn, replace, ExceptT.run, hsource, htarget, horigin, hgoal, hstanding,
    hreplaces, Option.or]
  cases hbefore : disk.standing? goal with
  | none => simp only [moved]; split <;> rfl
  | some entry =>
    cases entry with
    | folder => exact absurd hbefore hfree
    | file => simp only [moved]; split <;> rfl

theorem grows_moved {origin goal : Place} {content : ByteArray}
    (horigin : disk.standing? origin = some (.file content))
    (hgoal : disk.standing? goal ≠ some .folder) :
    Grows disk (disk.moved origin goal (.file content)) := by
  have hfile : disk.standing? origin ≠ some .folder := by simp [horigin]
  unfold moved
  split
  · exact Grows.refl disk
  · have hfree : (disk.remove origin).standing? goal ≠ some .folder := by
      rw [standing_remove hfile]
      split
      · simp
      · exact hgoal
    exact (grows_remove hfile).trans (grows_put hfree _)

/-- A file that was moved stands at its goal, and nothing stands where it was. -/
theorem standing_moved {origin goal : Place} {content : ByteArray}
    (horigin : disk.standing? origin = some (.file content))
    (hgoal : disk.standing? goal ≠ some .folder) :
    (disk.moved origin goal (.file content)).standing? goal = some (.file content) ∧
      (disk.moved origin goal (.file content)).standing? origin ≠ some .folder := by
  have hfile : disk.standing? origin ≠ some .folder := by simp [horigin]
  unfold moved
  split
  next hsame =>
    have heq : origin = goal := by simpa using hsame
    subst heq
    exact ⟨horigin, hfile⟩
  next hother =>
    have hne : origin ≠ goal := by simpa using hother
    have hfree : (disk.remove origin).standing? goal ≠ some .folder := by
      rw [standing_remove hfile, if_neg (Ne.symm hne)]
      exact hgoal
    rw [standing_put hfree, standing_put hfree, if_pos rfl, if_neg hne, standing_remove hfile,
      if_pos rfl]
    simp

/-- The disk once the file of a path was replaced. -/
def replaced (disk : Disk) (origin goal : Place) (content : ByteArray) : Disk :=
  (disk.written origin content).moved origin goal (.file content)

namespace Takes

open Audit

variable {path second : Path} {origin goal : Place} (h : disk.Takes path second origin goal)
include h

theorem standing_origin (content : ByteArray) :
    (disk.written origin content).standing? origin = some (.file content) := by
  rw [standing_written h.origin_free, if_pos rfl]

theorem goal_written (content : ByteArray) :
    (disk.written origin content).standing? goal ≠ some .folder := by
  rw [standing_written h.origin_free]
  split
  · simp
  · exact h.goal_free

theorem grows_replaced (content : ByteArray) : Grows disk (disk.replaced origin goal content) :=
  (grows_written h.origin_free content).trans
    (grows_moved (h.standing_origin content) (h.goal_written content))

/-- A disk that takes the file of a path takes it again. -/
theorem replaced (content : ByteArray) :
    (disk.replaced origin goal content).Takes path second origin goal := by
  have hgrows := h.grows_replaced content
  obtain ⟨hgoal, horigin⟩ := standing_moved (h.standing_origin content) (h.goal_written content)
  have hfile : (disk.replaced origin goal content).standing? goal = some (.file content) := hgoal
  exact {
    parent := ⟨h.parent.1, hgrows.isFolder h.parent.2⟩
    second_eq := h.second_eq
    usable_second := h.usable_second
    usable := h.usable
    locate_second := hgrows.locate h.locate_second
    locate := hgrows.locate h.locate
    origin_free := horigin
    goal_free := by simp [hfile]
    opens := hgrows.device ▸ h.opens
    writes := hgrows.device ▸ h.writes
    replaces := hgrows.device ▸ h.replaces }

/-- What replaced the file of a path is read there. -/
theorem read_replaced (content : ByteArray) :
    (disk.replaced origin goal content).holds path = .ok true ∧
      (disk.replaced origin goal content).read path = .ok content := by
  have hlocate := (h.grows_replaced content).locate h.locate
  have hstanding : (disk.replaced origin goal content).standing? goal = some (.file content) :=
    (standing_moved (h.standing_origin content) (h.goal_written content)).1
  have hentry : (disk.replaced origin goal content).entryAt path = .ok (.file content) := by
    simp only [entryAt, hlocate, bind, Except.bind, hstanding]
    rfl
  simp [holds, entry?, read, h.usable, hentry, Except.map]

theorem runOn_replaceFile (text : String) :
    (Trail.replaceFile path text).runOn disk =
      (.ok (), disk.replaced origin goal text.toUTF8) := by
  have hgrows := grows_written h.origin_free text.toUTF8
  have hparents : (makeParents path).runOn disk = (.ok (), disk) :=
    runOn_makeFolders_of_isFolder _ h.parent.1 h.parent.2
  have hwrite := runOn_write h.usable_second h.locate_second h.origin_free h.opens h.writes
    text.toUTF8
  have hreplace := runOn_replace h.usable_second h.usable (hgrows.locate h.locate_second)
    (hgrows.locate h.locate) (h.standing_origin _) (h.goal_written _)
    (hgrows.device ▸ h.replaces)
  rw [Trail.replaceFile, runOn_bind_ok hparents, h.second_eq]
  simp only
  rw [runOn_bind_ok hwrite]
  exact hreplace

end Takes

/-- What has to be the case for the file of a path to be replaced once the folder of the path
was made. -/
theorem exists_takes_of_replaceFile {path : Path} {text : String}
    (h : (Audit.Trail.replaceFile path text).runOn disk = (.ok (), after)) :
    ∃ parents second origin goal, (makeParents path).runOn disk = (.ok (), parents) ∧
      parents.Takes path second origin goal := by
  rw [Audit.Trail.replaceFile, runOn_bind] at h
  split at h
  next parents hparents =>
    split at h
    · cases h
    next second hsecond =>
      rw [runOn_bind] at h
      split at h
      next written hwrite =>
        obtain ⟨husable, origin, hlocate, hfree, hopens, hwrites, rfl⟩ := of_runOn_write hwrite
        have hgrows := grows_written hfree text.toUTF8
        have hstanding : (parents.written origin text.toUTF8).standing? origin =
            some (.file text.toUTF8) := by
          rw [standing_written hfree, if_pos rfl]
        obtain ⟨htarget, goal, hgoal, hgoalFree, hreplaces⟩ :=
          of_runOn_replace (hgrows.locate hlocate) hstanding h
        refine ⟨parents, second, origin, goal, hparents, ?_⟩
        exact {
          parent := isFolder_of_makeFolders hparents
          second_eq := hsecond
          usable_second := husable
          usable := htarget
          locate_second := hlocate
          locate := (grows_of_written hfree text.toUTF8).locate hgoal
          origin_free := hfree
          goal_free := fun hfolder => hgoalFree (hgrows.folders goal hfolder)
          opens := hopens
          writes := hwrites
          replaces := hreplaces }
      · cases h
  · cases h

/-- A file that was replaced took the second file's place, once the folder of its path was made. -/
theorem exists_replaced_of_replaceFile {path : Path} {text : String}
    (h : (Audit.Trail.replaceFile path text).runOn disk = (.ok (), after)) :
    ∃ (parents : Disk) (second : Path) (origin goal : Place),
      parents.Takes path second origin goal ∧
        after = parents.replaced origin goal text.toUTF8 := by
  obtain ⟨parents, second, origin, goal, hparents, htakes⟩ := exists_takes_of_replaceFile h
  have hagain : (makeParents path).runOn parents = (.ok (), parents) :=
    runOn_makeFolders_of_isFolder _ htakes.parent.1 htakes.parent.2
  have hsame : (Audit.Trail.replaceFile path text).runOn disk =
      (Audit.Trail.replaceFile path text).runOn parents := by
    rw [Audit.Trail.replaceFile, runOn_bind_ok hparents, runOn_bind_ok hagain]
  rw [h, htakes.runOn_replaceFile text] at hsame
  exact ⟨parents, second, origin, goal, htakes, congrArg Prod.snd hsame⟩

/-- A disk on which any text can be saved at a path. -/
def Saves (path : Path) (disk : Disk) : Prop :=
  ∀ text, ((Audit.Trail.replaceFile path text).runOn disk).1 = .ok ()

theorem Takes.saves {path second : Path} {origin goal : Place}
    (h : disk.Takes path second origin goal) : disk.Saves path := by
  intro text
  rw [h.runOn_replaceFile text]

/-- Where texts can be saved, one that was saved is read, and others can be saved again. -/
theorem Saves.replaceFile {path : Path} (h : disk.Saves path) (text : String) :
    ∃ after, (Audit.Trail.replaceFile path text).runOn disk = (.ok (), after) ∧
      after.Saves path ∧ after.holds path = .ok true ∧ after.read path = .ok text.toUTF8 := by
  have hsaved : (Audit.Trail.replaceFile path text).runOn disk =
      (.ok (), ((Audit.Trail.replaceFile path text).runOn disk).2) := Prod.ext (h text) rfl
  obtain ⟨parents, second, origin, goal, htakes, hreplaced⟩ :=
    exists_replaced_of_replaceFile hsaved
  obtain ⟨hholds, hread⟩ := htakes.read_replaced text.toUTF8
  rw [hreplaced] at hsaved
  exact ⟨_, hsaved, (htakes.replaced _).saves, hholds, hread⟩

end Disk

end HostLifecycle.Storage
