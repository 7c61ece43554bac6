import HostLifecycle.Proofs.Audit.Recording
import HostLifecycle.Proofs.Storage.Saving

/-!
Recorders that take every event. Such a recorder has no file, or one that can be asked for and
that was read or can be. Recording a message ends with an event then, whatever the file system does
when the events are saved, and behind it the recorder takes the next one.
-/

namespace HostLifecycle.Audit

open Logging Storage Attempt

namespace Trail

/-- Whether the events can be saved or not, a save at a path that can be asked for goes on. -/
theorem exists_saved {trail : Trail} {path : Path} (hfile : trail.recorder.logFile = some path)
    (husable : Disk.unusable? path = none) (hname : path.name ≠ "") :
    ∃ saved, save.runOn trail = (.ok (), saved) ∧ saved.recorder = trail.recorder := by
  have hfails := Disk.fails_replaceFile husable hname
    (Json.write .indented (.list trail.recorder.events)) trail.around.disk
  rw [save, runOn_bind, runOn_get]
  simp only [hfile, saveFile]
  rw [runOn_bind, runOn_settled]
  simp only [onDisk, runOn_within]
  rcases hresult : ((replaceFile path
    (Json.write .indented (.list trail.recorder.events))).runOn trail.around.disk).1 with fault | ⟨⟩
  · obtain ⟨error, rfl⟩ := hfails fault hresult
    exact ⟨_, rfl, rfl⟩
  · exact ⟨_, rfl, rfl⟩

theorem runOn_loadFile_ticked (path : Path) (trail : Trail) :
    (loadFile path).runOn trail.ticked =
      (((loadFile path).runOn trail).1, ((loadFile path).runOn trail).2.ticked) := by
  rw [loadFile, runOn_bind, runOn_bind, runOn_get, runOn_get]
  simp only
  rw [runOn_bind, runOn_bind, runOn_ofExcept, runOn_ofExcept]
  have hdisk : trail.ticked.around.disk = trail.around.disk := rfl
  have hcapacity : trail.ticked.recorder.capacity = trail.recorder.capacity := rfl
  rw [hdisk, hcapacity]
  rcases trail.around.disk.holds path with fault | present
  · rfl
  · cases present with
    | false => rfl
    | true => cases loadFrom trail.around.disk path trail.recorder.capacity <;> rfl

/-- The file is read alike at any time. -/
theorem runOn_load_ticked (trail : Trail) :
    load.runOn trail.ticked = ((load.runOn trail).1, (load.runOn trail).2.ticked) := by
  cases hloaded : trail.recorder.loaded with
  | true =>
    have hticked : trail.ticked.recorder.loaded = true := hloaded
    rw [runOn_load_of_loaded hloaded, runOn_load_of_loaded hticked]
  | false =>
    have hticked : trail.ticked.recorder.loaded = false := hloaded
    cases hfile : trail.recorder.logFile with
    | none =>
      rw [runOn_load_of_none trail hfile, runOn_load_of_none trail.ticked hfile]
      rfl
    | some path =>
      rw [runOn_load_of_unloaded hloaded hfile, runOn_load_of_unloaded hticked hfile]
      exact runOn_loadFile_ticked path trail.opening

/-- Whatever a file is read as, the recorder keeps to it. -/
theorem keeps_loadFile (path : Path) :
    Keeps (fun trail : Trail => (trail.recorder.loaded, trail.recorder.logFile))
      (loadFile path) := by
  refine keeps_get.bind fun trail => (keeps_ofExcept _).bind fun present => ?_
  split
  · cases loadFrom trail.around.disk path trail.recorder.capacity <;> exact fun _ => rfl
  · exact keeps_pure ()

theorem of_runOn_load {trail taken : Trail} (h : load.runOn trail = (.ok (), taken)) :
    taken.recorder.loaded = true ∧ taken.recorder.logFile = trail.recorder.logFile := by
  cases hloaded : trail.recorder.loaded with
  | true =>
    rw [runOn_load_of_loaded hloaded] at h
    cases h
    exact ⟨hloaded, rfl⟩
  | false =>
    cases hfile : trail.recorder.logFile with
    | none =>
      rw [runOn_load_of_none trail hfile] at h
      cases h
      exact ⟨rfl, hfile⟩
    | some path =>
      rw [runOn_load_of_unloaded hloaded hfile] at h
      have hkept := keeps_loadFile path trail.opening
      rw [h, Prod.mk.injEq] at hkept
      exact ⟨hkept.1, hkept.2.trans hfile⟩

/-- A recorder that takes every event: the file was read or can be, if there is one, and its path
is that of a file. -/
structure TakesEvents (trail : Trail) : Prop where
  load : (load.runOn trail).1 = .ok ()
  path : ∀ path, trail.recorder.logFile = some path →
    Disk.unusable? path = none ∧ path.name ≠ ""

variable {trail : Trail}

theorem takesEvents_of_loaded (hloaded : trail.recorder.loaded = true)
    (hpath : ∀ path, trail.recorder.logFile = some path →
      Disk.unusable? path = none ∧ path.name ≠ "") : trail.TakesEvents where
  load := by rw [runOn_load_of_loaded hloaded]
  path := hpath

theorem takesEvents_of_none (hfile : trail.recorder.logFile = none) : trail.TakesEvents where
  load := by rw [runOn_load_of_none trail hfile]
  path := by simp [hfile]

theorem TakesEvents.exists_saved (h : trail.TakesEvents) :
    ∃ saved, save.runOn trail = (.ok (), saved) ∧ saved.recorder = trail.recorder := by
  cases hfile : trail.recorder.logFile with
  | none => exact ⟨trail, runOn_save_of_none hfile, rfl⟩
  | some path =>
    obtain ⟨husable, hname⟩ := h.path path hfile
    exact Trail.exists_saved hfile husable hname

/-- Every message is recorded. -/
theorem TakesEvents.record (h : trail.TakesEvents) (host reason eventClass : Value)
    (message : Text) : ∃ event behind,
      (Trail.record host reason (.str message) eventClass).runOn trail = (.ok event, behind) ∧
        behind.TakesEvents ∧ behind.recorder.logFile = trail.recorder.logFile := by
  obtain ⟨shown, hshown⟩ := redactMessage_str trail.recorder.redacts message
  obtain ⟨taken, htaken⟩ : ∃ taken, Trail.load.runOn trail = (.ok (), taken) :=
    ⟨_, Prod.ext h.load rfl⟩
  have hload : Trail.load.runOn trail.ticked = (.ok (), taken.ticked) := by
    rw [runOn_load_ticked, htaken]
  obtain ⟨hloaded, hfile⟩ := of_runOn_load htaken
  let event := eventOf trail.time host reason (.str shown) eventClass
  let kept := taken.ticked.keeping (lastOf taken.recorder.capacity
    (taken.recorder.events ++ [event]))
  have hread : kept.recorder.loaded = true := hloaded
  have hkept : kept.TakesEvents := by
    apply takesEvents_of_loaded hread
    intro path hpath
    exact h.path path (hfile.symm.trans hpath)
  obtain ⟨saved, hsave, hrecorder⟩ := hkept.exists_saved
  have hsaved : saved.recorder.logFile = trail.recorder.logFile :=
    (congrArg Recorder.logFile hrecorder).trans hfile
  refine ⟨event, _, runOn_record_noted hshown hload hsave, ?_, hsaved⟩
  apply takesEvents_of_loaded
  · exact (congrArg Recorder.loaded hrecorder).trans hread
  · intro path hpath
    exact h.path path (hsaved.symm.trans hpath)

end Trail

end HostLifecycle.Audit
