import HostLifecycle.Proofs.Audit.Filing
import HostLifecycle.Proofs.Storage.Saving
import HostLifecycle.Proofs.Storage.Sparing

/-!
A recorder whose file cannot be saved. The call that saves comes to the same end as ever, and the
recorder holds what it would hold anyway. Either the file holds all of its events then, and the
second file is gone, or one error is logged, and no file but the second one was touched.
-/

namespace HostLifecycle.Audit

open Logging Storage Attempt

namespace Trail

def storedText (events : List Value) : String := Json.write .indented (.list events)

def unsaved (error : FileError) : LogEntry :=
  ⟨loggerName, .error, "Failed to save event log: " ++ error.message, []⟩

/-- What a save of events at a path, by way of a second file, leaves behind: every step was done
and the events are stored, or one failed, an error is logged, and no file but the second one was
touched. -/
inductive Saved (path second : Path) (events : List Value) (around after : Surroundings) :
    Prop where
  | stored
      (done : (replaceFile path (storedText events)).runOn around.disk = (.ok (), after.disk))
      (content : after.disk.read path = .ok (storedText events).toUTF8)
      (gone : after.disk.holds second = .ok false)
      (clock : after.clock = around.clock)
      (journal : after.journal = around.journal)
  | told (error : FileError)
      (failed : (replaceFile path (storedText events)).runOn around.disk =
        (.error (.file error), after.disk))
      (untouched : around.disk.Untouched path second after.disk)
      (clock : after.clock = around.clock)
      (journal : after.journal = around.journal ++ [unsaved error])

variable {trail : Trail} {path second : Path}

/-- Where only the file system can fail, a save comes to an end, and the events are stored, or
else no file but the second one is touched. -/
theorem runOn_save_cases (hfile : trail.recorder.logFile = some path)
    (hending : ¬ (".tmp" : Text) <:+ path.name)
    (hsecond : path.withExtension? ".tmp" = some second)
    (hfaults : ∀ text fault, ((replaceFile path text).runOn trail.around.disk).1 = .error fault →
      IsFileFault fault) :
    ∃ after, save.runOn trail = (.ok (), ⟨trail.recorder, after⟩) ∧
      Saved path second trail.recorder.events trail.around after := by
  have hkinds := hfaults (storedText trail.recorder.events)
  rw [save, runOn_bind, runOn_get]
  simp only [hfile, saveFile]
  rw [runOn_bind, runOn_settled]
  simp only [onDisk, runOn_within]
  rw [← storedText]
  rcases hrun : (replaceFile path (storedText trail.recorder.events)).runOn trail.around.disk with
    ⟨fault | _, disk⟩
  · rw [hrun] at hkinds
    obtain ⟨error, rfl⟩ := hkinds fault rfl
    have huntouched := Disk.untouched_of_failure hending hsecond hrun
    exact ⟨_, rfl, .told error hrun huntouched rfl rfl⟩
  · obtain ⟨hcontent, hgone⟩ := Disk.stored_of_success hending hrun
    exact ⟨_, rfl, .stored hrun hcontent (hgone second hsecond) rfl rfl⟩

/-- A recorder that has read its file records and clears, whichever step of the file system fails
when it saves. What it holds then is the same whether one fails or not. If none does, the file
holds the text of all events, and the second file is gone. If one does, one error is logged, and
every file but the second one is what it was, that of the recorder among them. -/
theorem saves_all_or_nothing (hloaded : trail.recorder.loaded = true)
    (hfile : trail.recorder.logFile = some path) (hname : path.name ≠ "")
    (hending : ¬ (".tmp" : Text) <:+ path.name)
    (hsteps : Disk.unusable? path = none ∨ ∀ text fault,
      ((replaceFile path text).runOn trail.around.disk).1 = .error fault → IsFileFault fault) :
    ∃ second, path.withExtension? ".tmp" = some second ∧
    (∀ (host reason eventClass : Value) (message : Text), ∃ shown after,
      redactMessage trail.recorder.redacts (.str message) = .ok shown ∧
      let event := eventOf trail.time host reason shown eventClass
      let kept := lastOf trail.recorder.capacity (trail.recorder.events ++ [event])
      (record host reason (.str message) eventClass).runOn trail =
        (.ok event, withJournal (after.journal ++ [noted host reason shown eventClass])
          ⟨{ trail.recorder with events := kept }, after⟩) ∧
      Saved path second kept trail.ticked.around after) ∧
    ∃ after, clear.runOn trail = (.ok (), ⟨{ trail.recorder with events := [] }, after⟩) ∧
      Saved path second [] trail.around after := by
  obtain ⟨second, hsecond⟩ : ∃ second, path.withExtension? ".tmp" = some second :=
    ⟨_, if_neg (by simpa using hname)⟩
  have hfaults : ∀ text fault, ((replaceFile path text).runOn trail.around.disk).1 =
      .error fault → IsFileFault fault := by
    rcases hsteps with husable | hfaults
    · exact fun text => Disk.fails_replaceFile husable hname text _
    · exact hfaults
  refine ⟨second, hsecond, fun host reason eventClass message => ?_, ?_⟩
  · obtain ⟨shown, hshown⟩ := redactMessage_str trail.recorder.redacts message
    set event := eventOf trail.time host reason (.str shown) eventClass
    set kept := lastOf trail.recorder.capacity (trail.recorder.events ++ [event])
    have hload : load.runOn trail.ticked = (.ok (), trail.ticked) := runOn_load_of_loaded hloaded
    obtain ⟨after, hsave, hsaved⟩ :=
      @runOn_save_cases (trail.ticked.keeping kept) path second hfile hending hsecond hfaults
    exact ⟨.str shown, after, hshown, runOn_record_noted hshown hload hsave, hsaved⟩
  · obtain ⟨after, hsave, hsaved⟩ :=
      @runOn_save_cases (trail.keeping []) path second hfile hending hsecond hfaults
    refine ⟨after, ?_, hsaved⟩
    rw [clear, runOn_bind_ok (runOn_keep [] trail)]
    exact hsave

/-- The folder of the file is missing, and the device is full after one byte of the second file. The
event is held, and there is no file of the recorder afterwards either. -/
theorem saves_all_or_nothing_on_full_device :
    let full : Device :=
      ⟨fun step => if step = .writeFile then some (.device 28 "full") else none, 1⟩
    let path := Path.ofText "logs/events.json"
    let recorder := (Recorder.new (some path) (some 5) true).holding []
    let trail : Trail := ⟨recorder, ⟨⟨[], full⟩, .still, []⟩⟩
    ∃ event behind, (record (.str "a") (.str "Ready") (.str "up") (.str "Normal")).runOn trail =
        (.ok event, behind) ∧
      behind.recorder.events = [event] ∧ ∀ content, behind.around.disk.read path ≠ .ok content := by
  intro full path recorder trail
  have hkept : ∀ event : Value, lastOf (some 5) ([] ++ [event]) = [event] := fun _ => rfl
  have hnames : ∀ name ∈ path.names, name ≠ upName := by decide
  have habsent : Disk.read ⟨[], full⟩ path = .error (Disk.fault path .notFound) := rfl
  obtain ⟨second, -, hrecord, -⟩ := @saves_all_or_nothing trail path rfl rfl (by decide) (by decide)
    (Or.inl rfl)
  obtain ⟨shown, after, -, hrun, hsaved⟩ :=
    hrecord (.str "a") (.str "Ready") (.str "Normal") "up"
  refine ⟨_, _, hrun, hkept _, fun content hread => ?_⟩
  cases hsaved with
  | stored done =>
    obtain ⟨parents, _, _, _, hparents, htakes⟩ := Disk.exists_takes_of_replaceFile done
    have hdevice : parents.device = full :=
      (Disk.spares_makeParents (fun _ => False) hparents).device
    have hwrites := htakes.writes
    rw [hdevice] at hwrites
    cases hwrites
  | told error failed untouched =>
    have hbefore := (untouched.direct (Disk.rooted_nil full) hnames content).mp hread
    cases habsent.symm.trans hbefore

end Trail

end HostLifecycle.Audit
