import HostLifecycle.Proofs.Audit.Recording
import HostLifecycle.Proofs.Audit.Redaction
import HostLifecycle.Proofs.Json.Reading
import HostLifecycle.Proofs.Json.Writing
import HostLifecycle.Proofs.Storage.Replacing

/-!
A trail of events that is kept in a file. Between any two calls the recorder has either read its
file, or it has just been made and would come to hold the same events if it did: the last ones of
those that the file holds. So a recorder that is made anew does not show.
-/

namespace HostLifecycle

namespace Storage.Disk

def json? (disk : Disk) (path : Path) : Option Value :=
  (disk.read path).toOption.bind fun content =>
    (Text.ofBytes? content).bind fun text => (Json.read text).toOption

variable {disk : Disk} {path : Path}

theorem exists_of_json {value : Value} (h : disk.json? path = some value) :
    ∃ content text, disk.read path = .ok content ∧ Text.ofBytes? content = some text ∧
      Json.read text = .ok value := by
  obtain ⟨content, hcontent, h⟩ := Option.bind_eq_some_iff.mp h
  obtain ⟨text, htext, h⟩ := Option.bind_eq_some_iff.mp h
  refine ⟨content, text, ?_, htext, ?_⟩
  · cases hread : disk.read path with
    | error fault => rw [hread] at hcontent; cases hcontent
    | ok found => rw [hread] at hcontent; cases hcontent; rfl
  · cases hread : Json.read text with
    | error refusal => rw [hread] at h; cases h
    | ok found => rw [hread] at h; cases h; rfl

/-- Events that were written to a file are what it holds. -/
theorem json_of_written {events : List Value}
    (hread : disk.read path = .ok (Json.write .indented (.list events)).toUTF8)
    (htexts : ∀ event ∈ events, Json.TextObject event) :
    disk.json? path = some (.list events) := by
  simp only [json?, hread, Except.toOption, Option.bind_some, Json.ofBytes?_write,
    Json.read_write_list .indented htexts]

/-- Whether the file of a path is missing, or it holds a list of events whose fields are
texts. -/
def Keeps (disk : Disk) (path : Path) (events : List Value) : Prop :=
  (disk.holds path = .ok false ∧ events = []) ∨
    (disk.json? path = some (.list events) ∧
      ∀ event ∈ events, ∃ fields, event = .object fields ∧
        ∀ field ∈ fields, ∃ text, field.2 = .str text)

theorem keeps_of_written {events : List Value}
    (hread : disk.read path = .ok (Json.write .indented (.list events)).toUTF8)
    (htexts : ∀ event ∈ events, Json.TextObject event) : disk.Keeps path events := by
  refine Or.inr ⟨json_of_written hread htexts, fun event hevent => ?_⟩
  obtain ⟨-, hfields⟩ := htexts event hevent
  exact ⟨_, rfl, hfields⟩

theorem holds_of_read {content : ByteArray} (h : disk.read path = .ok content) :
    disk.holds path = .ok true := by
  unfold read at h
  split at h
  · cases h
  next husable hentry => simp [holds, entry?, husable, hentry, Except.map]
  · cases h
  · cases h

/-- The events of a file are written and read again without a change. -/
theorem Keeps.texts {events : List Value} (h : disk.Keeps path events) :
    ∀ event ∈ events, Json.TextObject event := by
  intro event hevent
  rcases h with ⟨-, rfl⟩ | ⟨hjson, hfields⟩
  · cases hevent
  · obtain ⟨content, text, -, -, hread⟩ := exists_of_json hjson
    obtain ⟨fields, rfl, htexts⟩ := hfields event hevent
    cases Json.tidy_of_read hread with
    | list hitems => exact ⟨hitems _ hevent, htexts⟩

end Storage.Disk

namespace Audit

open Storage Attempt

/-- An event whose fields are all texts, as it was read or recorded. -/
theorem textObject_eventOf {time host reason message eventClass : Text} (htime : time.Plain)
    (hhost : host.Unsplit) (hreason : reason.Unsplit) (hmessage : message.Unsplit)
    (hclass : eventClass.Unsplit) :
    Json.TextObject (eventOf time (.str host) (.str reason) (.str message) (.str eventClass)) := by
  have hname : ∀ name : String, (Text.ofString name).Unsplit := fun name =>
    (Text.plain_ofString name).unsplit
  have hnames : (Fields.names [("timestamp", Value.null), ("host", .null), ("type", .null),
      ("reason", .null), ("message", .null)]).Nodup := by decide
  constructor
  · apply Json.Tidy.object
    · exact hnames
    · simp [hname]
    · simp only [List.forall_mem_cons]
      exact ⟨.str htime.unsplit, .str hhost, .str hclass, .str hreason, .str hmessage,
        fun _ hnone => absurd hnone List.not_mem_nil⟩
  · simp only [List.forall_mem_cons]
    exact ⟨⟨_, rfl⟩, ⟨_, rfl⟩, ⟨_, rfl⟩, ⟨_, rfl⟩, ⟨_, rfl⟩,
      fun _ hnone => absurd hnone List.not_mem_nil⟩

/-- An event whose texts are strings of characters. -/
theorem textObject_strings (time host reason message eventClass : String) :
    Json.TextObject (eventOf time (.str host) (.str reason) (.str message) (.str eventClass)) := by
  have hplain : ∀ text : String, (Text.ofString text).Unsplit := fun text =>
    (Text.plain_ofString text).unsplit
  exact textObject_eventOf (Text.plain_ofString time) (hplain host) (hplain reason)
    (hplain message) (hplain eventClass)

/-- Where a file holds events, the last ones of them are loaded. -/
theorem loadFrom_of_json {disk : Disk} {path : Path} {events : List Value}
    (h : disk.json? path = some (.list events)) (capacity : Nat) :
    loadFrom disk path (some capacity) = .events (lastOf (some capacity) events) := by
  obtain ⟨content, text, hread, htext, hjson⟩ := Disk.exists_of_json h
  simp only [loadFrom, hread, htext, hjson, eventsOf]

namespace Trail

/-- The trail with another disk. -/
def onto (disk : Disk) (trail : Trail) : Trail :=
  { trail with around := { trail.around with disk := disk } }

/-- Where there is no file, no events are taken in. -/
theorem runOn_loadFile_of_absent {trail : Trail} {path : Path}
    (h : trail.around.disk.holds path = .ok false) :
    (loadFile path).runOn trail = (.ok (), trail) := by
  rw [loadFile, runOn_bind, runOn_get]
  simp only
  rw [runOn_bind, runOn_ofExcept, h]
  rfl

/-- Where a file holds events, the last ones of them are taken in. -/
theorem runOn_loadFile_of_json {trail : Trail} {path : Path} {capacity : Nat}
    {events : List Value} (hcapacity : trail.recorder.capacity = some capacity)
    (h : trail.around.disk.json? path = some (.list events)) :
    (loadFile path).runOn trail =
      (.ok (), trail.keeping (lastOf (some capacity) events)) := by
  obtain ⟨content, -, hread, -, -⟩ := Disk.exists_of_json h
  rw [loadFile, runOn_bind, runOn_get]
  simp only
  rw [runOn_bind, runOn_ofExcept, Disk.holds_of_read hread, hcapacity, loadFrom_of_json h]
  rfl

/-- The trail once its events were written to a file. -/
def saved (path : Path) (trail : Trail) : Trail :=
  let text := Json.write .indented (.list trail.recorder.events)
  trail.onto ((replaceFile path text).runOn trail.around.disk).2

theorem runOn_save {trail : Trail} {path : Path} (hfile : trail.recorder.logFile = some path)
    (hsaves : trail.around.disk.Saves path) :
    save.runOn trail = (.ok (), trail.saved path) := by
  have hwritten := hsaves (Json.write .indented (.list trail.recorder.events))
  rw [save, runOn_bind, runOn_get]
  simp only [hfile, saveFile]
  rw [runOn_bind, runOn_settled]
  simp only [onDisk, runOn_within]
  rw [hwritten]
  rfl

/-- What was written to a file is what the file holds, and it can be written again. -/
theorem json_saved {trail : Trail} {path : Path} (hsaves : trail.around.disk.Saves path)
    (htexts : ∀ event ∈ trail.recorder.events, Json.TextObject event) :
    (trail.saved path).around.disk.Saves path ∧
      (trail.saved path).around.disk.json? path = some (.list trail.recorder.events) := by
  obtain ⟨disk, hreplace, hagain, -, hread⟩ :=
    hsaves.replaceFile (Json.write .indented (.list trail.recorder.events))
  have hdisk : (trail.saved path).around.disk = disk := by
    simp only [saved, onto, hreplace]
  rw [hdisk]
  exact ⟨hagain, Disk.json_of_written hread htexts⟩

end Trail

/-- What a recorder with a file is made of. -/
structure Setup where
  path : Path
  capacity : Nat
  redacts : Bool

namespace Setup

variable (setup : Setup)

def recorder : Recorder := .new (some setup.path) (some setup.capacity) setup.redacts

def fresh (around : Surroundings) : Trail := ⟨setup.recorder, around⟩

def opened (kept : List Value) (around : Surroundings) : Trail :=
  ⟨setup.recorder.holding kept, around⟩

/-- Whether a trail keeps given events: the recorder holds them, or it has yet to read its file
and they are the last ones that the file holds. -/
structure Carries (kept : List Value) (trail : Trail) : Prop where
  recorder : trail.recorder = setup.recorder ∨ trail.recorder = setup.recorder.holding kept
  stored : (trail.around.disk.holds setup.path = .ok false ∧ kept = []) ∨
    ∃ events, trail.around.disk.json? setup.path = some (.list events) ∧
      kept = lastOf (some setup.capacity) events
  saves : trail.around.disk.Saves setup.path
  texts : ∀ event ∈ kept, Json.TextObject event

/-- Whether the file of a trail holds the events that the recorder holds. -/
structure Mirrors (kept : List Value) (trail : Trail) : Prop extends setup.Carries kept trail where
  events : trail.recorder.events = kept
  file : trail.around.disk.json? setup.path = some (.list kept)

theorem Mirrors.withJournal {setup : Setup} {kept : List Value} {trail : Trail}
    (h : setup.Mirrors kept trail) (journal : List Logging.LogEntry) :
    setup.Mirrors kept (trail.withJournal journal) :=
  ⟨⟨h.recorder, h.stored, h.saves, h.texts⟩, h.events, h.file⟩

theorem mirrors_saved {kept : List Value} {trail : Trail}
    (hrecorder : trail.recorder = setup.recorder ∨ trail.recorder = setup.recorder.holding kept)
    (hevents : trail.recorder.events = kept) (hlength : kept.length ≤ setup.capacity)
    (hsaves : trail.around.disk.Saves setup.path)
    (htexts : ∀ event ∈ kept, Json.TextObject event) :
    setup.Mirrors kept (trail.saved setup.path) := by
  obtain ⟨hagain, hfile⟩ := Trail.json_saved hsaves (hevents.symm ▸ htexts)
  rw [hevents] at hfile
  exact {
    recorder := hrecorder
    stored := Or.inr ⟨kept, hfile, (lastOf_of_length_le hlength).symm⟩
    saves := hagain
    texts := htexts
    events := hevents
    file := hfile }

end Setup

namespace Setup.Carries

variable {setup : Setup} {kept : List Value} {trail : Trail}

theorem length_le (h : setup.Carries kept trail) : kept.length ≤ setup.capacity := by
  rcases h.stored with ⟨-, rfl⟩ | ⟨events, -, rfl⟩
  · exact Nat.zero_le _
  · exact length_lastOf_le _ _

theorem logFile (h : setup.Carries kept trail) : trail.recorder.logFile = some setup.path := by
  rcases h.recorder with hrecorder | hrecorder <;> rw [hrecorder] <;> rfl

theorem redacts (h : setup.Carries kept trail) : trail.recorder.redacts = setup.redacts := by
  rcases h.recorder with hrecorder | hrecorder <;> rw [hrecorder] <;> rfl

/-- A recorder that is made anew keeps the same events. -/
theorem renewed (h : setup.Carries kept trail) : setup.Carries kept (setup.fresh trail.around) :=
  ⟨Or.inl rfl, h.stored, h.saves, h.texts⟩

theorem opened (h : setup.Carries kept trail) :
    setup.Carries kept (setup.opened kept trail.around) :=
  ⟨Or.inr rfl, h.stored, h.saves, h.texts⟩

theorem ticked (h : setup.Carries kept trail) : setup.Carries kept trail.ticked :=
  ⟨h.recorder, h.stored, h.saves, h.texts⟩

/-- The events come to be held, whether they were before or not. -/
theorem runOn_load (h : setup.Carries kept trail) :
    Trail.load.runOn trail = (.ok (), setup.opened kept trail.around) := by
  obtain ⟨recorder, around⟩ := trail
  -- a fresh recorder reads its file, and one that has read it holds the events already
  rcases h.recorder with rfl | rfl
  · rw [Trail.runOn_load_of_unloaded rfl rfl]
    rcases h.stored with ⟨hnone, rfl⟩ | ⟨events, hevents, rfl⟩
    · exact Trail.runOn_loadFile_of_absent hnone
    · exact Trail.runOn_loadFile_of_json rfl hevents
  · exact Trail.runOn_load_of_loaded rfl

theorem runOn_record (h : setup.Carries kept trail) {host reason message eventClass : Text}
    (hhost : host.Unsplit) (hreason : reason.Unsplit) (hmessage : message.Unsplit)
    (hclass : eventClass.Unsplit) :
    ∃ event after,
      (Trail.record (.str host) (.str reason) (.str message) (.str eventClass)).runOn trail =
        (.ok event, after) ∧
      setup.Mirrors (lastOf (some setup.capacity) (kept ++ [event])) after := by
  obtain ⟨shown, hshown⟩ := redactMessage_str trail.recorder.redacts message
  have hunsplit := unsplit_of_redactMessage hshown hmessage
  set event := eventOf trail.time (.str host) (.str reason) (.str shown) (.str eventClass)
  set behind := lastOf (some setup.capacity) (kept ++ [event])
  have hevent : Json.TextObject event :=
    textObject_eventOf (Text.plain_ofString _) hhost hreason hunsplit hclass
  have htexts : ∀ other ∈ behind, Json.TextObject other := by
    intro other hother
    rcases List.mem_append.mp (mem_of_mem_lastOf hother) with hkept | hnew
    · exact h.texts other hkept
    · exact List.mem_singleton.mp hnew ▸ hevent
  let taken := (setup.opened kept trail.ticked.around).keeping behind
  have hmirrors : setup.Mirrors behind (taken.saved setup.path) :=
    setup.mirrors_saved (Or.inr rfl) rfl (length_lastOf_le _ _) h.saves htexts
  have hsave : Trail.save.runOn taken = (.ok (), taken.saved setup.path) :=
    Trail.runOn_save rfl h.saves
  obtain ⟨journal, hrun⟩ := Trail.runOn_record hshown h.ticked.runOn_load hsave
  exact ⟨event, _, hrun, hmirrors.withJournal journal⟩

theorem runOn_clear (h : setup.Carries kept trail) :
    Trail.clear.runOn trail = (.ok (), (trail.keeping []).saved setup.path) := by
  rw [Trail.clear, runOn_bind_ok (Trail.runOn_keep [] trail)]
  exact Trail.runOn_save h.logFile h.saves

/-- Behind a clearing nothing is kept, whether the file was read before or not. -/
theorem mirrors_cleared (h : setup.Carries kept trail) :
    setup.Mirrors [] ((trail.keeping []).saved setup.path) := by
  have hrecorder : (trail.keeping []).recorder = setup.recorder ∨
      (trail.keeping []).recorder = setup.recorder.holding [] := by
    obtain ⟨recorder, around⟩ := trail
    rcases h.recorder with rfl | rfl
    · exact Or.inl rfl
    · exact Or.inr rfl
  exact setup.mirrors_saved hrecorder rfl (Nat.zero_le _) h.saves
    fun _ hnone => absurd hnone List.not_mem_nil

/-- A query comes to an answer about the events that are kept, and leaves them as they are. -/
theorem runOn_query (h : setup.Carries kept trail) (limit host reason : Value) :
    ((Trail.query limit host reason).runOn trail).2 = setup.opened kept trail.around := by
  rw [Trail.query, runOn_bind_ok h.runOn_load]
  refine (?_ : Keeps id _) _
  apply keeps_get.bind
  intro opened
  apply (keeps_ofExcept _).bind
  intro ofHost
  apply (keeps_ofExcept _).bind
  intro found
  split
  · exact keeps_pure _
  · exact keeps_fail _

end Setup.Carries

end Audit

end HostLifecycle
