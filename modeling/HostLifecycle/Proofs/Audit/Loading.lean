import HostLifecycle.Proofs.Audit.Filing
import HostLifecycle.Proofs.Audit.Sharing
import HostLifecycle.Proofs.Audit.Taking

/-!
What becomes of a file of events when a new recorder is first called. A list is taken in up to its
last entries, and a text that is no JSON is told in a warning and starts a new trail. Whatever is
recorded next stands behind what was taken in, whether it can be saved or not. Bytes that are no
text, texts with too long integers or too deep containers, and values that are no rows end the
first call in a fault; the recorder counts as having read its file all the same.
-/

namespace HostLifecycle.Audit

open Logging Storage Attempt

def Encodes (content : ByteArray) (value : Value) : Prop :=
  ∃ text, Text.ofBytes? content = some text ∧ Json.read text = .ok value

/-- Whether a content is a text that is no JSON, for a reason that is told. -/
def IsMalformed (content : ByteArray) (message : Text) : Prop :=
  ∃ text cause left, Text.ofBytes? content = some text ∧
    Json.read text = .error (.defect cause left) ∧
      message = (Json.Refusal.defect cause left).message text

inductive Refuses (content : ByteArray) : Fault → Prop where
  | undecodable (hnone : Text.ofBytes? content = none) : Refuses content .undecodable
  | tooManyDigits {text count} (htext : Text.ofBytes? content = some text)
      (hread : Json.read text = .error (.tooManyDigits count)) :
      Refuses content (.invalid (.tooManyDigits count))
  | tooDeep {text container} (htext : Text.ofBytes? content = some text)
      (hread : Json.read text = .error (.tooDeep container)) :
      Refuses content (.tooDeep container)
  | noRow {value} (hencodes : Encodes content value) (hlist : ∀ items, value ≠ .list items)
      (htext : ∀ text, value ≠ .str text) : Refuses content .wrongType

/-- Every content is a row of entries, or a text that is no JSON, or it is refused. -/
theorem content_cases (content : ByteArray) :
    (∃ items, Encodes content (.list items)) ∨ (∃ text, Encodes content (.str text)) ∨
      (∃ message, IsMalformed content message) ∨ ∃ fault, Refuses content fault := by
  cases htext : Text.ofBytes? content with
  | none => exact .inr (.inr (.inr ⟨_, .undecodable htext⟩))
  | some text =>
    cases hread : Json.read text with
    | error refusal =>
      cases refusal with
      | defect cause left => exact .inr (.inr (.inl ⟨_, text, cause, left, htext, hread, rfl⟩))
      | tooManyDigits count => exact .inr (.inr (.inr ⟨_, .tooManyDigits htext hread⟩))
      | tooDeep container => exact .inr (.inr (.inr ⟨_, .tooDeep htext hread⟩))
    | ok value =>
      have hencodes : Encodes content value := ⟨text, htext, hread⟩
      cases value with
      | list items => exact .inl ⟨items, hencodes⟩
      | str text => exact .inr (.inl ⟨text, hencodes⟩)
      | _ => exact .inr (.inr (.inr ⟨_, .noRow hencodes nofun nofun⟩))

section

variable {disk : Disk} {path : Path} {content : ByteArray} {capacity : Nat}

theorem loadFrom_of_encodes {value : Value} {events : List Value}
    (hread : disk.read path = .ok content) (h : Encodes content value)
    (hevents : eventsOf (some capacity) value = .ok events) :
    loadFrom disk path (some capacity) = .events events := by
  obtain ⟨text, htext, hjson⟩ := h
  simp only [loadFrom, hread, htext, hjson, hevents]

theorem eventsOf_list (items : List Value) :
    eventsOf (some capacity) (.list items) = .ok (lastOf (some capacity) items) := rfl

theorem eventsOf_str (text : Text) : eventsOf (some capacity) (.str text) =
    .ok (lastOf (some capacity) (text.map fun point => .str [point])) := rfl

theorem loadFrom_of_malformed {message : Text} (hread : disk.read path = .ok content)
    (h : IsMalformed content message) :
    loadFrom disk path (some capacity) = .failure message := by
  obtain ⟨text, cause, left, htext, hjson, rfl⟩ := h
  simp only [loadFrom, hread, htext, hjson]

theorem loadFrom_of_refuses {fault : Fault} (hread : disk.read path = .ok content)
    (h : Refuses content fault) : loadFrom disk path (some capacity) = .fault fault := by
  cases h with
  | undecodable hnone => simp only [loadFrom, hread, hnone]
  | tooManyDigits htext hjson => simp only [loadFrom, hread, htext, hjson]
  | tooDeep htext hjson => simp only [loadFrom, hread, htext, hjson]
  | @noRow value hencodes hlist htext =>
    obtain ⟨text, hdecoded, hjson⟩ := hencodes
    have hevents : eventsOf (some capacity) value = .error .wrongType := by
      cases value with
      | list items => exact absurd rfl (hlist items)
      | str text => exact absurd rfl (htext text)
      | _ => rfl
    simp only [loadFrom, hread, hdecoded, hjson, hevents]

end

/-- The surroundings with more in the journal. -/
def Surroundings.telling (entries : List LogEntry) (around : Surroundings) : Surroundings :=
  { around with journal := around.journal ++ entries }

namespace Trail

/-- Events with fields pass a filter one by one. -/
theorem filtered_of_objects (name : Text) (value : Value) {events : List Value}
    (h : ∀ event ∈ events, ∃ fields, event = .object fields) :
    ∃ found, filtered name value events = .ok found ∧ found.Sublist events := by
  rw [filtered]
  split
  · exact ⟨_, having_of_objects name value h, List.filter_sublist⟩
  · exact ⟨events, rfl, List.Sublist.refl _⟩

theorem selected_sublist (limit : Int) (events : List Value) :
    (selected limit events).Sublist events := by
  rw [selected]
  split
  · exact List.drop_sublist _ _
  · exact List.drop_sublist _ _

/-- What a file is read as is taken in. -/
theorem runOn_loadFile_of_read {trail : Trail} {path : Path} {content : ByteArray}
    (hread : trail.around.disk.read path = .ok content) :
    (loadFile path).runOn trail =
      (takeIn path (loadFrom trail.around.disk path trail.recorder.capacity)).runOn trail := by
  rw [loadFile, runOn_bind, runOn_get]
  simp only
  rw [runOn_bind, runOn_ofExcept, Disk.holds_of_read hread]
  rfl

end Trail

namespace Setup

/-- What a new recorder comes to with its first call, of whichever kind: it holds some events, and
something was told of them. -/
structure Begins (setup : Setup) (around : Surroundings) (told : List LogEntry)
    (kept : List Value) : Prop where
  load : Trail.load.runOn (setup.fresh around) = (.ok (), setup.opened kept (around.telling told))
  query : (∀ event ∈ kept, ∃ fields, event = .object fields) →
    ∀ limit host reason bound, limit.asInt? = some bound → ∃ found,
      (Trail.query limit host reason).runOn (setup.fresh around) =
        (.ok found, setup.opened kept (around.telling told)) ∧ found.reverse.Sublist kept
  record : ∀ trail ∈ [setup.fresh around, setup.opened kept (around.telling told)],
    ∀ host reason eventClass (message : Text), ∃ event after,
      (Trail.record host reason (.str message) eventClass).runOn trail = (.ok event, after) ∧
        after.recorder = setup.recorder.holding (lastOf (some setup.capacity) (kept ++ [event]))

def warning (setup : Setup) (message : Text) : LogEntry :=
  ⟨loggerName, .warning, "Failed to load event log " ++ setup.path.text ++ ": " ++ message, []⟩

variable {setup : Setup} {around : Surroundings} {content : ByteArray}

theorem runOn_load_fresh (hread : around.disk.read setup.path = .ok content) :
    Trail.load.runOn (setup.fresh around) =
      (Trail.takeIn setup.path (loadFrom around.disk setup.path (some setup.capacity))).runOn
        (setup.opened [] around) := by
  rw [Trail.runOn_load_of_unloaded rfl rfl]
  exact Trail.runOn_loadFile_of_read hread

/-- Where the first load takes in events, the first call of any kind does. -/
theorem begins_of_load {file : Text} {told : List LogEntry} {kept : List Value}
    (hpath : setup.path = Path.ofText file) (hread : around.disk.read setup.path = .ok content)
    (hload : ∀ clock, Trail.load.runOn (setup.fresh { around with clock := clock }) =
      (.ok (), setup.opened kept ({ around with clock := clock }.telling told))) :
    setup.Begins around told kept where
  load := hload around.clock
  query hobjects limit host reason bound hbound := by
    obtain ⟨ofHost, hhost, hsub⟩ := Trail.filtered_of_objects "host" host hobjects
    obtain ⟨found, hreason, hfound⟩ := Trail.filtered_of_objects "reason" reason
      fun event hevent => hobjects event (hsub.subset hevent)
    refine ⟨(Trail.selected bound found).reverse, ?_, ?_⟩
    · have hevents : (setup.opened kept (around.telling told)).recorder.events = kept := rfl
      rw [Trail.query, runOn_bind_ok (hload around.clock), runOn_bind, runOn_get]
      simp only
      rw [hevents, runOn_bind, runOn_ofExcept, hhost]
      simp only
      rw [runOn_bind, runOn_ofExcept, hreason]
      simp only [hbound]
      rfl
    · rw [List.reverse_reverse]
      exact (Trail.selected_sublist bound found).trans (hfound.trans hsub)
  record := by
    intro trail htrail host reason eventClass message
    obtain ⟨shown, hshown⟩ := redactMessage_str trail.recorder.redacts message
    obtain ⟨taken, htaken, hrecorder, hdisk⟩ : ∃ taken,
        Trail.load.runOn trail.ticked = (.ok (), taken) ∧
          taken.recorder = setup.recorder.holding kept ∧ taken.around.disk = around.disk := by
      rw [List.mem_cons, List.mem_singleton] at htrail
      rcases htrail with rfl | rfl
      · exact ⟨_, hload _, rfl, rfl⟩
      · exact ⟨_, Trail.runOn_load_of_loaded rfl, rfl, rfl⟩
    let event := eventOf trail.time host reason (.str shown) eventClass
    let behind := taken.keeping (lastOf taken.recorder.capacity (taken.recorder.events ++ [event]))
    have hfile : behind.recorder.logFile = some (Path.ofText file) := by
      rw [← hpath]
      exact congrArg Recorder.logFile hrecorder
    have hcontent : behind.around.disk.read (Path.ofText file) = .ok content := by
      rw [← hpath, ← hread, ← hdisk]
      rfl
    obtain ⟨saved, hsave, hsaved⟩ := Trail.exists_saved hfile
      (Disk.usable_of_read hcontent).1 (Disk.name_of_read hcontent)
    refine ⟨event, _, Trail.runOn_record_noted hshown htaken hsave, ?_⟩
    have hkept : behind.recorder =
        setup.recorder.holding (lastOf (some setup.capacity) (kept ++ [event])) := by
      simp only [behind, Trail.keeping, hrecorder]
      rfl
    exact hsaved.trans hkept

theorem begins_of_takeIn {file : Text} {told : List LogEntry} {kept : List Value}
    (hpath : setup.path = Path.ofText file) (hread : around.disk.read setup.path = .ok content)
    (htake : ∀ around', (Trail.takeIn setup.path (loadFrom around.disk setup.path
      (some setup.capacity))).runOn (setup.opened [] around') =
        (.ok (), setup.opened kept (around'.telling told))) :
    setup.Begins around told kept :=
  begins_of_load hpath hread fun clock =>
    (runOn_load_fresh (show { around with clock := clock }.disk.read setup.path = .ok content
      from hread)).trans (htake _)

theorem begins_of_encodes {file : Text} {value : Value} {events : List Value}
    (hpath : setup.path = Path.ofText file) (hread : around.disk.read setup.path = .ok content)
    (hencodes : Encodes content value)
    (hevents : eventsOf (some setup.capacity) value = .ok events) :
    setup.Begins around [] events := by
  refine begins_of_takeIn hpath hread fun around' => ?_
  rw [loadFrom_of_encodes hread hencodes hevents, Surroundings.telling, List.append_nil]
  rfl

theorem begins_of_malformed {file message : Text} (hpath : setup.path = Path.ofText file)
    (hread : around.disk.read setup.path = .ok content) (h : IsMalformed content message) :
    setup.Begins around [setup.warning message] [] := by
  refine begins_of_takeIn hpath hread fun around' => ?_
  rw [loadFrom_of_malformed hread h]
  rfl

theorem runOn_load_of_refuses {fault : Fault} (hread : around.disk.read setup.path = .ok content)
    (h : Refuses content fault) :
    Trail.load.runOn (setup.fresh around) = (.error fault, setup.opened [] around) := by
  rw [runOn_load_fresh hread, loadFrom_of_refuses hread h]
  rfl

/-- What the first call on a new recorder makes of its file, told by the content of the file. A
list of any values is taken in, but only objects can be asked for their fields; of a string its
characters are taken in. A content that is refused ends the call in a fault, and the recorder
counts as having read it. -/
theorem first_call_by_content (file : Text) (capacity : Nat) (redacts : Bool)
    (around : Surroundings) (content : ByteArray)
    (hread : around.disk.read (Path.ofText file) = .ok content) :
    let setup : Setup := ⟨Path.ofText file, capacity, redacts⟩
    (∀ items, Encodes content (.list items) →
      setup.Begins around [] (lastOf (some capacity) items)) ∧
    (∀ text, Encodes content (.str text) →
      setup.Begins around [] (lastOf (some capacity) (text.map fun point => .str [point]))) ∧
    (∀ message, IsMalformed content message →
      setup.Begins around [setup.warning message] []) ∧
    (∀ fault, Refuses content fault →
      Trail.load.runOn (setup.fresh around) = (.error fault, setup.opened [] around)) ∧
    ((∃ items, Encodes content (.list items)) ∨ (∃ text, Encodes content (.str text)) ∨
      (∃ message, IsMalformed content message) ∨ ∃ fault, Refuses content fault) := by
  intro setup
  have hpath : setup.path = Path.ofText file := rfl
  refine ⟨fun items h => ?_, fun text h => ?_, fun message h => ?_, fun fault h => ?_,
    content_cases content⟩
  · exact begins_of_encodes hpath hread h (eventsOf_list items)
  · exact begins_of_encodes hpath hread h (eventsOf_str text)
  · exact begins_of_malformed hpath hread h
  · exact runOn_load_of_refuses hread h

/-- A stored trail of which the last event is kept, the beginning of an object, an object, and a
byte that no text starts with. -/
theorem first_call_on_stored :
    let setup : Setup := ⟨Path.ofText "e.json", 1, true⟩
    let storing (content : ByteArray) : Surroundings :=
      ⟨Disk.empty.put ["e.json"] (.file content), .still, []⟩
    let event (host : String) := eventOf "t" (.str host) (.str "r") (.str "m") (.str "Warning")
    setup.Begins (storing (Json.write .indented (.list [event "a", event "b"])).toUTF8) []
      [event "b"] ∧
    setup.Begins (storing "\x7b".toUTF8) [setup.warning
      "Expecting property name enclosed in double quotes: line 1 column 2 (char 1)"] [] ∧
    Trail.load.runOn (setup.fresh (storing "\x7b\x7d".toUTF8)) =
      (.error .wrongType, setup.opened [] (storing "\x7b\x7d".toUTF8)) ∧
    Trail.load.runOn (setup.fresh (storing ⟨#[255]⟩)) =
      (.error .undecodable, setup.opened [] (storing ⟨#[255]⟩)) := by
  intro setup storing event
  have hread : ∀ content, (storing content).disk.read (Path.ofText "e.json") = .ok content :=
    fun _ => rfl
  have hcall := fun content => first_call_by_content "e.json" 1 true (storing content) content
    (hread content)
  have htexts : ∀ other ∈ [event "a", event "b"], Json.TextObject other := by
    simp only [List.forall_mem_cons]
    exact ⟨textObject_strings _ _ _ _ _, textObject_strings _ _ _ _ _,
      fun _ hnone => absurd hnone List.not_mem_nil⟩
  refine ⟨?_, ?_, ?_, ?_⟩
  · exact (hcall _).1 _ ⟨_, Json.ofBytes?_write _ _, Json.read_write_list _ htexts⟩
  · exact (hcall _).2.2.1 _ ⟨"\x7b", .expectedName, 0, by decide, rfl, by decide⟩
  · exact (hcall _).2.2.2.1 _ (.noRow ⟨"\x7b\x7d", by decide, rfl⟩
      (fun _ hlist => by cases hlist) fun _ htext => by cases htext)
  · exact (hcall _).2.2.2.1 _ (.undecodable (by decide))

end Setup

end HostLifecycle.Audit
