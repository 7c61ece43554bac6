import HostLifecycle.Audit.Recorder
import HostLifecycle.Proofs.Attempt

/-!
How an event is recorded. The clock is read, the message is shown without its secrets, the
stored events are taken in if they were not yet, and the event is kept behind them and saved.
Without a file nothing is taken in and nothing is saved.
-/

namespace HostLifecycle.Audit

open Logging Storage Attempt

def eventOf (time : Text) (host reason message eventClass : Value) : Value :=
  .object [("timestamp", .str time), ("host", host), ("type", eventClass), ("reason", reason),
    ("message", message)]

theorem redactMessage_str (enabled : Bool) (message : Text) :
    ∃ shown, redactMessage enabled (.str message) = .ok (.str shown) := by
  by_cases hplain : (!enabled || !(Value.str message).isTruthy) = true
  · exact ⟨message, by rw [redactMessage, if_pos hplain]⟩
  · exact ⟨redact message, by rw [redactMessage, if_neg hplain]⟩

section

variable {α : Type}

theorem length_lastOf_le (capacity : Nat) (entries : List α) :
    (lastOf (some capacity) entries).length ≤ capacity := by
  rw [lastOf, List.length_drop]
  omega

theorem lastOf_of_length_le {capacity : Nat} {entries : List α} (h : entries.length ≤ capacity) :
    lastOf (some capacity) entries = entries := by
  rw [lastOf, Nat.sub_eq_zero_of_le h, List.drop_zero]

theorem mem_of_mem_lastOf {capacity : Option Nat} {entries : List α} {entry : α}
    (h : entry ∈ lastOf capacity entries) : entry ∈ entries := by
  cases capacity with
  | none => exact h
  | some capacity => exact List.mem_of_mem_drop h

/-- Of the last entries and one more the last ones are the same as of all entries and one
more. -/
theorem lastOf_lastOf_append (capacity : Nat) (entries : List α) (entry : α) :
    lastOf (some capacity) (lastOf (some capacity) entries ++ [entry]) =
      lastOf (some capacity) (entries ++ [entry]) := by
  by_cases hroom : entries.length ≤ capacity
  · rw [lastOf_of_length_le hroom]
  · have hdrop : entries.length - capacity ≤ entries.length := Nat.sub_le _ _
    simp only [lastOf, List.length_append, List.length_drop, List.length_singleton]
    rw [← List.drop_append_of_le_length hdrop, List.drop_drop]
    congr 1
    omega

end

namespace Recorder

/-- Behind the events that are kept there is room for more of them. -/
def HasRoom (more : Nat) (recorder : Recorder) : Prop :=
  ∀ capacity, recorder.capacity = some capacity → recorder.events.length + more ≤ capacity

/-- The recorder that has read its file, with events in place of its own. -/
def holding (events : List Value) (recorder : Recorder) : Recorder :=
  { recorder with events := events, loaded := true }

end Recorder

theorem lastOf_of_hasRoom (recorder : Recorder) (more : List Value)
    (h : recorder.HasRoom more.length) :
    lastOf recorder.capacity (recorder.events ++ more) = recorder.events ++ more := by
  cases hcapacity : recorder.capacity with
  | none => rfl
  | some capacity =>
    apply lastOf_of_length_le
    rw [List.length_append]
    exact h capacity hcapacity

namespace Trail

/-- The time of the next event, as it is written. -/
def time (trail : Trail) : Text :=
  let clock := trail.around.clock
  Clock.timestamp (clock.entries.getD (clock.used % clock.entries.length) 0)

def ticked (trail : Trail) : Trail :=
  { trail with around := { trail.around with
    clock := { trail.around.clock with used := trail.around.clock.used + 1 } } }

def opening (trail : Trail) : Trail :=
  { trail with recorder := { trail.recorder with loaded := true } }

def withJournal (journal : List LogEntry) (trail : Trail) : Trail :=
  { trail with around := { trail.around with journal := journal } }

def keeping (events : List Value) (trail : Trail) : Trail :=
  { trail with recorder := { trail.recorder with events := events } }

theorem runOn_now (trail : Trail) : ∃ micros, Clock.timestamp micros = trail.time ∧
    now.runOn trail = (.ok micros, trail.ticked) :=
  ⟨_, rfl, rfl⟩

theorem runOn_keep (events : List Value) (trail : Trail) :
    (keep events).runOn trail = (.ok (), trail.keeping events) := rfl

theorem runOn_append (event : Value) (trail : Trail) :
    (append event).runOn trail = (.ok (), trail.keeping
      (lastOf trail.recorder.capacity (trail.recorder.events ++ [event]))) := rfl

def noted (host reason shown eventClass : Value) : LogEntry :=
  ⟨loggerName, if eventClass == .str warningClass then .warning else .info,
    "[" ++ host.text ++ "] " ++ reason.text ++ ": " ++ shown.text,
    [("host", host), ("reason", reason)]⟩

/-- An event is recorded where the stored events are taken in and all of them are saved, and it
is logged. -/
theorem runOn_record_noted {trail taken saved : Trail}
    {host reason message eventClass shown : Value}
    (hshown : redactMessage trail.recorder.redacts message = .ok shown)
    (hload : load.runOn trail.ticked = (.ok (), taken))
    (hsave : save.runOn (taken.keeping (lastOf taken.recorder.capacity
      (taken.recorder.events ++ [eventOf trail.time host reason shown eventClass]))) =
      (.ok (), saved)) :
    (record host reason message eventClass).runOn trail =
      (.ok (eventOf trail.time host reason shown eventClass),
        saved.withJournal (saved.around.journal ++ [noted host reason shown eventClass])) := by
  obtain ⟨micros, htime, hnow⟩ := trail.runOn_now
  have happend := runOn_append (eventOf trail.time host reason shown eventClass) taken
  rw [← htime] at happend hsave ⊢
  rw [record, runOn_bind_ok hnow, runOn_bind, runOn_get]
  simp only
  have hshownBehind : redactMessage trail.ticked.recorder.redacts message = .ok shown := hshown
  rw [runOn_bind, runOn_ofExcept, hshownBehind]
  simp only
  rw [runOn_bind_ok hload]
  simp only [eventOf] at happend hsave ⊢
  rw [runOn_bind_ok happend, runOn_bind_ok hsave]
  rfl

theorem runOn_record {trail taken saved : Trail} {host reason message eventClass shown : Value}
    (hshown : redactMessage trail.recorder.redacts message = .ok shown)
    (hload : load.runOn trail.ticked = (.ok (), taken))
    (hsave : save.runOn (taken.keeping (lastOf taken.recorder.capacity
      (taken.recorder.events ++ [eventOf trail.time host reason shown eventClass]))) =
      (.ok (), saved)) :
    ∃ journal, (record host reason message eventClass).runOn trail =
      (.ok (eventOf trail.time host reason shown eventClass), saved.withJournal journal) :=
  ⟨_, runOn_record_noted hshown hload hsave⟩

/-- A message that cannot be shown is not recorded. -/
theorem runOn_record_of_unshown {trail : Trail} {message : Value} {fault : Fault}
    (hshown : redactMessage trail.recorder.redacts message = .error fault)
    (host reason eventClass : Value) :
    (record host reason message eventClass).runOn trail = (.error fault, trail.ticked) := by
  obtain ⟨micros, -, hnow⟩ := trail.runOn_now
  have hbehind : redactMessage trail.ticked.recorder.redacts message = .error fault := hshown
  rw [record, runOn_bind_ok hnow, runOn_bind, runOn_get]
  simp only
  rw [runOn_bind, runOn_ofExcept, hbehind]

/-- An event is recorded alike where the stored events are taken in alike. -/
theorem runOn_record_congr {trail other : Trail} (host reason eventClass : Value)
    {message shown : Value}
    (hshown : redactMessage trail.recorder.redacts message = .ok shown)
    (hredacts : other.recorder.redacts = trail.recorder.redacts)
    (haround : other.around = trail.around)
    (hload : load.runOn other.ticked = load.runOn trail.ticked) :
    (record host reason message eventClass).runOn other =
      (record host reason message eventClass).runOn trail := by
  obtain ⟨recorder, around⟩ := trail
  obtain ⟨recorder', _⟩ := other
  cases haround
  have hnow : ∀ recorder, now.runOn ⟨recorder, around⟩ =
      (.ok (around.clock.entries.getD (around.clock.used % around.clock.entries.length) 0),
        ticked ⟨recorder, around⟩) := fun _ => rfl
  have hfirst : redactMessage (ticked ⟨recorder, around⟩).recorder.redacts message = .ok shown :=
    hshown
  have hsecond : redactMessage (ticked ⟨recorder', around⟩).recorder.redacts message = .ok shown :=
    (congrArg (redactMessage · message) hredacts).trans hshown
  rw [record, runOn_bind_ok (hnow _), runOn_bind_ok (hnow _), runOn_bind, runOn_bind, runOn_get,
    runOn_get]
  simp only
  rw [runOn_bind, runOn_ofExcept, hfirst, runOn_bind, runOn_ofExcept, hsecond]
  simp only
  rw [runOn_bind, hload, runOn_bind]

theorem runOn_load_of_loaded {trail : Trail} (hloaded : trail.recorder.loaded = true) :
    load.runOn trail = (.ok (), trail) := by
  simp [load, hloaded]

theorem runOn_save_of_none {trail : Trail} (hfile : trail.recorder.logFile = none) :
    save.runOn trail = (.ok (), trail) := by
  simp [save, hfile]

/-- A recorder that has not read its file yet reads it. -/
theorem runOn_load_of_unloaded {trail : Trail} {path : Path}
    (hunloaded : trail.recorder.loaded = false) (hfile : trail.recorder.logFile = some path) :
    load.runOn trail = (loadFile path).runOn trail.opening := by
  have hmark : markLoaded.runOn trail = (.ok (), trail.opening) := rfl
  rw [load, runOn_bind, runOn_get]
  simp only [hunloaded, hfile, Bool.not_false, if_true]
  rw [runOn_bind_ok hmark]

/-- Without a file there is nothing to take in. -/
theorem runOn_load_of_none (trail : Trail) (hfile : trail.recorder.logFile = none) :
    load.runOn trail = (.ok (), trail.opening) := by
  cases hloaded : trail.recorder.loaded with
  | true =>
    rw [runOn_load_of_loaded hloaded, opening, ← hloaded]
  | false =>
    have hmark : markLoaded.runOn trail = (.ok (), trail.opening) := rfl
    rw [load, runOn_bind, runOn_get]
    simp only [hloaded, Bool.not_false, if_true]
    rw [runOn_bind_ok hmark]
    simp only [hfile, runOn_pure]

/-- A recorder without a file keeps an event behind the others if there is room for it. -/
theorem runOn_record_of_none {trail : Trail} (hfile : trail.recorder.logFile = none)
    (hroom : trail.recorder.HasRoom 1) (host reason eventClass : Value) {message shown : Value}
    (hshown : redactMessage trail.recorder.redacts message = .ok shown) :
    ∃ behind : Trail, (record host reason message eventClass).runOn trail =
        (.ok (eventOf trail.time host reason shown eventClass), behind) ∧
      behind.recorder = trail.recorder.holding
        (trail.recorder.events ++ [eventOf trail.time host reason shown eventClass]) := by
  have hload := runOn_load_of_none trail.ticked hfile
  obtain ⟨journal, hrun⟩ := runOn_record hshown hload (runOn_save_of_none hfile)
  refine ⟨_, hrun, ?_⟩
  have hlast := lastOf_of_hasRoom trail.recorder
    [eventOf trail.time host reason shown eventClass] hroom
  simp only [withJournal, keeping, opening, ticked, Recorder.holding]
  rw [hlast]

end Trail

end HostLifecycle.Audit
