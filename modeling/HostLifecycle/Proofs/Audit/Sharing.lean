import HostLifecycle.Proofs.Audit.Recording
import HostLifecycle.Proofs.Twin

/-!
A recorder that several hosts share. Without a file a recorder holds the latest of what it was
told, so whatever it answers is told from the log of all events. Asked about one host it answers
from the events about this host alone, as long as its bound is not exceeded, and but for their
times these are the events that a recorder of the host's own would hold.
-/

namespace HostLifecycle.Audit

open Logging Attempt

/-- An event without the point in time at which it happened. -/
def untimed : Value → Value
  | .object fields => .object (fields.filter fun field => field.1 != "timestamp")
  | value => value

theorem untimed_eventOf (time : Text) (host reason message eventClass : Value) :
    untimed (eventOf time host reason message eventClass) =
      .object [("host", host), ("type", eventClass), ("reason", reason), ("message", message)] :=
  rfl

def About (name : Text) (event : Value) : Prop :=
  ∃ time reason message eventClass, event = eventOf time (.str name) reason message eventClass

/-- Whether a field of an event has a value; a field that is missing counts as null. -/
def hasField (field : Text) (value : Value) : Value → Bool
  | .object fields => ((Fields.get? fields field).getD .null) == value
  | _ => false

section

variable {name other : Text} {event : Value} {log log' : List Value}

theorem About.hasField_host (h : About name event) :
    hasField "host" (.str other) event = (name == other) := by
  obtain ⟨time, reason, message, eventClass, rfl⟩ := h
  rfl

/-- Whether an event has a reason does not depend on its time. -/
theorem About.hasField_reason (h : About name event) (reason : Value) :
    hasField "reason" reason (untimed event) = hasField "reason" reason event := by
  obtain ⟨time, reason, message, eventClass, rfl⟩ := h
  rfl

theorem filter_about (h : ∀ event ∈ log, About name event) :
    log.filter (hasField "host" (.str name)) = log := by
  rw [List.filter_eq_self]
  intro event hevent
  rw [(h event hevent).hasField_host]
  exact beq_self_eq_true name

theorem filter_about_ne (h : ∀ event ∈ log, About name event) (hother : name ≠ other) :
    log.filter (hasField "host" (.str other)) = [] := by
  rw [List.filter_eq_nil_iff]
  intro event hevent
  rw [(h event hevent).hasField_host]
  simpa using hother

/-- Events with fields are looked for one by one. -/
theorem having_of_objects (field : Text) (value : Value)
    (h : ∀ event ∈ log, ∃ fields, event = .object fields) :
    Trail.having field value log = .ok (log.filter (hasField field value)) := by
  induction log with
  | nil => rfl
  | cons event rest ih =>
    rw [List.forall_mem_cons] at h
    obtain ⟨⟨fields, rfl⟩, hobjects⟩ := h
    have hcons : Trail.having field value (.object fields :: rest) =
        if hasField field value (.object fields) then
          .ok (.object fields :: rest.filter (hasField field value))
        else .ok (rest.filter (hasField field value)) := by
      rw [Trail.having, ih hobjects]
      rfl
    rw [hcons, List.filter_cons]
    split <;> rfl

/-- The events that have a field are looked for one by one. -/
theorem having_eq (field : Text) (value : Value) (h : ∀ event ∈ log, ∃ name, About name event) :
    Trail.having field value log = .ok (log.filter (hasField field value)) := by
  apply having_of_objects
  intro event hevent
  obtain ⟨name, time, reason, message, eventClass, rfl⟩ := h event hevent
  exact ⟨_, rfl⟩

/-- The host that an event is about. -/
def hostOf : Value → Text
  | .object fields =>
    match Fields.get? fields "host" with
    | some (.str name) => name
    | _ => ""
  | _ => ""

theorem count_hostOf (h : ∀ event ∈ log, ∃ name, About name event) (name : Text) :
    (log.map hostOf).count name = (log.filter (hasField "host" (.str name))).length := by
  rw [List.count, List.countP_map, List.countP_eq_length_filter]
  congr 1
  apply List.filter_congr
  intro event hevent
  obtain ⟨other, time, reason, message, eventClass, rfl⟩ := h event hevent
  rfl

/-- Logs that tell as much of each of some hosts, and of no other, are equally long. -/
theorem length_eq_of_hosts {ι : Type} {names : ι → Text}
    (h : ∀ event ∈ log, ∃ i, About (names i) event)
    (h' : ∀ event ∈ log', ∃ i, About (names i) event)
    (hsame : ∀ i, (log.filter (hasField "host" (.str (names i)))).length =
      (log'.filter (hasField "host" (.str (names i)))).length) : log.length = log'.length := by
  have hsome : ∀ {log : List Value}, (∀ event ∈ log, ∃ i, About (names i) event) →
      ∀ event ∈ log, ∃ name, About name event := fun h event hevent =>
    let ⟨i, habout⟩ := h event hevent
    ⟨names i, habout⟩
  have hnone : ∀ {log : List Value}, (∀ event ∈ log, ∃ i, About (names i) event) →
      ∀ name, (∀ i, names i ≠ name) → (log.map hostOf).count name = 0 := by
    intro log h name hname
    rw [List.count_eq_zero, List.mem_map]
    rintro ⟨event, hevent, rfl⟩
    obtain ⟨i, time, reason, message, eventClass, rfl⟩ := h event hevent
    exact hname i rfl
  have hperm : (log.map hostOf).Perm (log'.map hostOf) := by
    rw [List.perm_iff_count]
    intro name
    by_cases hname : ∃ i, names i = name
    · obtain ⟨i, rfl⟩ := hname
      rw [count_hostOf (hsome h), count_hostOf (hsome h'), hsame i]
    · have hother : ∀ i, names i ≠ name := fun i hi => hname ⟨i, hi⟩
      rw [hnone h name hother, hnone h' name hother]
  simpa using hperm.length_eq

/-- What a query for a limit and a reason answers from events. -/
def answerFrom (limit reason : Value) (events : List Value) : Except Fault (List Value) :=
  let kept := if reason.isTruthy then events.filter (hasField "reason" reason) else events
  match limit.asInt? with
  | some limit => .ok (Trail.selected limit kept).reverse
  | none => .error .wrongType

theorem selected_map (f : Value → Value) (limit : Int) (events : List Value) :
    (Trail.selected limit events).map f = Trail.selected limit (events.map f) := by
  unfold Trail.selected
  split
  · rw [List.map_drop, List.length_map]
  · rw [List.map_drop]

theorem filter_reason_untimed (reason : Value) (h : ∀ event ∈ log, ∃ name, About name event) :
    (log.filter (hasField "reason" reason)).map untimed =
      (log.map untimed).filter (hasField "reason" reason) := by
  rw [List.filter_map]
  congr 1
  apply List.filter_congr
  intro event hevent
  obtain ⟨name, habout⟩ := h event hevent
  exact (habout.hasField_reason reason).symm

/-- From events that differ only in their times a query answers events that do. -/
theorem answerFrom_untimed (limit reason : Value) (h : ∀ event ∈ log, ∃ name, About name event)
    (h' : ∀ event ∈ log', ∃ name, About name event) (hsame : log.map untimed = log'.map untimed) :
    (answerFrom limit reason log).map (List.map untimed) =
      (answerFrom limit reason log').map (List.map untimed) := by
  have hkept : (if reason.isTruthy then log.filter (hasField "reason" reason) else log).map
        untimed =
      (if reason.isTruthy then log'.filter (hasField "reason" reason) else log').map untimed := by
    split
    · rw [filter_reason_untimed reason h, filter_reason_untimed reason h', hsame]
    · exact hsame
  unfold answerFrom
  cases limit.asInt? with
  | none => rfl
  | some limit =>
    simp only [Except.map, List.map_reverse, selected_map, hkept]

end

theorem lastOf_append_lastOf (capacity : Option Nat) (log : List Value) (event : Value) :
    lastOf capacity (lastOf capacity log ++ [event]) = lastOf capacity (log ++ [event]) := by
  cases capacity with
  | none => rfl
  | some capacity => exact lastOf_lastOf_append capacity log event

namespace Trail

/-- A trail whose recorder has no file and was told the events of a log. -/
structure Holds (bound : Option Nat) (isRedacting : Bool) (log : List Value) (trail : Trail) :
    Prop where
  logFile : trail.recorder.logFile = none
  capacity : trail.recorder.capacity = bound
  redacts : trail.recorder.redacts = isRedacting
  events : trail.recorder.events = lastOf bound log

variable {capacity capacity' : Option Nat} {redacts : Bool} {log log' : List Value}
  {journal journal' : List LogEntry} {trail trail' : Trail} {name : Text}

theorem Holds.withJournal (h : trail.Holds capacity redacts log) (journal : List LogEntry) :
    (trail.withJournal journal).Holds capacity redacts log :=
  ⟨h.logFile, h.capacity, h.redacts, h.events⟩

theorem holds_new (capacity : Option Nat) (redacts : Bool) (around : Surroundings) :
    Holds capacity redacts [] ⟨Recorder.new none capacity redacts, around⟩ := by
  refine ⟨rfl, rfl, rfl, ?_⟩
  cases capacity with
  | none => rfl
  | some bound => exact List.drop_nil.symm

/-- An event is told to a recorder unless its message cannot be shown. -/
theorem Holds.runOn_record (h : trail.Holds capacity redacts log)
    (host reason message eventClass : Value) :
    (∃ fault, redactMessage redacts message = .error fault ∧
      (record host reason message eventClass).runOn trail = (.error fault, trail.ticked)) ∨
    ∃ shown behind, redactMessage redacts message = .ok shown ∧
      (record host reason message eventClass).runOn trail =
        (.ok (eventOf trail.time host reason shown eventClass), behind) ∧
      behind.Holds capacity redacts (log ++ [eventOf trail.time host reason shown eventClass]) ∧
      behind.around.journal = trail.around.journal ++ [noted host reason shown eventClass] := by
  have hredacts := h.redacts
  cases hshown : redactMessage redacts message with
  | error fault =>
    rw [← hredacts] at hshown
    exact Or.inl ⟨fault, rfl, runOn_record_of_unshown hshown host reason eventClass⟩
  | ok shown =>
    rw [← hredacts] at hshown
    have hload := runOn_load_of_none trail.ticked h.logFile
    have hrun := @runOn_record_noted trail _ _ host reason message eventClass shown hshown hload
      (runOn_save_of_none h.logFile)
    refine Or.inr ⟨shown, _, rfl, hrun, ⟨h.logFile, h.capacity, h.redacts, ?_⟩, rfl⟩
    change lastOf trail.recorder.capacity
      (trail.recorder.events ++ [eventOf trail.time host reason shown eventClass]) = _
    rw [h.capacity, h.events]
    exact lastOf_append_lastOf capacity log _

/-- What a recorder answers about a host, as long as it has forgotten nothing. -/
theorem Holds.runOn_query (h : trail.Holds capacity redacts log)
    (hfits : ∀ bound, capacity = some bound → log.length ≤ bound)
    (hlog : ∀ event ∈ log, ∃ name, About name event) (hname : name ≠ "")
    (limit reason : Value) :
    ((query limit (.str name) reason).runOn trail).1 =
      answerFrom limit reason (log.filter (hasField "host" (.str name))) := by
  have hevents : trail.recorder.events = log := by
    rw [h.events]
    cases capacity with
    | none => rfl
    | some bound => exact lastOf_of_length_le (hfits bound rfl)
  have htruthy : (Value.str name).isTruthy = true := by
    simpa [Value.isTruthy] using hname
  have hhost : filtered "host" (.str name) trail.opening.recorder.events =
      .ok (log.filter (hasField "host" (.str name))) := by
    change filtered "host" (.str name) trail.recorder.events = _
    rw [filtered, if_pos htruthy, hevents, having_eq "host" (.str name) hlog]
  have hreason : filtered "reason" reason (log.filter (hasField "host" (.str name))) =
      .ok (if reason.isTruthy then
        (log.filter (hasField "host" (.str name))).filter (hasField "reason" reason)
      else log.filter (hasField "host" (.str name))) := by
    have hkept : ∀ event ∈ log.filter (hasField "host" (.str name)),
        ∃ name, About name event :=
      fun event hevent => hlog event (List.mem_filter.mp hevent).1
    unfold filtered
    split
    · exact having_eq "reason" reason hkept
    · rfl
  rw [query, runOn_bind_ok (runOn_load_of_none trail h.logFile), runOn_bind, runOn_get]
  simp only
  rw [runOn_bind, runOn_ofExcept, hhost]
  simp only
  rw [runOn_bind, runOn_ofExcept, hreason]
  unfold answerFrom
  cases limit.asInt? <;> rfl

/-- Two trails that go on abreast behind given logs and journals: both were told the same about one
host, though at other times, and the same was written to both. -/
def Beside (capacity capacity' : Option Nat) (redacts : Bool) (name : Text)
    (log log' : List Value) (journal journal' : List LogEntry) (trail trail' : Trail) : Prop :=
  ∃ told told' entries,
    trail.Holds capacity redacts (log ++ told) ∧ trail'.Holds capacity' redacts (log' ++ told') ∧
    (∀ event ∈ told, About name event) ∧ (∀ event ∈ told', About name event) ∧
    told.map untimed = told'.map untimed ∧
    trail.around.journal = journal ++ entries ∧ trail'.around.journal = journal' ++ entries

theorem Holds.beside (h : trail.Holds capacity redacts log)
    (h' : trail'.Holds capacity' redacts log') (name : Text) :
    Beside capacity capacity' redacts name log log' trail.around.journal trail'.around.journal
      trail trail' := by
  refine ⟨[], [], [], ?_, ?_, fun _ h => absurd h List.not_mem_nil,
    fun _ h => absurd h List.not_mem_nil, rfl, ?_, ?_⟩ <;> rw [List.append_nil]
  · exact h
  · exact h'

theorem Beside.record (h : Beside capacity capacity' redacts name log log' journal journal' trail
      trail') (reason message eventClass : Value) :
    Matched (Beside capacity capacity' redacts name log log' journal journal') (fun _ _ => True)
      ((record (.str name) reason message eventClass).runOn trail)
      ((record (.str name) reason message eventClass).runOn trail') := by
  obtain ⟨told, told', entries, hholds, hholds', habout, habout', hsame, hjournal, hjournal'⟩ := h
  rcases hholds.runOn_record (.str name) reason message eventClass with
    ⟨fault, hshown, hrun⟩ | ⟨shown, behind, hshown, hrun, hbehind, hnoted⟩ <;>
  rcases hholds'.runOn_record (.str name) reason message eventClass with
    ⟨fault', hshown', hrun'⟩ | ⟨shown', behind', hshown', hrun', hbehind', hnoted'⟩ <;>
  cases hshown.symm.trans hshown' <;> rw [hrun, hrun']
  · refine ⟨.error fault, told, told', entries, ?_, ?_, habout, habout', hsame, hjournal, hjournal'⟩
    · exact ⟨hholds.logFile, hholds.capacity, hholds.redacts, hholds.events⟩
    · exact ⟨hholds'.logFile, hholds'.capacity, hholds'.redacts, hholds'.events⟩
  · have hnew : ∀ time, About name (eventOf time (.str name) reason shown eventClass) :=
      fun time => ⟨time, reason, shown, eventClass, rfl⟩
    have hgrown : ∀ {told : List Value} {time : Text}, (∀ event ∈ told, About name event) →
        ∀ event ∈ told ++ [eventOf time (.str name) reason shown eventClass],
          About name event := fun hold =>
      List.forall_mem_append.mpr ⟨hold, List.forall_mem_singleton.mpr (hnew _)⟩
    rw [List.append_assoc] at hbehind hbehind'
    refine ⟨.ok trivial, told ++ [eventOf trail.time (.str name) reason shown eventClass],
      told' ++ [eventOf trail'.time (.str name) reason shown eventClass],
      entries ++ [noted (.str name) reason shown eventClass], hbehind, hbehind', hgrown habout,
      hgrown habout', ?_, ?_, ?_⟩
    · simp only [List.map_append, List.map_cons, List.map_nil, hsame, untimed_eventOf]
    · rw [hnoted, hjournal, List.append_assoc]
    · rw [hnoted', hjournal', List.append_assoc]

/-- What a recorder answers about a host, without the times. -/
def shown (limit reason : Value) (name : Text) (trail : Trail) : Except Fault (List Value) :=
  ((query limit (.str name) reason).runOn trail).1.map (List.map untimed)

/-- A recorder that several hosts share and one of a host's own show the same of this host. -/
theorem Holds.shown_eq (h : trail.Holds capacity redacts log)
    (h' : trail'.Holds capacity' redacts log')
    (hfits : ∀ bound, capacity = some bound → log.length ≤ bound)
    (hfits' : ∀ bound, capacity' = some bound → log'.length ≤ bound)
    (hlog : ∀ event ∈ log, ∃ name, About name event) (hlog' : ∀ event ∈ log', About name event)
    (hname : name ≠ "")
    (hsame : (log.filter (hasField "host" (.str name))).map untimed = log'.map untimed)
    (limit reason : Value) : trail.shown limit reason name = trail'.shown limit reason name := by
  have hsome : ∀ event ∈ log', ∃ name, About name event := fun event hevent =>
    ⟨name, hlog' event hevent⟩
  rw [shown, shown, h.runOn_query hfits hlog hname, h'.runOn_query hfits' hsome hname,
    filter_about hlog']
  apply answerFrom_untimed limit reason _ hsome hsame
  exact fun event hevent => hlog event (List.mem_filter.mp hevent).1

/-- For a number as the limit there is an answer. -/
theorem Holds.exists_shown (h : trail.Holds capacity redacts log)
    (hfits : ∀ bound, capacity = some bound → log.length ≤ bound)
    (hlog : ∀ event ∈ log, ∃ name, About name event) (hname : name ≠ "") (limit : Int)
    (reason : Value) : ∃ events, trail.shown (.int limit) reason name = .ok events := by
  rw [shown, h.runOn_query hfits hlog hname]
  exact ⟨_, rfl⟩

end Trail

end HostLifecycle.Audit
