import HostLifecycle.Logging.Line
import HostLifecycle.Proofs.Clock.Timestamps
import HostLifecycle.Proofs.Value.Fields

/-!
What a log record has to tell, and which fields tell it. A report is made of texts: those that every
record has, those that were given beside the message, and that of an error. The fields of a record
are the entries of its report that are there, each under a name of its own. A change of state is
among them only if both of its ends were given.
-/

namespace HostLifecycle.Logging

/-- Whether a record says something of an error. -/
def Trouble.isAttached : Trouble → Bool
  | absent => false
  | raised _ => true
  | raw v => v.isTruthy

theorem Trouble.isSome_of_message? {trouble : Trouble} {told : Option Text}
    (h : trouble.message? = .ok told) : told.isSome = trouble.isAttached := by
  cases trouble with
  | absent => cases h; rfl
  | raised raised => cases h; rfl
  | raw v =>
    simp only [message?] at h
    split at h
    next htruthy =>
      unfold rawMessage? at h
      split at h <;> cases h
      exact htruthy.symm
    next hfalsy =>
      cases h
      exact (Bool.not_eq_true _ ▸ hfalsy).symm

def ownNames : List Text := ["timestamp", "level", "logger", "message", "source"]

def endNames : List Text := ["old_state", "new_state"]

/-- What a record has to tell: the time of its making, texts of its own, those texts that were given
beside the message, by their names, and the line of an error if there is one. -/
structure Report where
  moment : Clock.Moment
  level : Text
  logger : Text
  message : Text
  source : Text
  given : Text → Option Text
  trouble : Option Text

namespace Report

def change? (report : Report) : Option (Text × Text) := do
  let old ← report.given "old_state"
  let new ← report.given "new_state"
  pure (old, new)

def changeValue (change : Text × Text) : Value :=
  .object [("from", .str change.1), ("to", .str change.2)]

def names (report : Report) : List Text :=
  let change : List Text := if report.change?.isSome then ["transition"] else []
  let trouble : List Text := if report.trouble.isSome then ["exception"] else []
  ownNames ++ contextNames.filter (fun name => (report.given name).isSome) ++ change ++ trouble

/-- A report that can be told: the calendar reaches to its year, and no half of a pair stands alone
in its texts. -/
structure Tellable (report : Report) : Prop where
  year : Clock.IsCalendarYear report.moment.date.year
  level : report.level.isWhole = true
  logger : report.logger.isWhole = true
  message : report.message.isWhole = true
  source : report.source.isWhole = true
  given : ∀ name text, report.given name = some text → text.isWhole = true
  trouble : ∀ text, report.trouble = some text → text.isWhole = true

/-- Two reports that agree in all that is told. What was given under other names, or as one end of a
change without the other, is not. -/
structure Agrees (report other : Report) : Prop where
  moment : report.moment = other.moment
  level : report.level = other.level
  logger : report.logger = other.logger
  message : report.message = other.message
  source : report.source = other.source
  context : ∀ name ∈ contextNames, report.given name = other.given name
  change : report.change? = other.change?
  trouble : report.trouble = other.trouble

/-- Fields that tell a report: there is one for each of its parts and no other, and it holds what
the report does. -/
structure ToldBy (report : Report) (fields : Fields Value) : Prop where
  names : fields.names = report.names
  timestamp : fields.get? "timestamp" = some (.str report.moment.zuluText)
  level : fields.get? "level" = some (.str report.level)
  logger : fields.get? "logger" = some (.str report.logger)
  message : fields.get? "message" = some (.str report.message)
  source : fields.get? "source" = some (.str report.source)
  context : ∀ name ∈ contextNames, fields.get? name = (report.given name).map .str
  transition : fields.get? "transition" = report.change?.map changeValue
  exception : fields.get? "exception" = report.trouble.map .str

/-- The texts that every line has, under their names. -/
def own (report : Report) : Fields (Option Value) :=
  [("timestamp", some (.str report.moment.zuluText)), ("level", some (.str report.level)),
    ("logger", some (.str report.logger)), ("message", some (.str report.message)),
    ("source", some (.str report.source))]

/-- What may have been given about the host. -/
def context (report : Report) : Fields (Option Value) :=
  contextNames.map fun name => (name, (report.given name).map .str)

def events (report : Report) : Fields (Option Value) :=
  [("transition", report.change?.map changeValue), ("exception", report.trouble.map .str)]

/-- The entries that a report may have, with what stands there. -/
def entries (report : Report) : Fields (Option Value) :=
  report.own ++ report.context ++ report.events

variable {report other : Report}

theorem nodup_names_entries (report : Report) : report.entries.names.Nodup := by
  have hnames : report.entries.names =
      ownNames ++ contextNames ++ (["transition", "exception"] : List Text) := rfl
  rw [hnames]
  decide

theorem names_entries (report : Report) : report.entries.present.names = report.names := by
  have hcontext : Fields.names (report.context.filter fun field => field.2.isSome) =
      contextNames.filter fun name => (report.given name).isSome := by
    simp [Fields.names, context, List.filter_map, Function.comp_def]
  rw [Fields.names_present, entries, List.filter_append, List.filter_append, Fields.names_append,
    Fields.names_append, hcontext, names, events]
  cases report.change? <;> cases report.trouble <;> simp [Fields.names, own, ownNames]

/-- A report is told by its entries. -/
theorem toldBy_entries (report : Report) : report.ToldBy report.entries.present := by
  have hfound : ∀ {name : Text} {entry : Option Value}, (name, entry) ∈ report.entries →
      report.entries.present.get? name = entry :=
    Fields.get?_present report.nodup_names_entries
  constructor
  case names => exact report.names_entries
  case context =>
    intro name hname
    apply hfound
    simp [entries, context, hname]
  all_goals
    apply hfound
    simp [entries, own, events]

theorem changeValue_injective : Function.Injective changeValue := by
  rintro ⟨old, new⟩ ⟨old', new'⟩ h
  simpa [changeValue] using h

theorem str_injective : Function.Injective Value.str :=
  fun _ _ => Value.str.inj

/-- What tells two reports tells the same of both. -/
theorem ToldBy.agrees {fields : Fields Value} (h : report.ToldBy fields)
    (hother : other.ToldBy fields)
    (hmoment : report.moment.zuluText = other.moment.zuluText → report.moment = other.moment) :
    report.Agrees other where
  moment := by
    have htime := str_injective (Option.some.inj (h.timestamp.symm.trans hother.timestamp))
    exact hmoment (Text.ofString_inj.mp htime)
  level := str_injective (Option.some.inj (h.level.symm.trans hother.level))
  logger := str_injective (Option.some.inj (h.logger.symm.trans hother.logger))
  message := str_injective (Option.some.inj (h.message.symm.trans hother.message))
  source := str_injective (Option.some.inj (h.source.symm.trans hother.source))
  context name hname :=
    Option.map_injective str_injective
      ((h.context name hname).symm.trans (hother.context name hname))
  change :=
    Option.map_injective changeValue_injective (h.transition.symm.trans hother.transition)
  trouble := Option.map_injective str_injective (h.exception.symm.trans hother.exception)

theorem Agrees.entries_eq (h : report.Agrees other) : report.entries = other.entries := by
  have hcontext : report.context = other.context := by
    apply List.map_congr_left
    intro name hname
    rw [h.context name hname]
  simp only [entries, own, hcontext, events, h.moment, h.level, h.logger, h.message, h.source,
    h.change, h.trouble]

end Report

/-- A record that makes a report. Whatever else was given beside its message does not matter. -/
structure LogRecord.Reports (record : LogRecord) (report : Report) : Prop where
  moment : ∃ micros, Clock.microsOf record.created = .ok micros ∧
    Clock.momentOf micros = report.moment
  level : record.level = .str report.level
  logger : record.logger = .str report.logger
  message : record.fullMessage = .ok report.message
  source : record.source.text ++ ":" ++ record.line.text = report.source
  given : ∀ name ∈ contextNames ++ endNames,
    record.extra name = (report.given name).elim .null .str
  trouble : record.trouble.message? = .ok report.trouble

namespace LogRecord.Reports

variable {record : LogRecord} {report : Report}

theorem context_eq (h : record.Reports report) : record.context = report.context.present := by
  have hgiven := fun name hname => h.given name (List.mem_append_left endNames hname)
  rw [LogRecord.context, Report.context]
  generalize contextNames = names at hgiven
  induction names with
  | nil => rfl
  | cons name rest ih =>
    obtain ⟨hfirst, hrest⟩ := List.forall_mem_cons.mp hgiven
    rw [List.map_cons, List.filter_cons, hfirst, ih hrest]
    cases hname : report.given name <;> simp [Fields.present, hname]

theorem transition_eq (h : record.Reports report) :
    record.transition = Fields.present [("transition", report.change?.map Report.changeValue)] := by
  rw [LogRecord.transition, h.given "old_state" (by simp [endNames]),
    h.given "new_state" (by simp [endNames]), Report.change?]
  cases report.given "old_state" with
  | none => rfl
  | some old => cases report.given "new_state" <;> rfl

/-- The fields of a record are the entries of its report that are there. -/
theorem fields_eq (h : record.Reports report)
    (hyear : Clock.IsCalendarYear report.moment.date.year) :
    record.fields = .ok report.entries.present := by
  obtain ⟨micros, hmicros, hmoment⟩ := h.moment
  rw [← hmoment] at hyear
  have hcalendar := Clock.momentOf?_of_year hyear
  rw [hmoment] at hcalendar
  have hevents : report.events.present =
      Fields.present [("transition", report.change?.map Report.changeValue)] ++
        Fields.present [("exception", report.trouble.map .str)] :=
    Fields.present_append [_] [_]
  simp only [LogRecord.fields, hmicros, hcalendar, h.message, h.trouble, h.level, h.logger,
    h.source, h.context_eq, h.transition_eq, bind, Except.bind, pure, Except.pure,
    Report.entries, Fields.present_append, hevents, ← List.append_assoc]
  cases report.trouble <;> rfl

/-- An error is told exactly if one is attached to the record. -/
theorem exception_iff (h : record.Reports report) {fields : Fields Value}
    (htold : report.ToldBy fields) :
    ("exception" : Text) ∈ fields.names ↔ record.trouble.isAttached = true := by
  rw [← Fields.isSome_get?_iff, htold.exception, Option.isSome_map,
    Trouble.isSome_of_message? h.trouble]

end LogRecord.Reports

end HostLifecycle.Logging
