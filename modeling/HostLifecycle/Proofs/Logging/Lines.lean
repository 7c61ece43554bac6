import HostLifecycle.Proofs.Json.Reading
import HostLifecycle.Proofs.Json.Writing
import HostLifecycle.Proofs.Logging.Reports
import HostLifecycle.Text.Pieces

/-!
Log records on lines of their own. The line of a record is printable ASCII, so it ends where the
record does, and what is read from it is the report of the record and nothing else. No message can
bring in a field, or begin another line; and two records have the same line only if they agree in
all that is told.
-/

namespace HostLifecycle.Logging

open Json

namespace Report

variable {report other : Report}

theorem readBack_whole {text : Text} (h : text.isWhole = true) (levels : Nat) :
    readBack levels (.str text) = .ok (.str text) :=
  readBack_str_eq (Text.plain_of_isWhole h).unsplit levels

theorem readBack_changeValue {change : Text × Text} (hold : change.1.isWhole = true)
    (hnew : change.2.isWhole = true) (levels : Nat) :
    readBack (levels + 1) (changeValue change) = .ok (changeValue change) := by
  have hnames : (["from", "to"] : List Text).Nodup := by decide
  rw [changeValue]
  refine readBack_object_eq hnames ?_ ?_
  · simp only [List.forall_mem_cons, Text.unsplit_ofString, true_and]
    exact List.forall_mem_nil _
  · simp only [List.forall_mem_cons]
    exact ⟨readBack_whole hold _, readBack_whole hnew _, List.forall_mem_nil _⟩

theorem unsplit_contextNames : ∀ name ∈ contextNames, name.Unsplit := by
  simp only [contextNames, List.forall_mem_cons, Text.unsplit_ofString, true_and]
  exact List.forall_mem_nil _

theorem Tellable.change (h : report.Tellable) {change : Text × Text}
    (hchange : report.change? = some change) :
    change.1.isWhole = true ∧ change.2.isWhole = true := by
  obtain ⟨old, hold, hrest⟩ := Option.bind_eq_some_iff.mp hchange
  obtain ⟨new, hnew, hpair⟩ := Option.bind_eq_some_iff.mp hrest
  cases hpair
  exact ⟨h.given _ _ hold, h.given _ _ hnew⟩

/-- Every name of an entry is read back as it was written, and so is what stands there. -/
theorem Tellable.readBack_entries (h : report.Tellable) (levels : Nat) :
    ∀ field ∈ report.entries.present,
      field.1.Unsplit ∧ readBack (levels + 1) field.2 = .ok field.2 := by
  apply Fields.forall_mem_present
    (motive := fun name entry => name.Unsplit ∧ readBack (levels + 1) entry = .ok entry)
  simp only [entries, List.forall_mem_append]
  refine ⟨⟨?own, ?context⟩, ?events⟩
  case own =>
    simp only [own, List.forall_mem_cons, Option.some.injEq, forall_eq', Text.unsplit_ofString,
      true_and]
    exact ⟨readBack_str_eq (Text.unsplit_ofString _) _, readBack_whole h.level _,
      readBack_whole h.logger _, readBack_whole h.message _, readBack_whole h.source _,
      List.forall_mem_nil _⟩
  case context =>
    intro field hfield entry hentry
    obtain ⟨name, hlisted, rfl⟩ := List.mem_map.mp hfield
    obtain ⟨text, hgiven, rfl⟩ := Option.map_eq_some_iff.mp hentry
    exact ⟨unsplit_contextNames name hlisted, readBack_whole (h.given name text hgiven) _⟩
  case events =>
    simp only [events, List.forall_mem_cons, Option.map_eq_some_iff, Text.unsplit_ofString,
      true_and]
    refine ⟨?transition, ?exception, List.forall_mem_nil _⟩
    case transition =>
      rintro entry ⟨change, hchange, rfl⟩
      obtain ⟨hold, hnew⟩ := h.change hchange
      exact readBack_changeValue hold hnew levels
    case exception =>
      rintro entry ⟨told, htold, rfl⟩
      exact readBack_whole (h.trouble told htold) _

/-- The line of a report. -/
def line (report : Report) : String := write .line (.object report.entries.present)

/-- What is read from the line of a report that can be told is what was written. -/
theorem Tellable.read_line (h : report.Tellable) :
    read report.line = .ok (.object report.entries.present) := by
  rw [line, read_write]
  exact readBack_object_eq (Fields.nodup_names_present report.nodup_names_entries)
    (fun field hfield => (h.readBack_entries 985 field hfield).1)
    (fun field hfield => (h.readBack_entries 985 field hfield).2)

/-- Reports that can be told have the same line only if they agree, as what is read from it tells
both of them. -/
theorem Tellable.line_eq_iff (h : report.Tellable) (hother : other.Tellable)
    (hfits : report.moment.Fits) (hfits' : other.moment.Fits) :
    report.line = other.line ↔ report.Agrees other := by
  constructor
  · intro hline
    have hread := h.read_line
    rw [hline, hother.read_line] at hread
    have hentries := Value.object.inj (Except.ok.inj hread)
    have htold := report.toldBy_entries
    rw [← hentries] at htold
    exact htold.agrees other.toldBy_entries (Clock.Moment.zuluText_inj hfits hfits')
  · intro hagree
    rw [line, line, hagree.entries_eq]

theorem printable_line (report : Report) : Printable report.line.toList :=
  printable_write_line _

/-- A line ends at the first line feed behind it. -/
theorem pieces_line (report : Report) (rest : List Char) :
    Text.pieces '\n' (report.line.toList ++ '\n' :: rest) =
      report.line.toList :: Text.pieces '\n' rest := by
  apply Text.pieces_append
  intro hbreak
  exact absurd (report.printable_line '\n' hbreak) (by decide)

end Report

namespace LogRecord.Reports

variable {record other : LogRecord} {report report' : Report}

theorem fits_moment (h : record.Reports report) (htell : report.Tellable) :
    report.moment.Fits := by
  obtain ⟨micros, -, hmoment⟩ := h.moment
  have hyear := htell.year
  rw [← hmoment] at hyear ⊢
  exact Clock.fits_momentOf hyear

theorem jsonLine_eq (h : record.Reports report) (htell : report.Tellable) :
    record.jsonLine = .ok (Text.ofString report.line) := by
  rw [jsonLine, h.fields_eq htell.year]
  rfl

/-- Two records have the same line exactly if their reports agree. -/
theorem jsonLine_eq_iff (h : record.Reports report) (htell : report.Tellable)
    (h' : other.Reports report') (htell' : report'.Tellable) :
    other.jsonLine = record.jsonLine ↔ report'.Agrees report := by
  rw [h.jsonLine_eq htell, h'.jsonLine_eq htell', Except.ok.injEq, Text.ofString_inj]
  exact htell'.line_eq_iff htell (h'.fits_moment htell') (h.fits_moment htell)

end LogRecord.Reports

namespace LogRecord

/-- A record whose report can be told has a line. It is of printable ASCII, and ends where the
record does, whatever stands behind it. What is read from it tells the report and nothing else, with
an error among it exactly if one is attached to the record. And only records whose reports agree
have the same line. -/
theorem told_on_one_line {record : LogRecord} {report : Report} (h : record.Reports report)
    (htell : report.Tellable) :
    ∃ line : String, record.jsonLine = .ok (Text.ofString line) ∧
      Printable line.toList ∧
      (∀ rest, Text.pieces '\n' (line.toList ++ '\n' :: rest) =
        line.toList :: Text.pieces '\n' rest) ∧
      (∃ fields : Fields Value, read line = .ok (.object fields) ∧ report.ToldBy fields ∧
        (("exception" : Text) ∈ fields.names ↔ record.trouble.isAttached = true)) ∧
      ∀ (other : LogRecord) (report' : Report), other.Reports report' → report'.Tellable →
        (other.jsonLine = record.jsonLine ↔ report'.Agrees report) := by
  have htold := report.toldBy_entries
  exact ⟨report.line, h.jsonLine_eq htell, report.printable_line, report.pieces_line,
    ⟨report.entries.present, htell.read_line, htold, h.exception_iff htold⟩,
    fun _ _ h' htell' => h.jsonLine_eq_iff htell h' htell'⟩

/-- A message that looks like the end of one line and the start of another stays a message. -/
theorem told_on_one_line_forging :
    let message : Text := "gone\", \"host\": \"bm-2\"\x7d\n\x7b\"level\": \"🔑"
    let recordOf : Fields Text → LogRecord := fun given =>
      ⟨.str "baremetal", .str "INFO", .str message, .row [], .str "app", .int 1, .int 0,
        .raised ⟨"ValueError", "x"⟩, given.map fun field => (field.1, .str field.2)⟩
    let record := recordOf [("host", "bm-1"), ("old_state", "none")]
    (∃ (line : String) (fields : Fields Value), record.jsonLine = .ok (Text.ofString line) ∧
      Text.pieces '\n' (line.toList ++ ['\n']) = [line.toList, []] ∧
      read line = .ok (.object fields) ∧
      fields.names = ["timestamp", "level", "logger", "message", "source", "host", "exception"] ∧
      fields.get? "message" = some (.str message)) ∧
    (recordOf [("host", "bm-1")]).jsonLine = record.jsonLine ∧
    (recordOf [("host", "bm-2")]).jsonLine ≠ record.jsonLine := by
  intro message recordOf record
  let reportOf : Fields Text → Report := fun given =>
    ⟨Clock.momentOf 0, "INFO", "baremetal", message, "app:1", given.get?, some "ValueError: x"⟩
  have hreports : ∀ given, (recordOf given).Reports (reportOf given) := by
    intro given
    refine ⟨⟨0, rfl, rfl⟩, rfl, rfl, rfl, rfl, ?_, rfl⟩
    intro name _
    simp only [extra, recordOf, reportOf, Fields.get?_map]
    cases given.get? name <;> rfl
  have hyear : Clock.IsCalendarYear (Clock.momentOf 0).date.year := by
    constructor <;> decide
  have htell : ∀ given : Fields Text, (∀ field ∈ given, field.2.isWhole = true) →
      (reportOf given).Tellable := by
    intro given hgiven
    refine ⟨hyear, rfl, rfl, rfl, rfl, ?_, ?_⟩
    · intro name text htext
      obtain ⟨field, hfield, rfl⟩ := Fields.exists_of_get? htext
      exact hgiven field hfield
    · rintro text ⟨⟩
      rfl
  have hcontext : ∀ name ∈ contextNames, Fields.get? ([("host", "bm-1")] : Fields Text) name =
      Fields.get? ([("host", "bm-1"), ("old_state", "none")] : Fields Text) name := by decide
  have hhosts : Fields.get? ([("host", "bm-2")] : Fields Text) "host" ≠
      Fields.get? ([("host", "bm-1"), ("old_state", "none")] : Fields Text) "host" := by decide
  obtain ⟨line, hline, -, hpieces, ⟨fields, hread, htold, -⟩, hsame⟩ :=
    told_on_one_line (hreports [("host", "bm-1"), ("old_state", "none")])
      (htell _ (List.all_eq_true.mp rfl))
  refine ⟨⟨line, fields, hline, hpieces [], hread, htold.names.trans rfl, htold.message⟩, ?_, ?_⟩
  · exact (hsame _ _ (hreports _) (htell _ (List.all_eq_true.mp rfl))).mpr
      ⟨rfl, rfl, rfl, rfl, rfl, hcontext, rfl, rfl⟩
  · intro hequal
    have hagree := (hsame _ _ (hreports _) (htell _ (List.all_eq_true.mp rfl))).mp hequal
    exact hhosts (hagree.context "host" (by decide))

end LogRecord

end HostLifecycle.Logging
