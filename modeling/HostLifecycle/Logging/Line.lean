import HostLifecycle.Clock.Instant
import HostLifecycle.Json.Printer
import HostLifecycle.Logging.Record

/-!
Log records as lines. In the first form a record is one JSON object: what every record
has, then the values about the host that were given beside the message, a change of
state if both ends of it were given, and the error if there is one. In the second form
a record is a line of plain text, with the error on a line of its own.
-/

namespace HostLifecycle.Logging

/-- The values beside a message that are written under their own names. -/
def contextNames : List Text :=
  ["host", "state", "reason", "error_type", "current_rescue"]

namespace LogRecord

def context (record : LogRecord) : Fields Value :=
  (contextNames.map fun name => (name, record.extra name)).filter fun entry =>
    match entry.2 with
    | .null => false
    | _ => true

/-- The change of state, if both ends of it were given. -/
def transition (record : LogRecord) : Fields Value :=
  match record.extra "old_state", record.extra "new_state" with
  | .null, _ => []
  | _, .null => []
  | old, new => [("transition", .object [("from", old), ("to", new)])]

def fields (record : LogRecord) : Except Fault (Fields Value) := do
  let micros ← Clock.microsOf record.created
  let moment ← Clock.momentOf? micros
  let message ← record.fullMessage
  let told ← record.trouble.message?
  let own : Fields Value :=
    [("timestamp", .str moment.zuluText), ("level", record.level),
     ("logger", record.logger), ("message", .str message),
     ("source", .str (record.source.text ++ ":" ++ record.line.text))]
  let trouble : Fields Value := match told with
    | some line => [("exception", .str line)]
    | none => []
  pure (own ++ record.context ++ record.transition ++ trouble)

def jsonLine (record : LogRecord) : Except Fault Text :=
  record.fields.map fun fields => Json.write .line (.object fields)

/-- The day and the time of day of a record, to the millisecond. -/
def timeText (record : LogRecord) : Except Fault Text := do
  let second ← Clock.secondOf record.created
  let moment ← Clock.toldMoment? second
  let shape : Template.Shape := ⟨['0'], 3, none⟩
  let millis := shape.integer 10 "" (Clock.millisOf record.created)
  pure (Text.ofChars (moment.date.plainText ++ ' ' :: moment.timeText ++ [',']) ++ millis)

def endLine (text : Text) : Text :=
  if text.getLast? == some (.char '\n') then text else text ++ "\n"

def textLine (record : LogRecord) : Except Fault Text := do
  let message ← record.fullMessage
  let time ← record.timeText
  let line := time ++ " - " ++ record.logger.text ++ " - " ++
    record.level.text ++ " - " ++ message
  match ← record.trouble.message? with
  | some told => pure (endLine line ++ told)
  | none => pure line

end LogRecord

end HostLifecycle.Logging
