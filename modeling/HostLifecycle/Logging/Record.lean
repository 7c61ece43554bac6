import HostLifecycle.Logging.Level
import HostLifecycle.Storage.Path
import HostLifecycle.Template
import HostLifecycle.Text.Blank

/-!
Log records. A record has a message whose arguments are filled in when it is written,
the place that it comes from, the time of its making, perhaps an error, and values
that were given beside the message. Those may stand in place of what the record has
of its own.
-/

namespace HostLifecycle.Logging

/-- An error that is told with a record: the full name of its class, and its text. -/
structure Raised where
  kind : Text
  text : Text
deriving DecidableEq, Repr

def Raised.message (raised : Raised) : Text :=
  if raised.text == "" then raised.kind else raised.kind ++ ": " ++ raised.text

/-- What a record says of an error: nothing, an error, or a value that is none. -/
inductive Trouble where
  | absent
  | raised (raised : Raised)
  | raw (v : Value)

/-- The line that tells a value that stands in place of an error. Such a value has to
be a row of three, the class of the error, the error and its trace; the only row of
values that can be told is one without an error and without a trace. -/
def rawMessage? : Value → Except Fault (Option Text)
  | .list (_ :: .null :: .null :: _) => .ok (some "NoneType: None")
  | .list (_ :: _ :: _ :: _) => .error .noMember
  | .list _ => .error .noIndex
  | .str text => .error (if text.length < 3 then .noIndex else .noMember)
  | .object _ => .error .noKey
  | .mapping _ => .error .noKey
  | _ => .error .wrongType

/-- The line that tells an error, if there is one. An empty value is none. -/
def Trouble.message? : Trouble → Except Fault (Option Text)
  | absent => .ok none
  | raised told => .ok (some told.message)
  | raw v => if v.isTruthy then rawMessage? v else .ok none

/-- The arguments of a message: a row of them, or a single one. -/
inductive Arguments where
  | row (values : List Value)
  | single (v : Value)

namespace Arguments

/-- The arguments that a value describes. A row of one object that is not empty is
that object. -/
def ofValue (v : Value) : Arguments :=
  match v with
  | .null => row []
  | .object [] => row [.object []]
  | .list [.object (field :: rest)] => single (.object (field :: rest))
  | .list [.mapping (entry :: rest)] => single (.mapping (entry :: rest))
  | .list items => row items
  | v => single v

/-- What is filled into a message; nothing is if there are no arguments. -/
def supply? : Arguments → Option Template.Supply
  | row [] => none
  | row values => some (.row values)
  | single v => if v.isTruthy then some (.single v) else none

end Arguments

structure LogRecord where
  logger : Value
  level : Value
  message : Value
  arguments : Arguments
  source : Value
  line : Value
  created : Value
  trouble : Trouble
  extras : Fields Value

/-- The name of a file without what stands behind its last dot, where dots at its
start do not count. -/
def stemOf (name : Text) : Text :=
  let dots := name.takeWhile (· == .char '.')
  let rest := name.dropWhile (· == .char '.')
  if rest.contains '.' then
    dots ++ ((rest.reverse.dropWhile (· != .char '.')).drop 1).reverse
  else name

def moduleOf (path : Value) : Value :=
  match path with
  | .str text =>
    .str (stemOf ((Text.pieces (CodePoint.char '/') text).getLast?.getD []))
  | _ => .str "Unknown module"

/-- Whether a text is an integer: digits, perhaps with single low lines between them,
behind a sign or none, with white space around them. -/
def isIntegerText (text : List Char) : Bool :=
  let unsigned := match Text.trim text with
    | '-' :: rest => rest
    | '+' :: rest => rest
    | rest => rest
  (Text.pieces '_' unsigned).all fun piece => !piece.isEmpty && piece.all Char.isDigit

/-- The fault of a text in place of a time. Even one that is an integer is no time. -/
def textTimeFault (text : Text) : Fault :=
  let count := (text.filter (CodePoint.isIn Char.isDigit)).length
  if !text.chars?.any isIntegerText then .invalid (.unreadableInteger text)
  else if count > Json.maximalDigits then .invalid (.tooManyDigits count)
  else .wrongType

/-- Looks whether a record can be made at a time: it has to be a number that is not too
large for a floating-point number. -/
def checkTime (created : Value) : Except Fault Unit :=
  match created with
  | .float .nan => .error (.invalid .notANumberToInteger)
  | .float (.infinite _) => .error .overflow
  | .float _ => .ok ()
  | .str text => .error (textTimeFault text)
  | v =>
    match v.asInt? with
    | none => .error .wrongType
    | some n => if (Number.Binary64.ofInt? n).isSome then .ok () else .error .overflow

structure Origin where
  path : Value
  line : Value

namespace LogRecord

def of (logger level message : Value) (arguments : Arguments) (origin : Origin)
    (created : Value) (trouble : Trouble) : Except Fault LogRecord := do
  let level ← levelShown level
  pure ⟨logger, level, message, arguments, moduleOf origin.path, origin.line, created,
    trouble, []⟩

def beside (extras : Fields Value) (record : LogRecord) : LogRecord :=
  let given (name : Text) (own : Value) : Value := (extras.get? name).getD own
  { logger := given "name" record.logger
    level := given "levelname" record.level
    message := given "msg" record.message
    arguments := ((extras.get? "args").map Arguments.single).getD record.arguments
    source := given "module" record.source
    line := given "lineno" record.line
    created := given "created" record.created
    trouble := ((extras.get? "exc_info").map Trouble.raw).getD record.trouble
    extras := record.extras.merge extras }

/-- A value that was given beside the message, null if there is none. -/
def extra (record : LogRecord) (name : Text) : Value :=
  (record.extras.get? name).getD .null

def fullMessage (record : LogRecord) : Except Fault Text :=
  match record.arguments.supply? with
  | some supply => Template.fill record.message.text supply
  | none => .ok record.message.text

end LogRecord

end HostLifecycle.Logging
