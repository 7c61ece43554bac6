import HostLifecycle.Json.Reader
import HostLifecycle.State
import HostLifecycle.ErrorType
import HostLifecycle.Value.Text
import HostLifecycle.Storage.FileError
import HostLifecycle.Settings.CommandLine
import HostLifecycle.Settings.Issue
import HostLifecycle.Vault.RemoteError

/-!
What ends an operation without a result. A fault is its cause; the wording of all
causes stands in the functions `message`. The errors of the lifecycle itself are
a class of their own: they travel inside an outcome, and each tells whether a
later try may help.
-/

namespace HostLifecycle

inductive OutcomeKind where
  | complete
  | retry
  | failed
deriving DecidableEq, Repr

def OutcomeKind.text : OutcomeKind → Text
  | complete => "complete"
  | retry => "continue"
  | failed => "failed"

def OutcomeKind.ofText? (text : Text) : Option OutcomeKind :=
  [complete, retry, failed].find? fun kind => kind.text == text

/-- Why the credentials of a host could not be fetched. -/
inductive FetchCause where
  | reported (message : Text)
  | authentication (error : Vault.RemoteError)
  | unauthenticated
  | reading (path : Value) (error : Vault.RemoteError)

/-- Why the status of a credential could not be updated. -/
inductive StatusCause where
  | reported (message : Text)
  | noData (name : Value)

inductive LifecycleError where
  | general (message : Text)
  | credentialFetch (cause : FetchCause)
  | credentialStatus (cause : StatusCause)
  | unknownState (state : Value)
  | terminal (errorType : ErrorType) (message : Value)

def FetchCause.message : FetchCause → Text
  | reported message => message
  | authentication e => "failed to authenticate to Vault: " ++ e.message
  | unauthenticated => "Vault authentication failed"
  | reading path e =>
    "failed to read secret at " ++ path.text ++ ": " ++ e.message

def StatusCause.message : StatusCause → Text
  | reported message => message
  | noData name => "credential " ++ name.quoted ++ " has no data to fingerprint"

namespace LifecycleError

def message : LifecycleError → Text
  | general message => message
  | credentialFetch cause => cause.message
  | credentialStatus cause => cause.message
  | unknownState state => "no handler found for state \"" ++ state.text ++ "\""
  | terminal _ message => message.text

/-- Whether a later try may help. A state without a handler and a recorded
terminal failure stay as they are. -/
def isRetryable : LifecycleError → Bool
  | unknownState _ => false
  | terminal _ _ => false
  | _ => true

end LifecycleError

inductive Choice where
  | state
  | outcomeKind
  | errorType
  | credentialKind
deriving DecidableEq, Repr

def Choice.name : Choice → Text
  | state => "ProvisioningState"
  | outcomeKind => "OutcomeKind"
  | errorType => "ErrorType"
  | credentialKind => "CredentialKind"

inductive InvalidValue where
  | stated (message : Text)
  | unlisted (choice : Choice) (given : Value)
  | failedWithoutError
  | errorNotAllowed (kind : OutcomeKind)
  | delayNotAllowed
  | deletionAlreadyRequested (host : Value)
  | negativeCapacity
  | emptyFileName (path : Text)
  | embeddedNull
  | tooManyDigits (count : Nat)
  | unwrittenDigits
  | wrongPairLength (index length : Nat)
  | incompleteFormat
  | incompleteKey
  | excessiveWidth
  | excessivePrecision
  | unsupportedFormat (letter : CodePoint) (index : Nat)
  | yearOutOfRange (year : Int)
  | unknownLevel (given : Text)
  | notANumberToInteger
  | notANumberTime
  | unreadableInteger (text : Text)

namespace InvalidValue

def message : InvalidValue → Text
  | stated message => message
  | unlisted choice given => given.quoted ++ " is not a valid " ++ choice.name
  | failedWithoutError => "failed outcome requires an error"
  | errorNotAllowed kind => kind.text ++ " outcome cannot carry an error"
  | delayNotAllowed => "only a continue outcome can carry a delay"
  | deletionAlreadyRequested host =>
    "deletion of host " ++ host.text ++ " was already requested"
  | negativeCapacity => "maxlen must be non-negative"
  | emptyFileName path => "PosixPath(" ++ Text.quoted path ++ ") has an empty name"
  | embeddedNull => "embedded null byte"
  | tooManyDigits count => Json.digitsMessage count
  | unwrittenDigits =>
    "Exceeds the limit (4300 digits) for integer string conversion; " ++
      "use sys.set_int_max_str_digits() to increase the limit"
  | wrongPairLength index length =>
    "dictionary update sequence element #" ++ Number.integerText index ++
      " has length " ++ Number.integerText length ++ "; 2 is required"
  | incompleteFormat => "incomplete format"
  | incompleteKey => "incomplete format key"
  | excessiveWidth => "width too big"
  | excessivePrecision => "precision too big"
  | unsupportedFormat letter index =>
    "unsupported format character '" ++
      (if 31 ≤ letter.toNat ∧ letter.toNat ≤ 126 then [letter] else "?") ++
      "' (0x" ++ Text.ofChars (Nat.toDigits 16 letter.toNat) ++ ") at index " ++
      Number.integerText index
  | yearOutOfRange year => "year " ++ Number.integerText year ++ " is out of range"
  | unknownLevel given => "Unknown level: " ++ Text.quoted given
  | notANumberToInteger => "cannot convert float NaN to integer"
  | notANumberTime => "Invalid value NaN (not a number)"
  | unreadableInteger text =>
    "invalid literal for int() with base 10: " ++
      text.quoted.take 200

end InvalidValue

/-- What ends an operation without a result. -/
inductive Fault where
  | lifecycle (error : LifecycleError)
  | runtime (message : Text)
  | invalid (cause : InvalidValue)
  | wrongType
  | noMember
  | noKey
  | noIndex
  | overflow
  | outOfMemory
  | undecodable
  | unmarked
  | unknownEncoding (name : Text)
  | unencodable
  | tooDeep (container : Json.Container)
  | frozen (field : Text)
  | file (error : Storage.FileError)
  | remote (error : Vault.RemoteError)
  | settings (issues : List Settings.Issue)
  | settingsSource (problem : Settings.SourceProblem) (field : Text)
      (source : Settings.Source)
  | secretsNoFolder
  | commandLine (problem : Settings.CommandLine.Problem)
  | exit (status : Nat)

namespace Fault

/-- The message of a fault. Faults of types and look-ups carry none. -/
def message : Fault → Text
  | lifecycle e => e.message
  | runtime message => message
  | invalid cause => cause.message
  | tooDeep container => Json.depthMessage container
  | frozen field => "cannot assign to field " ++ field.quoted
  | file e => e.message
  | remote e => e.message
  | settingsSource problem field source =>
    problem.wording ++ " \"" ++ field ++ "\" from source \"" ++
      source.name ++ "\""
  | unmarked => "UTF-16 stream does not start with BOM"
  | unknownEncoding name => "unknown encoding: " ++ name
  | secretsNoFolder => "secrets_dir must reference a directory, not a file"
  | commandLine problem => problem.message
  | exit status => Number.integerText status
  | _ => ""

/-- Whether a caller must not try again: the fault is an error of the lifecycle
that stays as it is. -/
def isFatal : Fault → Bool
  | lifecycle e => !e.isRetryable
  | _ => false

end Fault

end HostLifecycle
