import HostLifecycle.Text.Quoted

/-!
What may be wrong with a setting, and where. A group of settings is read as a
whole, so several issues may be reported together.
-/

namespace HostLifecycle.Settings

inductive IssueCause where
  | unreadableBool
  | notBool
  | unreadableInt
  | fractionalInt
  | infiniteInt
  | oversizedInt
  | notInt
  | notString
  | notUnicode
  | notGroup (group : Text)
  | unknownFormat (given : Text)
  | missingVaultAuthentication
  | raised (message : Text)
deriving DecidableEq, Repr

namespace IssueCause

def kind : IssueCause → Text
  | unreadableBool => "bool_parsing"
  | notBool => "bool_type"
  | unreadableInt => "int_parsing"
  | fractionalInt => "int_from_float"
  | infiniteInt => "finite_number"
  | oversizedInt => "int_parsing_size"
  | notInt => "int_type"
  | notString => "string_type"
  | notUnicode => "string_unicode"
  | notGroup _ => "model_type"
  | unknownFormat _ => "value_error"
  | missingVaultAuthentication => "value_error"
  | raised _ => "value_error"

def message : IssueCause → Text
  | unreadableBool =>
    "Input should be a valid boolean, unable to interpret input"
  | notBool => "Input should be a valid boolean"
  | unreadableInt =>
    "Input should be a valid integer, unable to parse string as an integer"
  | fractionalInt =>
    "Input should be a valid integer, got a number with a fractional part"
  | infiniteInt => "Input should be a finite number"
  | oversizedInt =>
    "Unable to parse input string as an integer, exceeded maximum size"
  | notInt => "Input should be a valid integer"
  | notString => "Input should be a valid string"
  | notUnicode =>
    "Input should be a valid string, unable to parse raw data as a unicode string"
  | notGroup group => "Input should be a valid dictionary or instance of " ++ group
  | unknownFormat given =>
    "Value error, LOG_FORMAT must be 'json' or 'text', got " ++ Text.quoted given
  | missingVaultAuthentication =>
    "Value error, VAULT_ENABLED requires VAULT_TOKEN or VAULT_ROLE_ID and " ++
      "VAULT_SECRET_ID"
  | raised message => "Value error, " ++ message

end IssueCause

structure Issue where
  location : List Text
  cause : IssueCause
deriving DecidableEq, Repr

/-- An issue as it is seen from the group that holds the setting. -/
def Issue.under (name : Text) (issue : Issue) : Issue :=
  ⟨name :: issue.location, issue.cause⟩

inductive SourceProblem where
  | parsingValue
  | gettingValue
deriving DecidableEq, Repr

def SourceProblem.wording : SourceProblem → Text
  | parsingValue => "error parsing value for field"
  | gettingValue => "error getting value for field"

/-- A source that settings are read from, besides arguments. -/
inductive Source where
  | environment
  | file
  | secrets
deriving DecidableEq, Repr

def Source.name : Source → Text
  | environment => "EnvSettingsSource"
  | file => "DotEnvSettingsSource"
  | secrets => "SecretsSettingsSource"

end HostLifecycle.Settings
