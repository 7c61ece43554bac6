import HostLifecycle.Fault
import HostLifecycle.Text.Blank
import HostLifecycle.Text.Substitution
import HostLifecycle.Text.Word

/-!
Removing secret material from the messages of events. Five rules are applied one
after the other: three for values that are assigned to a telling keyword, one for
private keys between their markers, and one for access tokens.
-/

namespace HostLifecycle.Audit

open Text

/-- Texts longer than this are left as they are. -/
def maximalLength : Nat := 10240

/-- Whether a character is read as a given small letter, whatever its case. Four
letters beyond ASCII are read as one of the alphabet. -/
def spells (letter : Char) (c : CodePoint) : Bool :=
  c.isIn (·.toLower == letter) ||
    letter == 's' && c == 'ſ' ||
    letter == 'k' && c == '\u212a' ||
    letter == 'i' && (c == 'ı' || c == 'İ')

/-- A part of a keyword: a letter in either case, or a joint that may be left out,
a low line or a hyphen. -/
inductive Part where
  | letter (c : Char)
  | joint
deriving DecidableEq, Repr

/-- A keyword, where a hyphen stands for a joint. -/
def keyword (spelling : String) : List Part :=
  spelling.toList.map fun c => if c == '-' then .joint else .letter c

/-- The number of characters that a keyword takes at the start of a text. -/
def keywordWidth? : List Part → Text → Option Nat
  | [], _ => some 0
  | .letter letter :: parts, c :: rest =>
    if spells letter c then (keywordWidth? parts rest).map (· + 1) else none
  | .letter _ :: _, [] => none
  | .joint :: parts, c :: rest =>
    if c == '_' || c == '-' then (keywordWidth? parts rest).map (· + 1)
    else keywordWidth? parts (c :: rest)
  | .joint :: parts, [] => keywordWidth? parts []

def isGap : CodePoint → Bool := CodePoint.isIn isBlank

/-- The number of characters of a sign of assignment and the value behind it, with
the blanks around the sign. -/
def assignmentWidth? (text : Text) : Option Nat :=
  let gap := text.takeWhile isGap
  match text.dropWhile isGap with
  | sign :: rest =>
    if sign == '=' || sign == ':' then
      let space := rest.takeWhile isGap
      let value := (rest.dropWhile isGap).takeWhile fun c => !isGap c
      if value.isEmpty then none
      else some (gap.length + 1 + space.length + value.length)
    else none
  | [] => none

def mask : Text := "***REDACTED***"

def assignmentRule (keywords : List (List Part)) : Rule := fun before text =>
  if boundary before text.head? then
    keywords.findSome? fun parts => do
      let width ← keywordWidth? parts text
      let rest ← assignmentWidth? (text.drop width)
      pure ⟨width + rest, text.take width ++ .char '=' :: mask⟩
  else none

def isLabel : CodePoint → Bool :=
  CodePoint.isIn fun c => c == ' ' || 'A' ≤ c && c ≤ 'Z'

def keyLabel : Text := "PRIVATE KEY"

/-- What stands behind a marker of a private key at the start of a text. The label
ends in the words that name a private key. -/
def behindMarker? (opening text : Text) : Option Text := do
  let text ← behind? opening text
  let label := text.takeWhile isLabel
  if keyLabel.isSuffixOf label then
    behind? "-----" (text.dropWhile isLabel)
  else none

def behindClosing? : Text → Option Text
  | [] => none
  | c :: rest =>
    match behindMarker? "-----END " (c :: rest) with
    | some left => some left
    | none => behindClosing? rest

def keyMask : Text := "***REDACTED PRIVATE KEY***"

def keyBlockRule : Rule := fun _ text => do
  let body ← behindMarker? "-----BEGIN " text
  let left ← behindClosing? body
  pure ⟨text.length - left.length, keyMask⟩

def isTokenChar : CodePoint → Bool :=
  CodePoint.isIn Char.isAlphanum

def tokenStarts : List Text := ["hvs.", "s."]

/-- The rule for access tokens: a known beginning, a dot, and at least twenty
letters or digits. -/
def tokenRule : Rule := fun before text =>
  if boundary before text.head? then
    tokenStarts.findSome? fun start => do
      let rest ← behind? start text
      let body := rest.takeWhile isTokenChar
      if body.length ≥ 20 then pure ⟨start.length + body.length, mask⟩ else none
  else none

def rules : List Rule :=
  [assignmentRule (["password", "passwd", "pwd"].map keyword),
   assignmentRule (["secret-id", "token", "api-key"].map keyword),
   assignmentRule (["private-key"].map keyword),
   keyBlockRule,
   tokenRule]

/-- The text without its secret material, if it is not too long. -/
def redact (text : Text) : Text :=
  if text.length > maximalLength then text
  else rules.foldl (fun text rule => substitute rule text) text

def sizeOf? : Value → Option Nat
  | .str s => some s.length
  | .list items => some items.length
  | .object fields => some fields.length
  | .mapping entries => some entries.length
  | _ => none

/-- The message of an event without its secret material. An empty message stays as
it is; one that is no text is refused, unless it is too long to be looked at. -/
def redactMessage (enabled : Bool) (message : Value) : Except Fault Value :=
  if !enabled || !message.isTruthy then .ok message
  else
    match message with
    | .str s => .ok (.str (redact s))
    | message =>
      match sizeOf? message with
      | some size => if size > maximalLength then .ok message else .error .wrongType
      | none => .error .wrongType

end HostLifecycle.Audit
