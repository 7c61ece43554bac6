import HostLifecycle.Text.CodePoint
import HostLifecycle.Text.HiddenTable
import HostLifecycle.Text.Ranges

/-!
A text between quotes, as it is shown inside messages. The quote is `'` unless
the text holds that one and not the other. The quote in use and the backslash
stand behind a backslash, and so do characters without a printed form, by name
or by their code point.
-/

namespace HostLifecycle.Text

/-- Whether a code point has no printed form: half of a pair, a control of ASCII, or
one of some characters beyond ASCII. -/
def isHidden : CodePoint → Bool
  | .half _ => true
  | .char c =>
    if c.toNat < 128 then c.toNat < 32 || c.toNat == 127
    else inRanges hiddenTable c.toNat

/-- The digit of base sixteen, in lower case. -/
def hexDigit (n : Nat) : Char :=
  if n < 10 then Char.ofNat (48 + n) else Char.ofNat (87 + n)

def hexText : (width : Nat) → Nat → List Char
  | 0, _ => []
  | width + 1, n => hexText width (n / 16) ++ [hexDigit (n % 16)]

def quoteOf (text : Text) : Char :=
  if text.contains '\'' && !text.contains '"' then '"' else '\''

def numberEscape (n : Nat) : Text :=
  ofChars <|
    if n < 256 then '\\' :: 'x' :: hexText 2 n
    else if n < 65536 then '\\' :: 'u' :: hexText 4 n
    else '\\' :: 'U' :: hexText 8 n

def quotedChar (quote : Char) (c : CodePoint) : Text :=
  if c == quote || c == '\\' then ['\\', c]
  else if c == '\n' then ['\\', 'n']
  else if c == '\r' then ['\\', 'r']
  else if c == '\t' then ['\\', 't']
  else if !isHidden c then [c]
  else numberEscape c.toNat

def quoted (text : Text) : Text :=
  let quote := quoteOf text
  let mark : Text := [quote]
  mark ++ text.flatMap (quotedChar quote) ++ mark

end HostLifecycle.Text
