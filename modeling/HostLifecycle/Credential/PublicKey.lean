import HostLifecycle.Text.Blank

/-!
The written form of a public key: the name of an algorithm, blanks, the key itself
in base 64 with up to three signs of padding, and then either nothing or blanks and
a comment. The three parts use characters that do not start the part behind them,
so a text is read from the left without ever going back.
-/

namespace HostLifecycle.PublicKey

def isNameChar (c : Char) : Bool :=
  'a'.toNat ≤ c.toNat && c.toNat ≤ 'z'.toNat || c.isDigit || c == '-'

/-- A character of a text in base 64, without the padding. -/
def isKeyChar (c : Char) : Bool :=
  c.isAlphanum || c == '+' || c == '/'

/-- What is left behind the characters of a class, of which there has to be at
least one. -/
def afterSome? (inClass : Char → Bool) : Text → Option Text
  | [] => none
  | c :: rest =>
    if c.isIn inClass then some (rest.dropWhile (CodePoint.isIn inClass)) else none

/-- The beginnings of the names of algorithms. -/
def families : List Text :=
  ["ssh-", "ecdsa-sha2-"]

def afterAlgorithm? (text : Text) : Option Text :=
  families.findSome? fun family =>
    (family.isPrefixOf? text).bind (afterSome? isNameChar)

/-- What is left behind signs of padding, no more of them than a bound. -/
def afterPadding : Nat → Text → Text
  | bound + 1, .char '=' :: rest => afterPadding bound rest
  | _, text => text

/-- Whether a text is nothing, or blanks and a comment of one line. -/
def isTail (text : Text) : Bool :=
  match text with
  | [] => true
  | c :: rest =>
    c.isIn Text.isBlank &&
      !(rest.dropWhile (CodePoint.isIn Text.isBlank)).contains '\n'

def afterKey? (text : Text) : Option Text := do
  let text ← afterAlgorithm? text
  let text ← afterSome? Text.isBlank text
  let text ← afterSome? isKeyChar text
  pure (afterPadding 3 text)

/-- Whether a text that neither starts nor ends with a blank is a public key. -/
def isKey (text : Text) : Bool :=
  (afterKey? text).any isTail

/-- Whether a text is a public key, apart from blanks around it. -/
def accepts (text : Text) : Bool :=
  isKey text.strip

end HostLifecycle.PublicKey
