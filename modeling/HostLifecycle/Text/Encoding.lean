import HostLifecycle.Text.CodePoint
import HostLifecycle.Text.Lines
import HostLifecycle.Text.Pieces

/-!
Encodings of stored texts. An encoding has several names, which are told apart by their
letters and digits in any case; whatever stands between those only parts them. Bytes
that are no text in an encoding are refused.
-/

namespace HostLifecycle.Text

/-- How the characters of a text are stored as bytes. A marked encoding has a mark of
the byte order at the start, which is no part of the text. -/
inductive Encoding where
  | utf8
  | markedUtf8
  | ascii
  | latin
  | littleUtf16
  | bigUtf16
  | markedUtf16
deriving DecidableEq, Repr

/-- Why bytes are refused: they stand for no characters, or the mark is missing that has
to be there. -/
inductive DecodingFailure where
  | undecodable
  | unmarked
deriving DecidableEq, Repr

/-- The code units of bytes, two bytes each. -/
def unitsOf (isBig : Bool) : List UInt8 → Option (List Nat)
  | [] => some []
  | [_] => none
  | a :: b :: rest =>
    let unit := if isBig then 256 * a.toNat + b.toNat else 256 * b.toNat + a.toNat
    (unitsOf isBig rest).map fun units => unit :: units

/-- The characters of code units, unless half of a pair stands alone among them. -/
def charsOfUnits : List Nat → Option (List Char)
  | [] => some []
  | [unit] => if isHighHalf unit || isLowHalf unit then none else some [Char.ofNat unit]
  | first :: second :: rest =>
    if isHighHalf first && isLowHalf second then
      (charsOfUnits rest).map fun chars => Char.ofNat (ofHalves first second) :: chars
    else if isHighHalf first || isLowHalf first then none
    else (charsOfUnits (second :: rest)).map fun chars => Char.ofNat first :: chars

namespace Encoding

/-- The names of an encoding, all in lower case and parted by low lines. -/
def names : Encoding → List String
  | utf8 => ["utf_8", "utf8", "u8", "utf", "utf8_ucs2", "utf8_ucs4", "cp65001"]
  | markedUtf8 => ["utf_8_sig"]
  | ascii =>
    ["ascii", "us_ascii", "us", "646", "ansi_x3_4_1968", "cp367", "csascii", "ibm367",
     "iso646_us", "iso_ir_6"]
  | latin =>
    ["latin_1", "latin1", "latin", "l1", "iso8859_1", "iso_8859_1", "iso8859", "8859",
     "iso_8859_1_1987", "iso_ir_100", "cp819", "ibm819", "csisolatin1"]
  | littleUtf16 => ["utf_16_le", "utf_16le", "unicodelittleunmarked"]
  | bigUtf16 => ["utf_16_be", "utf_16be", "unicodebigunmarked"]
  | markedUtf16 => ["utf_16", "utf16", "u16"]

def all : List Encoding :=
  [utf8, markedUtf8, ascii, latin, littleUtf16, bigUtf16, markedUtf16]

/-- A letter or digit of a name in lower case, and a low line in place of anything
else. -/
def plainChar : CodePoint → Char
  | .char c => if c.isAlphanum then c.toLower else '_'
  | .half _ => '_'

def plainName (name : Text) : String :=
  let parts := (pieces '_' (name.map plainChar)).filter fun part => !part.isEmpty
  String.ofList (['_'].intercalate parts)

def named? (name : Text) : Option Encoding :=
  all.find? fun encoding => encoding.names.contains (plainName name)

def utf16? (isBig : Bool) (bytes : List UInt8) : Option String :=
  ((unitsOf isBig bytes).bind charsOfUnits).map String.ofList

/-- The characters of bytes in UTF-16, whose byte order is told by a mark. Bytes without
a mark are looked at as if the lower byte came first. -/
def readMarkedUtf16 : List UInt8 → Except DecodingFailure String
  | 0xff :: 0xfe :: rest => (utf16? false rest).elim (.error .undecodable) .ok
  | 0xfe :: 0xff :: rest => (utf16? true rest).elim (.error .undecodable) .ok
  | [] => .ok ""
  | bytes => .error (if (utf16? false bytes).isSome then .unmarked else .undecodable)

def bytewise? (limit : Nat) (bytes : List UInt8) : Option String :=
  if bytes.all fun b => b.toNat < limit then
    some (String.ofList (bytes.map fun b => Char.ofNat b.toNat))
  else none

def withoutMark (s : String) : String :=
  match s.toList with
  | '\ufeff' :: rest => String.ofList rest
  | _ => s

def decode (encoding : Encoding) (bytes : ByteArray) : Except DecodingFailure String :=
  let settled (s : Option String) : Except DecodingFailure String :=
    s.elim (.error .undecodable) .ok
  match encoding with
  | utf8 => settled (String.fromUTF8? bytes)
  | markedUtf8 => settled ((String.fromUTF8? bytes).map withoutMark)
  | ascii => settled (bytewise? 128 bytes.toList)
  | latin => settled (bytewise? 256 bytes.toList)
  | littleUtf16 => settled (utf16? false bytes.toList)
  | bigUtf16 => settled (utf16? true bytes.toList)
  | markedUtf16 => readMarkedUtf16 bytes.toList

/-- The text that stored bytes hold, with every line ended by a line feed. -/
def read (encoding : Encoding) (bytes : ByteArray) : Except DecodingFailure String :=
  (encoding.decode bytes).map fun s => String.ofList (unifyLines s.toList)

end Encoding

end HostLifecycle.Text
