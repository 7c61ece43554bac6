import HostLifecycle.Logging.Journal
import HostLifecycle.Number.Shortest
import HostLifecycle.Settings.Environment
import HostLifecycle.Text.Blank

/-!
A file of variables, whose lines end in line feeds. It is a row of statements, each
with a name, an equals sign and a value. A value may stand between quotes, where it
may go over several lines; without quotes it ends before a comment. Where a statement
is not understood, the rest of the line is passed over from the place where the reading
came to a halt, and the line of the statement is told in the journal.

Every reader gives what it has read and what is left of the text, or, where it comes to
a halt, what is left from there.
-/

namespace HostLifecycle.Settings.EnvFile

open Logging Text

/-- A result, or the text from the place where the reading came to a halt. -/
abbrev Halting := Except (List Char)

def isSpace (c : Char) : Bool :=
  isBlank c && c != '\n'

def skipSpace (text : List Char) : List Char :=
  text.dropWhile isSpace

def splitLine (text : List Char) : List Char × List Char :=
  (text.takeWhile (· != '\n'), text.dropWhile (· != '\n'))

/-- The text behind the word that may stand in front of a name. -/
def skipExport (text : List Char) : List Char :=
  if "export".toList.isPrefixOf text then
    let rest := text.drop 6
    if rest.head?.any isSpace then skipSpace rest else text
  else text

/-- Reads the name of a variable. A comment stands where there is none. -/
def readName (text : List Char) : Halting (Option String × List Char) :=
  match text with
  | '#' :: _ => .ok (none, text)
  | '\'' :: rest =>
    let name := rest.takeWhile (· != '\'')
    match rest.dropWhile (· != '\'') with
    | _ :: left =>
      if name.isEmpty then .error text else .ok (some (String.ofList name), left)
    | [] => .error text
  | _ =>
    let isName (c : Char) : Bool := c != '=' && c != '#' && !isBlank c
    let name := text.takeWhile isName
    if name.isEmpty then .error text
    else .ok (some (String.ofList name), text.dropWhile isName)

/-- Splits a text at the first quote that is not behind a backslash of its own. Two
backslashes belong to each other. -/
def splitAtQuote (quote : Char) : List Char → Option (List Char × List Char)
  | [] => none
  | '\\' :: c :: rest =>
    if c == quote || c == '\\' then
      (splitAtQuote quote rest).map fun (value, left) => ('\\' :: c :: value, left)
    else (splitAtQuote quote (c :: rest)).map fun (value, left) => ('\\' :: value, left)
  | c :: rest =>
    if c == quote then some ([], rest)
    else (splitAtQuote quote rest).map fun (value, left) => (c :: value, left)

def escaped? (letters : List (Char × Char)) (c : Char) : Option Char :=
  (letters.find? fun pair => pair.1 == c).map (·.2)

def singleEscapes : List (Char × Char) := [('\\', '\\'), ('\'', '\'')]

def doubleEscapes : List (Char × Char) :=
  [('\\', '\\'), ('\'', '\''), ('"', '"'), ('a', '\x07'), ('b', '\x08'),
   ('f', '\x0c'), ('n', '\n'), ('r', '\r'), ('t', '\t'), ('v', '\x0b')]

def unescape (letters : List (Char × Char)) : List Char → List Char
  | [] => []
  | '\\' :: c :: rest =>
    match escaped? letters c with
    | some d => d :: unescape letters rest
    | none => '\\' :: unescape letters (c :: rest)
  | c :: rest => c :: unescape letters rest

/-- The text before a comment, which starts with white space and a hash. -/
def beforeComment : List Char → List Char
  | [] => []
  | c :: rest =>
    if isBlank c && (rest.dropWhile isBlank).head? == some '#' then []
    else c :: beforeComment rest

/-- Reads the value of a variable behind its equals sign. White space with a hash
behind it starts a comment, so there the value is empty. -/
def readValue (text : List Char) : Halting (List Char × List Char) :=
  let start := skipSpace text
  match start with
  | '\'' :: rest =>
    match splitAtQuote '\'' rest with
    | some (value, left) => .ok (unescape singleEscapes value, left)
    | none => .error start
  | '"' :: rest =>
    match splitAtQuote '"' rest with
    | some (value, left) => .ok (unescape doubleEscapes value, left)
    | none => .error start
  | _ =>
    let (line, left) := splitLine text
    .ok (dropEndWhile isBlank ((beforeComment line).dropWhile isBlank), left)

def skipComment (text : List Char) : List Char :=
  match skipSpace text with
  | '#' :: rest => (splitLine rest).2
  | _ => text

def readEnd (text : List Char) : Halting (Unit × List Char) :=
  match skipSpace text with
  | [] => .ok ((), [])
  | '\n' :: rest => .ok ((), rest)
  | _ => .error text

/-- What a statement says: nothing, or the value that a variable has, if it has one. -/
inductive Statement where
  | comment
  | binding (name : String) (value : Option String)
  | unreadable

def readBinding (text : List Char) : Halting (Option String × List Char) :=
  match skipSpace text with
  | '=' :: rest => do
    let (value, left) ← readValue rest
    pure (some (String.ofList value), left)
  | left => .ok (none, left)

def readStatement (text : List Char) : Halting (Statement × List Char) := do
  let (name, left) ← readName (skipExport text)
  let (value, left) ← readBinding left
  let (_, left) ← readEnd (skipComment left)
  match name with
  | some name => pure (.binding name value, left)
  | none => pure (.comment, left)

def nextStatement (text : List Char) : Statement × List Char :=
  match text.dropWhile isBlank with
  | [] => (.comment, [])
  | start =>
    match readStatement start with
    | .ok (statement, left) => (statement, left)
    | .error left => (.unreadable, (splitLine left).2.drop 1)

/-- Reads all statements, each with the line from which on it was looked for. A
statement takes at least one character, so the length of the text bounds their
number. -/
def statementsFrom : (fuel line : Nat) → List Char → List (Nat × Statement)
  | 0, _, _ => []
  | _, _, [] => []
  | fuel + 1, line, text =>
    let (statement, left) := nextStatement text
    (line, statement) ::
      statementsFrom fuel (line + (text.count '\n' - left.count '\n')) left

/-- The statements of a text. A mark of the byte order is no part of it. -/
def statements (text : String) : List (Nat × Statement) :=
  let chars := match text.toList with
    | '\ufeff' :: rest => rest
    | chars => chars
  statementsFrom chars.length 1 chars

/-- What a reference to a variable, behind its dollar sign and brace, stands for:
the variable, its default if it has one, and the text behind it. -/
def readReference (text : List Char) : Option (String × String × List Char) :=
  let isName (c : Char) : Bool := c != '\x7d' && c != ':'
  let name := String.ofList (text.takeWhile isName)
  match text.dropWhile isName with
  | '\x7d' :: left => some (name, "", left)
  | ':' :: '-' :: rest =>
    match rest.dropWhile (· != '\x7d') with
    | _ :: left => some (name, String.ofList (rest.takeWhile (· != '\x7d')), left)
    | [] => none
  | _ => none

def resolve (known : Fields (Option Text)) : (fuel : Nat) → List Char → Text
  | 0, text => ofChars text
  | _ + 1, [] => []
  | fuel + 1, c :: rest =>
    match c, rest with
    | '$', '\x7b' :: inside =>
      match readReference inside with
      | some (name, default, left) =>
        let value := match known.get? name with
          | some value => value.getD ""
          | none => ofString default
        value ++ resolve known fuel left
      | none => c :: resolve known fuel rest
    | _, _ => c :: resolve known fuel rest

/-- The variables with one more statement, whose references are replaced by the
variables of the process and of the statements before. -/
def extended (process known : Fields (Option Text)) :
    Statement → Fields (Option Text)
  | .binding name value =>
    known.put name <| value.map fun v =>
      resolve (process.merge known) (v.length + 1) v.toList
  | _ => known

def bindings (environment : Environment) (text : String) : Fields (Option Text) :=
  let process : Fields (Option Text) := environment.map fun (k, v) => (k, some v)
  (statements text).foldl (fun known entry => extended process known entry.2) []

/-- What is told of a statement: that it was not understood. -/
def warningOf : Nat × Statement → Option LogEntry
  | (line, .unreadable) =>
    some ⟨"dotenv.main", .warning,
      "python-dotenv could not parse statement starting at line " ++
        Number.integerText line, []⟩
  | _ => none

/-- What is told of a file: the lines that were not understood. -/
def warnings (text : String) : List LogEntry :=
  (statements text).filterMap warningOf

end HostLifecycle.Settings.EnvFile
