import HostLifecycle.Digest
import HostLifecycle.Value.Mapping
import HostLifecycle.Value.Telling

/-!
Credentials and what is remembered of them. A credential is a secret under a
name. Of its data only the fingerprint is kept, the digest of every value under
its key, so a later credential can be told from the one that was seen before.
-/

namespace HostLifecycle

/-- A secret and its name. The data is a mapping from keys to texts, unless the
store answered something else. -/
structure Credential where
  name : Value
  data : Value
deriving Inhabited

namespace Fields

variable {α : Type}

/-- Puts an entry in front of the first one with a later name. -/
def insertSorted (entry : Text × α) : Fields α → Fields α
  | [] => [entry]
  | first :: rest =>
    if entry.1 < first.1 then entry :: first :: rest
    else first :: insertSorted entry rest

def sorted : Fields α → Fields α
  | [] => []
  | entry :: rest => insertSorted entry (sorted rest)

end Fields

/-- The digests of values, each under its key. Only texts have a digest. -/
def digests {Key : Type} : List (Key × Value) → Except Fault (List (Key × Text))
  | [] => .ok []
  | (key, .str text) :: rest =>
    match Digest.ofText? text with
    | none => .error .unencodable
    | some digest => (digests rest).map fun entries => (key, digest) :: entries
  | _ :: _ => .error .noMember

def fingerprintValue (fingerprint : Fields Text) : Value :=
  .object (fingerprint.map fun entry => (entry.1, .str entry.2))

namespace Credential

/-- The digest of every value of a mapping under its key. The keys have to have an order. -/
def keyedFingerprint (entries : Entries Value) : Except Fault (Entries Text) :=
  match entries.sorted? with
  | some sorted => digests sorted
  | none => .error .wrongType

/-- The digest of every data value under the name of its key, in the order of the keys. -/
def fingerprint (credential : Credential) : Except Fault (Fields Text) :=
  match credential.data with
  | .object fields => digests (Fields.sorted fields)
  | .mapping entries => (keyedFingerprint entries).map fun prints =>
    prints.map fun entry => (Json.nameOf entry.1, entry.2)
  | _ => .error .noMember

/-- The fingerprint as it is remembered, where every key is kept as it is. -/
def mark (credential : Credential) : Except Fault Value :=
  match credential.data with
  | .mapping entries => (keyedFingerprint entries).map fun prints =>
    .mapping (prints.map fun entry => (entry.1, .str entry.2))
  | _ => credential.fingerprint.map fingerprintValue

/-- The text of a credential, which shows nothing of its data. -/
def text (credential : Credential) : Text :=
  "Credential(name=" ++ credential.name.quoted ++ ")"

end Credential

structure SecretStatus where
  reference : Value
  dataHash : Value
deriving Inhabited

namespace SecretStatus

/-- The status of a credential. A credential without data has none. -/
def ofCredential (credential : Credential) : Except Fault SecretStatus :=
  if credential.data.isTruthy then do
    let mark ← credential.mark
    pure ⟨credential.name, mark⟩
  else .error (.telling credential.name (.lifecycle (.credentialStatus (.noData credential.name))))

/-- Whether a credential is the one that the status was taken from: it has the
same name and the same fingerprint. -/
def agrees (status : SecretStatus) (credential : Credential) :
    Except Fault Bool :=
  if status.reference == credential.name then do
    let mark ← credential.mark
    pure (status.dataHash == mark)
  else .ok false

def toValue (status : SecretStatus) : Value :=
  .object [("reference", status.reference), ("data_hash", status.dataHash)]

/-- The status that a value describes. The hashes may be left out. -/
def ofValue (value : Value) : Except Fault SecretStatus := do
  let fields ← value.arguments ["reference", "data_hash"]
  let reference ← Value.required fields "reference"
  pure ⟨reference, (fields.get? "data_hash").getD (.object [])⟩

def text (status : SecretStatus) : Text :=
  "SecretStatus(reference=" ++ status.reference.quoted ++ ", data_hash=" ++
    status.dataHash.quoted ++ ")"

end SecretStatus

end HostLifecycle
