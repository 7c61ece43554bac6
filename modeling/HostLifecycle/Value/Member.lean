import HostLifecycle.Fault

/-!
Looking for a name inside a value of any shape. An object has its names, a list its
items, and a text whatever stands in it; only an object or a mapping has anything under a
name.
-/

namespace HostLifecycle.Value

def contains (part : Text) : Text → Bool
  | [] => part.isEmpty
  | c :: rest => part.isPrefixOf (c :: rest) || contains part rest

/-- Whether a name is found inside a value. Null, truth values and numbers have no
inside. -/
def mentions (name : Text) (value : Value) : Except Fault Bool :=
  match value with
  | object fields => .ok (Fields.has fields name)
  | mapping entries => .ok (Entries.get? entries (.str name)).isSome
  | list items => .ok (items.any fun item => item == str name)
  | str text => .ok (contains name text)
  | _ => .error .wrongType

def member (name : Text) (value : Value) : Except Fault Value :=
  match value with
  | object fields =>
    match Fields.get? fields name with
    | some entry => .ok entry
    | none => .error .noKey
  | mapping entries =>
    match Entries.get? entries (.str name) with
    | some entry => .ok entry
    | none => .error .noKey
  | _ => .error .wrongType

end HostLifecycle.Value
