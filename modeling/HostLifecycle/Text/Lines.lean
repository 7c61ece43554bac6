/-!
Lines of a stored text. A carriage return, alone or before a line feed, ends a
line just as a line feed does.
-/

namespace HostLifecycle.Text

/-- The text with every line ended by a line feed. -/
def unifyLines : List Char → List Char
  | [] => []
  | '\r' :: '\n' :: rest => '\n' :: unifyLines rest
  | '\r' :: rest => '\n' :: unifyLines rest
  | c :: rest => c :: unifyLines rest

/-- The text that stored bytes hold, if they are UTF-8. -/
def ofBytes? (bytes : ByteArray) : Option String :=
  (String.fromUTF8? bytes).map fun text =>
    String.ofList (unifyLines text.toList)

theorem unifyLines_cons (c : Char) (rest : List Char) (h : c ≠ '\r') :
    unifyLines (c :: rest) = c :: unifyLines rest := by
  simp [unifyLines, h]

theorem unifyLines_eq_self (text : List Char) (h : '\r' ∉ text) :
    unifyLines text = text := by
  induction text with
  | nil => rfl
  | cons c rest ih =>
    have hc : c ≠ '\r' := fun e => h (e ▸ List.mem_cons_self)
    have hrest : '\r' ∉ rest := fun m => h (List.mem_cons_of_mem c m)
    rw [unifyLines_cons c rest hc, ih hrest]

end HostLifecycle.Text
