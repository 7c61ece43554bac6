import HostLifecycle.Proofs.Audit.Sharing

/-!
What a query finds. Among the events that a recorder holds, those with the host and the reason
that are asked for are found, the newest first, and no more of them than the limit says; a limit
of zero is none at all, and all of them are found. The recorder holds what it held before.
-/

namespace HostLifecycle.Audit

open Attempt

/-- The value that a query is given for a field: a text, or null if any value will do. -/
def asked : Option Text → Value
  | some text => .str text
  | none => .null

/-- Whether the text that is asked for stands in a field of an event, if one is asked for. -/
def Suits (field : Text) (wanted : Option Text) : Value → Bool
  | .object fields =>
    wanted.all fun text => (Fields.get? fields field).bind Value.asStr? == some text
  | _ => false

/-- Only a text is equal to a text. -/
theorem hasField_str (field text : Text) (event : Value) :
    hasField field (.str text) event = Suits field (some text) event := by
  cases event with
  | object fields =>
    change ((Fields.get? fields field).getD .null).equal (.str text) =
      ((Fields.get? fields field).bind Value.asStr? == some text)
    rcases Fields.get? fields field with - | value
    · simp [Value.equal]
    · cases value <;> simp [Value.equal, Value.asStr?]
  | _ => rfl

/-- The last entries of a list, the last one first, are the first ones of the reversed list. -/
theorem reverse_selected (limit : Nat) (events : List Value) :
    (Trail.selected limit events).reverse =
      if limit = 0 then events.reverse else events.reverse.take limit := by
  cases limit with
  | zero => rfl
  | succ limit =>
    have hpositive : ((limit + 1 : Nat) : Int) > 0 := by omega
    rw [Trail.selected, if_pos hpositive, if_neg (Nat.succ_ne_zero limit), Int.toNat_natCast,
      List.take_reverse]

namespace Trail

/-- Events with fields pass the filter for what is asked for. -/
theorem filtered_asked (field : Text) {wanted : Option Text} (hwanted : wanted ≠ some "")
    {events : List Value} (h : ∀ event ∈ events, ∃ fields, event = .object fields) :
    filtered field (asked wanted) events = .ok (events.filter (Suits field wanted)) := by
  cases wanted with
  | none =>
    have hall : events.filter (Suits field none) = events := by
      rw [List.filter_eq_self]
      intro event hevent
      obtain ⟨fields, rfl⟩ := h event hevent
      rfl
    rw [hall]
    rfl
  | some text =>
    have htruthy : (asked (some text)).isTruthy = true := by
      simpa [asked, Value.isTruthy] using hwanted
    have hsuits : hasField field (.str text) = Suits field (some text) :=
      funext (hasField_str field text)
    rw [filtered, if_pos htruthy, ← hsuits]
    exact having_of_objects field (.str text) h

/-- Of the events that a recorder holds once its file was taken in, a query finds those with the
host and the reason that are asked for, from the newest one on, as many as the limit says; a limit
of zero sets none. It leaves everything as it is. -/
theorem query_newest {trail taken : Trail} (hload : load.runOn trail = (.ok (), taken))
    (hobjects : ∀ event ∈ taken.recorder.events, ∃ fields, event = .object fields)
    (host reason : Option Text) (hhost : host ≠ some "") (hreason : reason ≠ some "")
    (limit : Nat) :
    let found := taken.recorder.events.reverse.filter fun event =>
      Suits "host" host event && Suits "reason" reason event
    (query (.int limit) (asked host) (asked reason)).runOn trail =
      (.ok (if limit = 0 then found else found.take limit), taken) := by
  intro found
  have hofHost := filtered_asked "host" hhost hobjects
  have hkept : ∀ event ∈ taken.recorder.events.filter (Suits "host" host),
      ∃ fields, event = .object fields :=
    fun event hevent => hobjects event (List.mem_filter.mp hevent).1
  have hofBoth := filtered_asked "reason" hreason hkept
  have hfound : ((taken.recorder.events.filter (Suits "host" host)).filter
      (Suits "reason" reason)).reverse = found := by
    rw [List.filter_filter, ← List.filter_reverse]
    simp only [found, Bool.and_comm]
  rw [query, runOn_bind_ok hload, runOn_bind, runOn_get]
  simp only
  rw [runOn_bind, runOn_ofExcept, hofHost]
  simp only
  rw [runOn_bind, runOn_ofExcept, hofBoth]
  simp only [Value.asInt?]
  rw [reverse_selected, hfound]
  rfl

/-- Three events are held, and the newest of the two about one host is asked for. -/
theorem query_newest_of_host :
    let event (time host : String) :=
      eventOf time (.str host) (.str "Ready") (.str "") (.str "Normal")
    let recorder := (Recorder.new none (some 3) true).holding
      [event "1" "a", event "2" "a", event "3" "b"]
    let trail : Trail := ⟨recorder, ⟨.empty, .still, []⟩⟩
    (query (.int 1) (.str "a") .null).runOn trail = (.ok [event "2" "a"], trail) := by
  intro event recorder trail
  have hload : load.runOn trail = (.ok (), trail) := runOn_load_of_loaded rfl
  have hobjects : ∀ other ∈ trail.recorder.events, ∃ fields, other = .object fields := by
    simp only [trail, recorder, Recorder.holding, List.forall_mem_cons]
    exact ⟨⟨_, rfl⟩, ⟨_, rfl⟩, ⟨_, rfl⟩, fun _ hnone => absurd hnone List.not_mem_nil⟩
  have hname : some ("a" : Text) ≠ some "" := by decide
  exact query_newest hload hobjects (some "a") none hname nofun 1

end Trail

end HostLifecycle.Audit
