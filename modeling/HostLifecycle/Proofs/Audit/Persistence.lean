import HostLifecycle.Proofs.Audit.Restart

/-!
The trail that a recorder leaves to the next one. As long as nothing is cleared, a recorder that is
made anew loads the last of the events that were stored at the start and of those recorded since,
whatever was recorded, asked for, loaded or saved in between, and wherever the recorder was made
anew. Only a save by a recorder that has not read its file yet is different: it has no events, and
none are left.
-/

namespace HostLifecycle.Audit

open Storage Attempt

/-- What is done with a recorder: a turn of its own, or that its events are saved. -/
inductive Deed where
  | turn (turn : Turn)
  | save

/-- Whether a deed clears nothing, and hands over texts that are read back as they were written. -/
def Deed.Keeps : Deed → Prop
  | .turn (.call call) => call.Unsplit ∧ call ≠ .clear
  | _ => True

def recordedIn : Except Fault Reply → List Value
  | .ok (.recorded event) => [event]
  | _ => []

/-- Where nothing was cleared, what is told of is what was told of before and what was recorded. -/
theorem told_eq {answer : Except Fault Reply} (h : answer ≠ .ok .cleared) (events : List Value) :
    told events answer = events ++ recordedIn answer := by
  cases answer with
  | error fault => exact (List.append_nil _).symm
  | ok reply =>
    cases reply with
    | recorded event => rfl
    | cleared => exact absurd rfl h
    | found | loaded => exact (List.append_nil _).symm

/-- Only a clearing answers that the recorder was cleared. -/
theorem Call.answer_ne_cleared {call : Call} (h : call ≠ .clear) (trail : Trail) :
    (call.perform.runOn trail).1 ≠ .ok .cleared := by
  intro hanswer
  cases call with
  | clear => exact h rfl
  | record host reason message eventClass =>
    rw [perform, runOn_bind] at hanswer
    split at hanswer <;> cases hanswer
  | query limit host reason =>
    rw [perform, runOn_bind] at hanswer
    split at hanswer <;> cases hanswer
  | load =>
    rw [perform, runOn_bind] at hanswer
    split at hanswer <;> cases hanswer

/-- The events that a deed records. -/
def Deed.entered (trail : Trail) : Deed → List Value
  | .turn (.call call) => recordedIn (call.perform.runOn trail).1
  | .turn .restart => []
  | .save => []

namespace Setup

variable (setup : Setup)

def did (trail : Trail) : Deed → Trail
  | .turn turn => setup.after trail turn
  | .save => (Trail.save.runOn trail).2

def reached (trail : Trail) (plan : List Deed) : Trail := plan.foldl setup.did trail

/-- The events that are recorded along a plan. -/
def entries : Trail → List Deed → List Value
  | _, [] => []
  | trail, deed :: rest => deed.entered trail ++ entries (setup.did trail deed) rest

namespace Carries

variable {setup : Setup} {kept initial : List Value} {trail : Trail} {deed : Deed}
  {plan : List Deed}

/-- A recorder that has read its file holds the events that the trail keeps. -/
theorem recorder_of_loaded (h : setup.Carries kept trail)
    (hloaded : trail.recorder.loaded = true) : trail.recorder = setup.recorder.holding kept := by
  rcases h.recorder with hfresh | hholding
  · rw [hfresh] at hloaded
    cases hloaded
  · exact hholding

/-- A save by a recorder that has read its file leaves what the trail keeps. -/
theorem mirrors_save (h : setup.Carries kept trail) (hloaded : trail.recorder.loaded = true) :
    Trail.save.runOn trail = (.ok (), trail.saved setup.path) ∧
      setup.Mirrors kept (trail.saved setup.path) := by
  have hrecorder := h.recorder_of_loaded hloaded
  refine ⟨Trail.runOn_save h.logFile h.saves, ?_⟩
  exact setup.mirrors_saved (Or.inr hrecorder) (by rw [hrecorder]; rfl) h.length_le h.saves h.texts

/-- Behind a deed the trail keeps the last of what it kept before and of what was recorded. -/
theorem did (h : setup.Carries (lastOf (some setup.capacity) initial) trail) (hdeed : deed.Keeps)
    (hread : deed = .save → trail.recorder.loaded = true) :
    setup.Carries (lastOf (some setup.capacity) (initial ++ deed.entered trail))
      (setup.did trail deed) := by
  cases deed with
  | save =>
    obtain ⟨hsave, hmirrors⟩ := h.mirrors_save (hread rfl)
    rw [Setup.did, hsave, Deed.entered, List.append_nil]
    exact hmirrors.toCarries
  | turn turn =>
    cases turn with
    | restart =>
      rw [Deed.entered, List.append_nil]
      exact h.renewed
    | call call =>
      obtain ⟨hunsplit, hkept⟩ := hdeed
      have hafter := h.perform hunsplit
      rw [lastOf_told, told_eq (Call.answer_ne_cleared hkept trail)] at hafter
      exact hafter

/-- Along a plan the trail keeps the last of what it kept at the start and of what was recorded
since. -/
theorem reached (h : setup.Carries (lastOf (some setup.capacity) initial) trail)
    (hplan : ∀ deed ∈ plan, deed.Keeps)
    (hread : ∀ before rest, plan = before ++ .save :: rest →
      (setup.reached trail before).recorder.loaded = true) :
    setup.Carries (lastOf (some setup.capacity) (initial ++ setup.entries trail plan))
      (setup.reached trail plan) := by
  -- what was recorded joins the events of the start, so they vary along the plan
  induction plan generalizing initial trail with
  | nil =>
    rw [entries, List.append_nil]
    exact h
  | cons deed rest ih =>
    have hfirst : deed = .save → trail.recorder.loaded = true := fun hsave =>
      hread [] rest (by rw [hsave]; rfl)
    have hafter := h.did (hplan deed List.mem_cons_self) hfirst
    rw [entries, ← List.append_assoc]
    refine ih hafter (fun other hother => hplan other (List.mem_cons_of_mem _ hother)) ?_
    rintro before behind rfl
    exact hread (deed :: before) behind rfl

end Carries

variable {setup}

/-- As long as nothing is cleared, a recorder that is made anew at any point of a plan loads the
last of the events that the file held at first and of those recorded since, if a recorder only saves
once it has read its file; and whatever is recorded comes to an event. A recorder that saves before
it has read its file leaves no events at all. -/
theorem stored_trail_kept {around : Surroundings} {initial : List Value} {plan : List Deed}
    (hsaves : around.disk.Saves setup.path) (hfile : around.disk.Keeps setup.path initial)
    (hplan : ∀ deed ∈ plan, deed.Keeps)
    (hread : ∀ before rest, plan = before ++ .save :: rest →
      (setup.reached (setup.fresh around) before).recorder.loaded = true) :
    (∀ before rest, plan = before ++ rest →
      let behind := setup.reached (setup.fresh around) before
      let entries := setup.entries (setup.fresh around) before
      Trail.load.runOn (setup.fresh behind.around) =
        (.ok (), setup.opened (lastOf (some setup.capacity) (initial ++ entries)) behind.around)) ∧
    (∀ before host reason message eventClass rest,
      plan = before ++ .turn (.call (.record host reason message eventClass)) :: rest →
      ∃ event, ((Call.record host reason message eventClass).perform.runOn
        (setup.reached (setup.fresh around) before)).1 = .ok (.recorded event)) ∧
    ∀ surroundings : Surroundings, surroundings.disk.Saves setup.path →
      let behind := (Trail.save.runOn (setup.fresh surroundings)).2
      Trail.load.runOn (setup.fresh behind.around) = (.ok (), setup.opened [] behind.around) := by
  have hcarries : ∀ before rest, plan = before ++ rest →
      setup.Carries (lastOf (some setup.capacity)
        (initial ++ setup.entries (setup.fresh around) before))
        (setup.reached (setup.fresh around) before) := by
    rintro before rest rfl
    apply (setup.carries_fresh hsaves hfile).reached
    · exact fun deed hdeed => hplan deed (List.mem_append_left _ hdeed)
    · intro first behind hsplit
      exact hread first (behind ++ rest) (by rw [hsplit, List.append_assoc, List.cons_append])
  refine ⟨fun before rest hsplit => (hcarries before rest hsplit).renewed.runOn_load, ?_, ?_⟩
  · intro before host reason message eventClass rest hsplit
    obtain ⟨⟨hhost, hreason, hmessage, hclass⟩, -⟩ :=
      hplan _ (hsplit ▸ List.mem_append_right before List.mem_cons_self)
    obtain ⟨event, after, hrun, -⟩ :=
      (hcarries before _ hsplit).runOn_record hhost hreason hmessage hclass
    refine ⟨event, ?_⟩
    rw [Call.perform, runOn_bind_ok hrun]
    rfl
  · intro surroundings hagain
    have hsave : Trail.save.runOn (setup.fresh surroundings) =
        (.ok (), (setup.fresh surroundings).saved setup.path) :=
      Trail.runOn_save rfl hagain
    have hmirrors : setup.Mirrors [] ((setup.fresh surroundings).saved setup.path) :=
      setup.mirrors_saved (Or.inl rfl) rfl (Nat.zero_le _) hagain
        fun _ hnone => absurd hnone List.not_mem_nil
    rw [hsave]
    exact hmirrors.toCarries.renewed.runOn_load

/-- A recorder that keeps two events loads those that its file holds, and saves them. The next one
records another event, and the one after that loads what is kept of all three. -/
theorem stored_trail_kept_saved :
    let setup : Setup := ⟨.ofText "events.json", 2, true⟩
    let stored := ["first", "second"].map fun message : String =>
      eventOf "1970" (.str "host") (.str "Failed") (.str message) (.str "Warning")
    let disk : Disk :=
      ⟨[(["events.json"], .file (Json.write .indented (.list stored)).toUTF8)], .sound⟩
    let around : Surroundings := ⟨disk, .still, []⟩
    let recording : Call := .record "host" "Ready" "up" "Normal"
    let plan : List Deed := [.turn (.call .load), .save, .turn .restart, .turn (.call recording)]
    let behind := setup.reached (setup.fresh around) plan
    let entries := setup.entries (setup.fresh around) plan
    Trail.load.runOn (setup.fresh behind.around) =
      (.ok (), setup.opened (lastOf (some 2) (stored ++ entries)) behind.around) := by
  intro setup stored disk around recording plan behind entries
  have hwritten : ∀ s : String, (Text.ofString s).Unsplit := fun s =>
    (Text.plain_ofString s).unsplit
  have htexts : ∀ event ∈ stored, Json.TextObject event := by
    intro event hevent
    obtain ⟨message, -, rfl⟩ := List.mem_map.mp hevent
    exact textObject_strings _ _ _ _ _
  have hsaves : around.disk.Saves setup.path := (takes_lone _).saves
  have hkeeps : around.disk.Keeps setup.path stored := Disk.keeps_of_written rfl htexts
  have hcapacity : setup.capacity = 2 := rfl
  -- nothing else about the file is used, so it need not be read
  clear_value setup stored around
  have hplan : ∀ deed ∈ plan, deed.Keeps := by
    simp only [plan, List.forall_mem_cons]
    exact ⟨⟨trivial, by simp⟩, trivial, trivial,
      ⟨⟨hwritten _, hwritten _, hwritten _, hwritten _⟩, by simp [recording]⟩,
      fun _ hnone => absurd hnone List.not_mem_nil⟩
  have hread : ∀ before rest, plan = before ++ .save :: rest →
      (setup.reached (setup.fresh around) before).recorder.loaded = true := by
    intro before rest hsplit
    rcases before with - | ⟨first, - | ⟨second, before⟩⟩
    · cases (List.cons.inj hsplit).1
    · have hfirst : Deed.turn (.call .load) = first := (List.cons.inj hsplit).1
      have hload := (setup.carries_fresh hsaves hkeeps).runOn_load
      rw [← hfirst, reached, List.foldl_cons, List.foldl_nil, did, after, Call.perform,
        runOn_bind_ok hload]
      rfl
    · have hsaved : Deed.save ∈ [Deed.turn .restart, .turn (.call recording)] := by
        rw [(List.cons.inj (List.cons.inj hsplit).2).2]
        exact List.mem_append_right before List.mem_cons_self
      simp at hsaved
  obtain ⟨hload, -⟩ := stored_trail_kept hsaves hkeeps hplan hread
  rw [← hcapacity]
  exact hload plan [] (List.append_nil plan).symm

end Setup

end HostLifecycle.Audit
