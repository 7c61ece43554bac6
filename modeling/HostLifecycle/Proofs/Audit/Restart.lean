import HostLifecycle.Proofs.Audit.Filing

/-!
A recorder with a file that is made anew between its calls, as a process is that starts again.
Nothing shows of it: what the calls answer and what surrounds the recorder behind them is the same
as with the one recorder. And behind every call that saves, the file holds what the recorder does,
the last ones of the events that were stored at the start and of those recorded since.
-/

namespace HostLifecycle.Audit

open Storage Attempt

inductive Call where
  | record (host reason message eventClass : Text)
  | query (limit host reason : Value)
  | load
  | clear

inductive Reply where
  | recorded (event : Value)
  | found (events : List Value)
  | loaded
  | cleared

namespace Call

def perform : Call → Attempt Trail Reply
  | record host reason message eventClass => do
    pure (.recorded (← Trail.record (.str host) (.str reason) (.str message) (.str eventClass)))
  | query limit host reason => do pure (.found (← Trail.query limit host reason))
  | load => do
    Trail.load
    pure .loaded
  | clear => do
    Trail.clear
    pure .cleared

def saves : Call → Bool
  | record .. => true
  | clear => true
  | query .. => false
  | load => false

/-- Whether the texts that a call hands over are read back as they were written, as every text of
characters is. -/
def Unsplit : Call → Prop
  | record host reason message eventClass =>
    host.Unsplit ∧ reason.Unsplit ∧ message.Unsplit ∧ eventClass.Unsplit
  | _ => True

end Call

/-- The events that are told of behind an answer: a recorded one comes behind the others, and a
clearing leaves none. -/
def told (events : List Value) : Except Fault Reply → List Value
  | .ok (.recorded event) => events ++ [event]
  | .ok .cleared => []
  | _ => events

/-- Of the last events the same ones are left behind an answer as of all events. -/
theorem lastOf_told (capacity : Nat) (events : List Value) (answer : Except Fault Reply) :
    lastOf (some capacity) (told (lastOf (some capacity) events) answer) =
      lastOf (some capacity) (told events answer) := by
  have hkept := lastOf_of_length_le (length_lastOf_le capacity events)
  cases answer with
  | error fault => exact hkept
  | ok reply =>
    cases reply with
    | recorded event => exact lastOf_lastOf_append capacity events event
    | cleared => rfl
    | found | loaded => exact hkept

/-- What happens to a recorder: a call, or that it is made anew. -/
inductive Turn where
  | call (call : Call)
  | restart

def Turn.isCall : Turn → Bool
  | call _ => true
  | restart => false

/-- An answer with what surrounds the recorder behind it. -/
abbrev Report := Except Fault Reply × Surroundings

/-- The events that reports tell of behind those of the start. -/
def history (initial : List Value) (reports : List Report) : List Value :=
  reports.foldl (fun events report => told events report.1) initial

namespace Setup

variable (setup : Setup)

def after (trail : Trail) : Turn → Trail
  | .call call => (call.perform.runOn trail).2
  | .restart => setup.fresh trail.around

def behind (trail : Trail) (plan : List Turn) : Trail := plan.foldl setup.after trail

/-- What the calls of a plan report, one after the other. Of a restart nothing is told. -/
def reports : Trail → List Turn → List Report
  | _, [] => []
  | trail, .restart :: rest => reports (setup.after trail .restart) rest
  | trail, .call call :: rest =>
    ((call.perform.runOn trail).1, (setup.after trail (.call call)).around) ::
      reports (setup.after trail (.call call)) rest

theorem reports_append (trail : Trail) (before rest : List Turn) :
    setup.reports trail (before ++ rest) =
      setup.reports trail before ++ setup.reports (setup.behind trail before) rest := by
  induction before generalizing trail with
  | nil => rfl
  | cons turn before ih =>
    cases turn with
    | restart => exact ih _
    | call call => exact congrArg _ (ih _)

namespace Carries

variable {setup : Setup} {kept : List Value} {trail twin : Trail} {call : Call}

/-- A call that saves comes to an answer, and the file holds what the recorder does then. -/
theorem mirrors (h : setup.Carries kept trail) (hcall : call.Unsplit) (hsaves : call.saves = true) :
    ∃ reply, (call.perform.runOn trail).1 = .ok reply ∧
      setup.Mirrors (lastOf (some setup.capacity) (told kept (.ok reply)))
        (call.perform.runOn trail).2 := by
  cases call with
  | query | load => cases hsaves
  | record host reason message eventClass =>
    obtain ⟨hhost, hreason, hmessage, hclass⟩ := hcall
    obtain ⟨event, after, hrun, hmirrors⟩ := h.runOn_record hhost hreason hmessage hclass
    rw [Call.perform, runOn_bind_ok hrun]
    exact ⟨_, rfl, hmirrors⟩
  | clear =>
    rw [Call.perform, runOn_bind_ok h.runOn_clear]
    refine ⟨_, rfl, ?_⟩
    rw [told, lastOf_of_length_le (Nat.zero_le _)]
    exact h.mirrors_cleared

theorem lastOf_kept (h : setup.Carries kept trail) :
    lastOf (some setup.capacity) kept = kept :=
  lastOf_of_length_le h.length_le

/-- Behind every call the trail keeps the last of the events that are told of. -/
theorem perform (h : setup.Carries kept trail) (hcall : call.Unsplit) :
    setup.Carries (lastOf (some setup.capacity) (told kept (call.perform.runOn trail).1))
      (call.perform.runOn trail).2 := by
  cases call with
  | record | clear =>
    obtain ⟨reply, hreply, hmirrors⟩ := h.mirrors hcall rfl
    rw [hreply]
    exact hmirrors.toCarries
  | load =>
    rw [Call.perform, runOn_bind_ok h.runOn_load]
    simp only [runOn_pure, told, h.lastOf_kept]
    exact h.opened
  | query limit host reason =>
    have hafter := h.runOn_query limit host reason
    rw [Call.perform]
    rcases hrun : (Trail.query limit host reason).runOn trail with ⟨fault | found, after⟩
    · rw [hrun] at hafter
      cases hafter
      rw [runOn_bind_error hrun]
      simp only [told, h.lastOf_kept]
      exact h.opened
    · rw [hrun] at hafter
      cases hafter
      rw [runOn_bind_ok hrun]
      simp only [runOn_pure, told, h.lastOf_kept]
      exact h.opened

/-- Two trails that keep the same events in the same surroundings answer alike. -/
theorem agree (h : setup.Carries kept trail) (h' : setup.Carries kept twin)
    (haround : twin.around = trail.around) (call : Call) :
    (call.perform.runOn twin).1 = (call.perform.runOn trail).1 ∧
      (call.perform.runOn twin).2.around = (call.perform.runOn trail).2.around := by
  have hload : Trail.load.runOn twin = Trail.load.runOn trail := by
    rw [h.runOn_load, h'.runOn_load, haround]
  cases call with
  | record host reason message eventClass =>
    -- the clock is read before the file, so the two are compared behind that
    have hticked : Trail.load.runOn twin.ticked = Trail.load.runOn trail.ticked := by
      rw [h.ticked.runOn_load, h'.ticked.runOn_load]
      simp only [Trail.ticked, haround]
    obtain ⟨shown, hshown⟩ := redactMessage_str trail.recorder.redacts message
    have hrecord := Trail.runOn_record_congr (.str host) (.str reason) (.str eventClass) hshown
      (h'.redacts.trans h.redacts.symm) haround hticked
    rw [Call.perform, runOn_bind, runOn_bind, hrecord]
    exact ⟨rfl, rfl⟩
  | query limit host reason =>
    have hquery : (Trail.query limit host reason).runOn twin =
        (Trail.query limit host reason).runOn trail := by
      rw [Trail.query, runOn_bind, runOn_bind, hload]
    rw [Call.perform, runOn_bind, runOn_bind, hquery]
    exact ⟨rfl, rfl⟩
  | load =>
    rw [Call.perform, runOn_bind, runOn_bind, hload]
    exact ⟨rfl, rfl⟩
  | clear =>
    rw [Call.perform, runOn_bind_ok h.runOn_clear, runOn_bind_ok h'.runOn_clear]
    refine ⟨rfl, ?_⟩
    simp only [runOn_pure, Trail.saved, Trail.onto, Trail.keeping, haround]

variable {initial : List Value} {plan : List Turn}

/-- Along a plan the trail keeps the last of the events that are told of. -/
theorem behind (h : setup.Carries (lastOf (some setup.capacity) initial) trail)
    (hplan : ∀ call, Turn.call call ∈ plan → call.Unsplit) :
    setup.Carries (lastOf (some setup.capacity) (history initial (setup.reports trail plan)))
      (setup.behind trail plan) := by
  -- a call changes what is told of, so the events of the start vary along the plan
  induction plan generalizing initial trail with
  | nil => exact h
  | cons turn rest ih =>
    have hrest : ∀ call, Turn.call call ∈ rest → call.Unsplit := fun call hmem =>
      hplan call (List.mem_cons_of_mem _ hmem)
    cases turn with
    | restart => exact ih h.renewed hrest
    | call call =>
      have hafter := h.perform (hplan call List.mem_cons_self)
      rw [lastOf_told] at hafter
      exact ih hafter hrest

/-- Trails that keep the same events in the same surroundings report the same along a plan,
though one of them leaves out the restarts. -/
theorem reports_eq (h : setup.Carries kept trail) (h' : setup.Carries kept twin)
    (haround : twin.around = trail.around)
    (hplan : ∀ call, Turn.call call ∈ plan → call.Unsplit) :
    setup.reports twin plan = setup.reports trail (plan.filter Turn.isCall) := by
  -- a restart moves the twin alone; it still keeps the same events, and its surroundings stay
  induction plan generalizing kept trail twin with
  | nil => rfl
  | cons turn rest ih =>
    have hrest : ∀ call, Turn.call call ∈ rest → call.Unsplit := fun call hmem =>
      hplan call (List.mem_cons_of_mem _ hmem)
    cases turn with
    | restart => exact ih h h'.renewed haround hrest
    | call call =>
      have hcall := hplan call List.mem_cons_self
      obtain ⟨hanswer, hbehind⟩ := h.agree h' haround call
      have hafter := h'.perform hcall
      rw [hanswer] at hafter
      have htail := ih (h.perform hcall) hafter hbehind hrest
      have hkept : (Turn.call call :: rest).filter Turn.isCall =
          .call call :: rest.filter Turn.isCall := rfl
      simp only [hkept, reports, after]
      rw [hanswer, hbehind, htail]

end Carries

/-- A recorder that has just been made keeps the last of the events that its file holds. -/
theorem carries_fresh {around : Surroundings} {initial : List Value}
    (hsaves : around.disk.Saves setup.path) (hfile : around.disk.Keeps setup.path initial) :
    setup.Carries (lastOf (some setup.capacity) initial) (setup.fresh around) where
  recorder := Or.inl rfl
  stored := by
    rcases hfile with ⟨hnone, rfl⟩ | ⟨hjson, -⟩
    · exact Or.inl ⟨hnone, lastOf_of_length_le (Nat.zero_le _)⟩
    · exact Or.inr ⟨initial, hjson, rfl⟩
  saves := hsaves
  texts := fun event hevent => hfile.texts event (mem_of_mem_lastOf hevent)

variable {setup}

/-- A recorder with a file may be made anew between any two of its calls, and nothing shows of
it: every call comes to the same answer, and behind every call the disk, the clock and the journal
are the same. Whatever happened before, every call that records or clears comes to an answer, and
what the file holds then, as JSON, is what the recorder holds: the last events of the history,
which starts with what the file held at first, loses everything where the recorder is cleared, and
goes on with every recorded event. In none of the texts that are recorded a pair is split into its
halves, since these would not be read back apart. -/
theorem restarts_unseen {around : Surroundings} {initial : List Value} {plan : List Turn}
    (hsaves : around.disk.Saves setup.path) (hfile : around.disk.Keeps setup.path initial)
    (hplan : ∀ call, Turn.call call ∈ plan → call.Unsplit) :
    setup.reports (setup.fresh around) plan =
      setup.reports (setup.fresh around) (plan.filter Turn.isCall) ∧
    ∀ before call rest, plan = before ++ .call call :: rest → call.saves = true →
      let turns := before ++ [.call call]
      let trail := setup.behind (setup.fresh around) turns
      let kept := lastOf (some setup.capacity)
        (history initial (setup.reports (setup.fresh around) turns))
      (∃ reply, (call.perform.runOn (setup.behind (setup.fresh around) before)).1 = .ok reply) ∧
        trail.recorder.events = kept ∧
        trail.around.disk.json? setup.path = some (.list kept) := by
  have hfresh := setup.carries_fresh hsaves hfile
  refine ⟨hfresh.reports_eq hfresh rfl hplan, ?_⟩
  rintro before call rest rfl hcallSaves
  have hbefore : ∀ call, Turn.call call ∈ before → call.Unsplit := fun other hmem =>
    hplan other (List.mem_append_left _ hmem)
  have hcall : call.Unsplit :=
    hplan call (List.mem_append_right _ List.mem_cons_self)
  obtain ⟨reply, hreply, hmirrors⟩ := (hfresh.behind hbefore).mirrors hcall hcallSaves
  have hbehind : setup.behind (setup.fresh around) (before ++ [.call call]) =
      (call.perform.runOn (setup.behind (setup.fresh around) before)).2 :=
    List.foldl_concat _ _ _ _
  have hhistory : history initial
      (setup.reports (setup.fresh around) (before ++ [.call call])) =
      told (history initial (setup.reports (setup.fresh around) before)) (.ok reply) := by
    rw [reports_append, history, List.foldl_append, ← hreply]
    rfl
  rw [lastOf_told, ← hhistory, ← hbehind] at hmirrors
  exact ⟨⟨reply, hreply⟩, hmirrors.events, hmirrors.file⟩

/-- A disk that holds one file in the working folder takes it again. -/
theorem takes_lone (content : ByteArray) :
    Disk.Takes ⟨[(["events.json"], .file content)], .sound⟩ (.ofText "events.json")
      (.ofText "events.tmp") ["events.tmp"] ["events.json"] where
  parent := ⟨rfl, rfl⟩
  second_eq := rfl
  usable_second := rfl
  usable := rfl
  locate_second := rfl
  locate := rfl
  origin_free := fun h => by cases h
  goal_free := fun h => by cases h
  opens := rfl
  writes := rfl
  replaces := rfl

/-- A recorder that keeps one event finds two of them in its file. It is made anew before it
records another one and again behind that, and nothing shows of it in what is found later. -/
theorem restarts_unseen_reopened :
    let setup : Setup := ⟨.ofText "events.json", 1, true⟩
    let stored := ["first", "second"].map fun message : String =>
      eventOf "1970" (.str "host") (.str "Failed") (.str message) (.str "Warning")
    let disk : Disk :=
      ⟨[(["events.json"], .file (Json.write .indented (.list stored)).toUTF8)], .sound⟩
    let around : Surroundings := ⟨disk, .still, []⟩
    let recording : Call := .record "host" "Ready" "token: a" "Normal"
    let asking : Call := .query (.int 5) (.str "host") .null
    let opening : List Turn := [.restart, .call recording]
    setup.reports (setup.fresh around) [.restart, .call recording, .restart, .call asking] =
        setup.reports (setup.fresh around) [.call recording, .call asking] ∧
      (setup.behind (setup.fresh around) opening).around.disk.json? setup.path =
        some (.list (setup.behind (setup.fresh around) opening).recorder.events) := by
  intro setup stored disk around recording asking opening
  have hwritten : ∀ s : String, (Text.ofString s).Unsplit := fun s =>
    (Text.plain_ofString s).unsplit
  have htexts : ∀ event ∈ stored, Json.TextObject event := by
    intro event hevent
    obtain ⟨message, -, rfl⟩ := List.mem_map.mp hevent
    exact textObject_strings _ _ _ _ _
  have hsaves : disk.Saves setup.path := (takes_lone _).saves
  have hkeeps : disk.Keeps setup.path stored := Disk.keeps_of_written rfl htexts
  have hplan : ∀ call, Turn.call call ∈ [.restart, .call recording, .restart, .call asking] →
      call.Unsplit := by
    simp only [List.mem_cons, List.not_mem_nil, or_false, reduceCtorEq, false_or,
      Turn.call.injEq]
    rintro call (rfl | rfl)
    · exact ⟨hwritten _, hwritten _, hwritten _, hwritten _⟩
    · trivial
  obtain ⟨hreports, hfile⟩ := @restarts_unseen setup around stored _ hsaves hkeeps hplan
  obtain ⟨-, hevents, hjson⟩ := hfile [.restart] recording [.restart, .call asking] rfl rfl
  have happend : [Turn.restart] ++ [.call recording] = opening := rfl
  rw [← hevents, happend] at hjson
  exact ⟨hreports, hjson⟩

end Setup

end HostLifecycle.Audit
