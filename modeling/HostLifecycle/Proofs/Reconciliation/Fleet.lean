import HostLifecycle.Proofs.Audit.Sharing
import HostLifecycle.Proofs.Reconciliation.Driving
import HostLifecycle.Proofs.Reconciliation.Strides
import Mathlib.Logic.Function.Basic

/-!
Several hosts that share one audit trail. The trail is all that they have in common, and no step
reads it. So in whatever order the hosts take their steps, each of them fares as it does alone
with a recorder of its own, and of the shared recorder it is shown what that recorder would show
it.
-/

namespace HostLifecycle.Reconciliation

open Attempt Audit Logging

/-- What a step of a host comes to, what it leaves of the host, and what it adds to the journal.
The calls are those of the actions so far, and the source shows what was asked of the secret store
so far. -/
structure Account where
  result : Except Fault StepResult
  host : HostRecord
  told : List LogEntry
  calls : List State
  fetches : Nat
  source : Source

namespace Machine

def withTrail (trail : Trail) (machine : Machine) : Machine :=
  { machine with site := { machine.site with trail := trail } }

def account (machine : Machine) (step : Step) : Account where
  result := (step.perform.runOn machine).1
  host := (machine.after step).site.host
  told := (machine.after step).site.journal.drop machine.site.journal.length
  calls := (machine.after step).site.calls
  fetches := (machine.after step).site.fetches
  source := (machine.after step).site.source.unwritten

def accounts : Machine → List Step → List Account
  | _, [] => []
  | machine, step :: rest => machine.account step :: (machine.after step).accounts rest

def Bears (name : Text) : Machine → List Step → Prop
  | _, [] => True
  | machine, step :: rest =>
    machine.site.host.name = .str name ∧ Bears name (machine.after step) rest

end Machine

def ownOf {ι α : Type} [DecidableEq ι] (i : ι) (entries : List (ι × α)) : List α :=
  entries.filterMap fun entry => if entry.1 = i then some entry.2 else none

/-- Hosts with their machines, and the trail that they share. -/
structure Fleet (ι : Type) where
  machines : ι → Machine
  trail : Trail

namespace Fleet

variable {ι : Type}

def machine (fleet : Fleet ι) (i : ι) : Machine := (fleet.machines i).withTrail fleet.trail

/-- The machine of a host alone, with a recorder of its own like the one that is shared. -/
def alone (fleet : Fleet ι) (around : ι → Surroundings) (i : ι) : Machine :=
  (fleet.machines i).withTrail ⟨fleet.trail.recorder, around i⟩

def unbounded (fleet : Fleet ι) : Fleet ι :=
  { fleet with trail :=
    { fleet.trail with recorder := { fleet.trail.recorder with capacity := none } } }

variable [DecidableEq ι]

def after (fleet : Fleet ι) (turn : ι × Step) : Fleet ι where
  machines := Function.update fleet.machines turn.1 ((fleet.machine turn.1).after turn.2)
  trail := ((fleet.machine turn.1).after turn.2).site.trail

def behind (fleet : Fleet ι) (plan : List (ι × Step)) : Fleet ι := plan.foldl after fleet

/-- The accounts of the steps of a plan, each with its host. -/
def accounts : Fleet ι → List (ι × Step) → List (ι × Account)
  | _, [] => []
  | fleet, turn :: rest =>
    (turn.1, (fleet.machine turn.1).account turn.2) :: (fleet.after turn).accounts rest

/-- The bound of the recorder is not exceeded along a plan: one that forgets nothing holds no more
events behind it than the bound. -/
def Fits (fleet : Fleet ι) (plan : List (ι × Step)) : Prop :=
  ∀ bound, fleet.trail.recorder.capacity = some bound →
    (fleet.unbounded.behind plan).trail.recorder.events.length ≤ bound

end Fleet

section

variable {bound bound' : Option Nat} {isRedacting : Bool} {name : Text}

/-- Every entry may be written to two trails that go on abreast, and every event about the one
host may be recorded in them. -/
theorem carried_beside (log log' : List Value) (journal journal' : List LogEntry) :
    Carried (Trail.Beside bound bound' isRedacting name log log' journal journal')
      (fun _ => True) (· = .str name) where
  ordinary _ := trivial
  told := by
    rintro trail trail' entries
      ⟨told, told', written, hholds, hholds', habout, habout', hsame, hjournal, hjournal'⟩ -
    refine ⟨told, told', written ++ entries, hholds.withJournal _, hholds'.withJournal _, habout,
      habout', hsame, ?_, ?_⟩
    · rw [← List.append_assoc, ← hjournal]
      rfl
    · rw [← List.append_assoc, ← hjournal']
      rfl
  recorded := by
    rintro _ reason message rfl trail trail' h
    exact h.record (.str reason) message _

namespace Machine

/-- A machine that stands alone where another one stands, with a recorder that forgets nothing and
was told what a log tells of this host. -/
structure Follows (isRedacting : Bool) (name : Text) (log : List Value) (machine free : Machine) :
    Prop where
  holds : ∃ own, free.site.trail.Holds none isRedacting own ∧
    (∀ event ∈ own, About name event) ∧
    (log.filter (hasField "host" (.str name))).map untimed = own.map untimed
  same : ∃ trail source, source.unwritten = machine.site.source.unwritten ∧
    free = { machine with site := { machine.site with trail := trail, source := source } }

namespace Follows

variable {log : List Value} {machine free : Machine} {plan : List Step}

theorem of_withTrail (machine : Machine) (name : Text) (trail : Trail) (around : Surroundings) :
    Follows isRedacting name [] (machine.withTrail trail)
      (machine.withTrail ⟨Recorder.new none none isRedacting, around⟩) :=
  ⟨⟨[], Trail.holds_new none isRedacting around, fun _ h => absurd h List.not_mem_nil, rfl⟩,
    _, machine.site.source, rfl, rfl⟩

theorem host_eq (h : Follows isRedacting name log machine free) :
    free.site.host = machine.site.host := by
  obtain ⟨trail, source, -, rfl⟩ := h.same
  rfl

/-- The recorder of the machine alone holds the events that the log has of the host. -/
theorem told_eq (h : Follows isRedacting name log machine free) :
    (log.filter (hasField "host" (.str name))).map untimed =
      free.site.trail.recorder.events.map untimed := by
  obtain ⟨own, hholds, -, hsame⟩ := h.holds
  have hevents : free.site.trail.recorder.events = own := hholds.events
  rw [hevents]
  exact hsame

theorem length_eq (h : Follows isRedacting name log machine free) :
    (log.filter (hasField "host" (.str name))).length =
      free.site.trail.recorder.events.length := by
  have hlength := congrArg List.length h.told_eq
  rwa [List.length_map, List.length_map] at hlength

/-- What is told of other hosts, and where it is told, is of no concern. -/
theorem skip (h : Follows isRedacting name log machine free) {told : List Value}
    (htold : told.filter (hasField "host" (.str name)) = []) (trail : Trail) :
    Follows isRedacting name (log ++ told) (machine.withTrail trail) free := by
  obtain ⟨own, hholds, habout, hsame⟩ := h.holds
  refine ⟨⟨own, hholds, habout, ?_⟩, h.same⟩
  rw [List.filter_append, htold, List.append_nil]
  exact hsame

/-- A step comes to the same in both machines, and what it tells is told of this host alone. -/
theorem after (h : Follows isRedacting name log machine free)
    (hholds : machine.site.trail.Holds bound isRedacting log)
    (hname : machine.site.host.name = .str name) (step : Step) :
    ∃ told, (∀ event ∈ told, About name event) ∧
      (machine.after step).site.trail.Holds bound isRedacting (log ++ told) ∧
      Follows isRedacting name (log ++ told) (machine.after step) (free.after step) ∧
      machine.account step = free.account step := by
  obtain ⟨own, hown, habout, hsame⟩ := h.holds
  obtain ⟨trail, source, hsource, rfl⟩ := h.same
  have habreast : Machine.Abreast
      (Trail.Beside bound none isRedacting name log own machine.site.journal
        trail.around.journal) (· = .str name) machine
      { machine with site := { machine.site with trail := trail, source := source } } :=
    ⟨_, ⟨hname, trail, source, hholds.beside hown name, hsource, rfl⟩, rfl⟩
  obtain ⟨hresult, _, ⟨-, trail', source', hbeside, hsource', rfl⟩, hafter⟩ :=
    abreast_step (carried_beside log own _ _) (fun _ => trivial) step habreast
  obtain ⟨told, told', entries, hholds', hown', htold, htold', hsame', hjournal, hjournal'⟩ :=
    hbeside
  refine ⟨told, htold, hholds', ⟨⟨own ++ told', ?_, ?_, ?_⟩, trail', source', hsource', hafter⟩, ?_⟩
  · rw [Machine.after, hafter]
    exact hown'
  · exact List.forall_mem_append.mpr ⟨habout, htold'⟩
  · rw [List.filter_append, filter_about htold, List.map_append, List.map_append, hsame, hsame']
  · have hbehind : (step.perform.runOn machine).2.site.journal = machine.site.journal ++ entries :=
      hjournal
    have hwritten : (step.perform.runOn machine).2.site.journal.drop machine.site.journal.length =
        entries := by
      rw [hbehind, List.drop_left]
    have hwritten' : trail'.around.journal.drop trail.around.journal.length = entries := by
      rw [hjournal', List.drop_left]
    simp only [account, Machine.after, hresult.eq, hafter, hwritten, hsource']
    exact congrArg (fun told => Account.mk _ _ told _ _ _) hwritten'.symm

/-- Along a plan a machine with a bounded recorder fares as one with a recorder that forgets
nothing. -/
theorem behind (h : Follows isRedacting name log machine free)
    (hholds : machine.site.trail.Holds bound isRedacting log)
    (hlog : ∀ event ∈ log, About name event) (hbears : machine.Bears name plan) :
    (∃ log, (machine.behind plan).site.trail.Holds bound isRedacting log ∧
      (∀ event ∈ log, About name event) ∧
      Follows isRedacting name log (machine.behind plan) (free.behind plan)) ∧
    machine.accounts plan = free.accounts plan ∧ free.Bears name plan := by
  induction plan generalizing machine free log with
  | nil => exact ⟨⟨log, hholds, hlog, h⟩, rfl, trivial⟩
  | cons step rest ih =>
    obtain ⟨hname, hrest⟩ := hbears
    obtain ⟨told, htold, hbehind, hafter, haccount⟩ := h.after hholds hname step
    have hgrown : ∀ event ∈ log ++ told, About name event :=
      List.forall_mem_append.mpr ⟨hlog, htold⟩
    obtain ⟨hlater, haccounts, hfree⟩ := ih hafter hbehind hgrown hrest
    refine ⟨hlater, ?_, ?_, hfree⟩
    · rw [accounts, accounts, haccount, haccounts]
    · rw [h.host_eq]
      exact hname

end Follows

end Machine

variable {ι : Type} [DecidableEq ι] {names : ι → Text} {fleet : Fleet ι} {free : ι → Machine}
  {plan : List (ι × Step)}

theorem ownOf_cons_self {α : Type} (i : ι) (entry : α) (rest : List (ι × α)) :
    ownOf i ((i, entry) :: rest) = entry :: ownOf i rest := by
  simp [ownOf]

theorem ownOf_cons_ne {α : Type} {i j : ι} (h : j ≠ i) (entry : α) (rest : List (ι × α)) :
    ownOf i ((j, entry) :: rest) = ownOf i rest := by
  simp [ownOf, h]

namespace Fleet

/-- A fleet in which each host stands where a machine of its own stands, and whose recorder was
told of its hosts and of no other. -/
structure Accompanied (bound : Option Nat) (isRedacting : Bool) (names : ι → Text)
    (free : ι → Machine) (log : List Value) (fleet : Fleet ι) : Prop where
  holds : fleet.trail.Holds bound isRedacting log
  about : ∀ event ∈ log, ∃ i, About (names i) event
  follows : ∀ i, (fleet.machine i).Follows isRedacting (names i) log (free i)

/-- One step of one host leaves all others where they are. -/
theorem Accompanied.after {log : List Value}
    (h : fleet.Accompanied bound isRedacting names free log)
    (hdistinct : Function.Injective names) (i : ι) (step : Step)
    (hname : (free i).site.host.name = .str (names i)) :
    (∃ told, (fleet.after (i, step)).Accompanied bound isRedacting names
      (Function.update free i ((free i).after step)) (log ++ told)) ∧
    (fleet.machine i).account step = (free i).account step := by
  rw [(h.follows i).host_eq] at hname
  obtain ⟨told, htold, hbehind, hown, haccount⟩ := (h.follows i).after h.holds hname step
  have hgrown : ∀ event ∈ log ++ told, ∃ i, About (names i) event :=
    List.forall_mem_append.mpr ⟨h.about, fun event hevent => ⟨i, htold event hevent⟩⟩
  refine ⟨⟨told, hbehind, hgrown, ?_⟩, haccount⟩
  intro j
  -- the others see only that the trail goes on, and with events that are not about them
  by_cases hj : j = i
  · subst hj
    change Machine.Follows _ _ _ ((Function.update fleet.machines j
      ((fleet.machine j).after step) j).withTrail _) _
    rw [Function.update_self, Function.update_self]
    exact hown
  · have hskip := (h.follows j).skip
      (filter_about_ne htold fun hsame => hj (hdistinct hsame.symm))
      ((fleet.machine i).after step).site.trail
    change Machine.Follows _ _ _ ((Function.update fleet.machines i
      ((fleet.machine i).after step) j).withTrail _) _
    rw [Function.update_of_ne hj, Function.update_of_ne hj]
    exact hskip

/-- Along a plan each host fares as alone. -/
theorem Accompanied.behind {log : List Value}
    (h : fleet.Accompanied bound isRedacting names free log)
    (hdistinct : Function.Injective names)
    (hbears : ∀ i, (free i).Bears (names i) (ownOf i plan)) :
    (∃ log, (fleet.behind plan).Accompanied bound isRedacting names
      (fun i => (free i).behind (ownOf i plan)) log) ∧
    ∀ i, ownOf i (fleet.accounts plan) = (free i).accounts (ownOf i plan) := by
  -- the machines alone go on with the fleet, each by its own steps
  induction plan generalizing fleet free log with
  | nil => exact ⟨⟨log, h⟩, fun _ => rfl⟩
  | cons turn rest ih =>
    obtain ⟨i, step⟩ := turn
    have hfirst := hbears i
    rw [ownOf_cons_self] at hfirst
    obtain ⟨hname, hrest⟩ := hfirst
    obtain ⟨⟨told, hafter⟩, haccount⟩ := h.after hdistinct i step hname
    have hlater : ∀ j, (Function.update free i ((free i).after step) j).Bears (names j)
        (ownOf j rest) := by
      intro j
      by_cases hj : j = i
      · subst hj
        rw [Function.update_self]
        exact hrest
      · have hown := hbears j
        rw [ownOf_cons_ne (Ne.symm hj)] at hown
        rw [Function.update_of_ne hj]
        exact hown
    obtain ⟨⟨log', hbehind⟩, haccounts⟩ := ih hafter hlater
    refine ⟨⟨log', ?_⟩, ?_⟩
    · have hsame : (fun j => (Function.update free i ((free i).after step) j).behind
          (ownOf j rest)) = fun j => (free j).behind (ownOf j ((i, step) :: rest)) := by
        funext j
        by_cases hj : j = i
        · subst hj
          rw [Function.update_self, ownOf_cons_self]
          rfl
        · rw [Function.update_of_ne hj, ownOf_cons_ne (Ne.symm hj)]
      rw [hsame] at hbehind
      exact hbehind
    · intro j
      by_cases hj : j = i
      · subst hj
        rw [accounts, ownOf_cons_self, ownOf_cons_self, haccounts, Function.update_self, haccount]
        rfl
      · rw [accounts, ownOf_cons_ne (Ne.symm hj), ownOf_cons_ne (Ne.symm hj), haccounts,
          Function.update_of_ne hj]

omit [DecidableEq ι] in
/-- Fleets whose hosts stand where the same machines stand were told equally much. -/
theorem Accompanied.length_eq {fleet' : Fleet ι} {log log' : List Value}
    (h : fleet.Accompanied bound isRedacting names free log)
    (h' : fleet'.Accompanied bound' isRedacting names free log') : log.length = log'.length :=
  length_eq_of_hosts h.about h'.about fun i =>
    (h.follows i).length_eq.trans (h'.follows i).length_eq.symm

omit [DecidableEq ι] in
theorem unbounded_new (hnew : fleet.trail.recorder = Recorder.new none bound isRedacting) :
    fleet.unbounded.trail.recorder = Recorder.new none none isRedacting := by
  rw [unbounded, hnew]
  rfl

omit [DecidableEq ι] in
/-- With a recorder that was told nothing yet each host stands where it stands alone. -/
theorem accompanied_new (hnew : fleet.trail.recorder = Recorder.new none bound isRedacting)
    (names : ι → Text) (around : ι → Surroundings) :
    fleet.Accompanied bound isRedacting names (fleet.unbounded.alone around) [] := by
  have hfree := unbounded_new hnew
  refine ⟨?_, fun _ h => absurd h List.not_mem_nil, fun i => ?_⟩
  · have hholds := Trail.holds_new bound isRedacting fleet.trail.around
    rw [← hnew] at hholds
    exact hholds
  · rw [alone, hfree]
    exact Machine.Follows.of_withTrail (fleet.machines i) (names i) fleet.trail (around i)

omit [DecidableEq ι] in
/-- Alone and unbounded, a host bears its name along its own steps, and the accounts are those it
gives alone. -/
theorem follows_alone (hnew : fleet.trail.recorder = Recorder.new none bound isRedacting)
    (around : ι → Surroundings) {i : ι} {name : Text} {own : List Step}
    (hbears : (fleet.alone around i).Bears name own) :
    (∃ log, ((fleet.alone around i).behind own).site.trail.Holds bound isRedacting log ∧
      (∀ event ∈ log, About name event) ∧
      ((fleet.alone around i).behind own).Follows isRedacting name log
        ((fleet.unbounded.alone around i).behind own)) ∧
    (fleet.alone around i).accounts own = (fleet.unbounded.alone around i).accounts own ∧
    (fleet.unbounded.alone around i).Bears name own := by
  have hfree := unbounded_new hnew
  rw [alone, hnew] at hbears ⊢
  rw [alone, hfree]
  exact (Machine.Follows.of_withTrail (fleet.machines i) name _ (around i)).behind
    (Trail.holds_new bound isRedacting (around i)) (fun _ h => absurd h List.not_mem_nil) hbears

section

variable {around : ι → Surroundings}
  (hnew : fleet.trail.recorder = Recorder.new none bound isRedacting)
  (hdistinct : Function.Injective names)
  (hbears : ∀ i, (fleet.alone around i).Bears (names i) (ownOf i plan))

include hnew hdistinct hbears

/-- Behind a plan each host stands where it stands behind its own steps alone, and gave the same
accounts. -/
theorem accompanied_behind : (∃ log, (fleet.behind plan).Accompanied bound isRedacting names
      (fun i => (fleet.unbounded.alone around i).behind (ownOf i plan)) log) ∧
    ∀ i, ownOf i (fleet.accounts plan) = (fleet.alone around i).accounts (ownOf i plan) := by
  obtain ⟨hlog, haccounts⟩ := (accompanied_new hnew names around).behind hdistinct
    fun i => (follows_alone hnew around (hbears i)).2.2
  refine ⟨hlog, fun i => ?_⟩
  rw [haccounts, (follows_alone hnew around (hbears i)).2.1]

/-- A recorder that forgets nothing was told as much behind a plan as the shared one. -/
theorem length_unbounded {log : List Value}
    (h : (fleet.behind plan).Accompanied bound isRedacting names
      (fun i => (fleet.unbounded.alone around i).behind (ownOf i plan)) log) :
    (fleet.unbounded.behind plan).trail.recorder.events.length = log.length := by
  have hfree := unbounded_new hnew
  obtain ⟨⟨log', h'⟩, -⟩ := (accompanied_new hfree names around).behind hdistinct
    fun i => (follows_alone hnew around (hbears i)).2.2
  have hevents : (fleet.unbounded.behind plan).trail.recorder.events = log' := h'.holds.events
  rw [hevents]
  exact h'.length_eq h

/-- Whether the bound is exceeded does not depend on how the hosts take turns. -/
theorem Fits.of_ownOf (hfits : fleet.Fits plan) {plan' : List (ι × Step)}
    (hsame : ∀ i, ownOf i plan' = ownOf i plan) : fleet.Fits plan' := by
  have hbears' : ∀ i, (fleet.alone around i).Bears (names i) (ownOf i plan') := fun i => by
    rw [hsame]
    exact hbears i
  obtain ⟨⟨log, h⟩, -⟩ := accompanied_behind hnew hdistinct hbears
  obtain ⟨⟨log', h'⟩, -⟩ := accompanied_behind hnew hdistinct hbears'
  intro bound hbound
  rw [length_unbounded hnew hdistinct hbears' h']
  simp only [hsame] at h'
  rw [h'.length_eq h, ← length_unbounded hnew hdistinct hbears h]
  exact hfits bound hbound

/-- While the bound of the shared recorder is not exceeded, it shows each host what a recorder of
its own would show. -/
theorem shown_alone (hnamed : ∀ i, names i ≠ "") (hfits : fleet.Fits plan) (i : ι) :
    (∀ limit reason, (fleet.behind plan).trail.shown limit reason (names i) =
      ((fleet.alone around i).behind (ownOf i plan)).site.trail.shown limit reason (names i)) ∧
    ∀ (limit : Int) (reason : Value), ∃ events,
      (fleet.behind plan).trail.shown (.int limit) reason (names i) = .ok events := by
  obtain ⟨⟨log, h⟩, -⟩ := accompanied_behind hnew hdistinct hbears
  obtain ⟨⟨own, hholds, hown, hfollows⟩, -⟩ := follows_alone hnew around (hbears i)
  have hsome : ∀ event ∈ log, ∃ name, About name event := fun event hevent =>
    let ⟨j, habout⟩ := h.about event hevent
    ⟨names j, habout⟩
  have hbound : ∀ limit, bound = some limit → log.length ≤ limit := by
    intro limit hlimit
    rw [← length_unbounded hnew hdistinct hbears h]
    apply hfits
    rw [hnew]
    exact hlimit
  -- the log of this host alone is the part of the shared one that is about it
  have hsame : (log.filter (hasField "host" (.str (names i)))).map untimed = own.map untimed := by
    rw [(h.follows i).told_eq, ← hfollows.told_eq, filter_about hown]
  have hbound' : ∀ limit, bound = some limit → own.length ≤ limit := by
    intro limit hlimit
    rw [← List.length_map untimed, ← hsame, List.length_map]
    exact (List.length_filter_le _ _).trans (hbound limit hlimit)
  exact ⟨h.holds.shown_eq hholds hbound hbound' hsome hown (hnamed i) hsame,
    h.holds.exists_shown hbound hsome (hnamed i)⟩

end

/-- Hosts with distinct names that share a recorder do not interfere. In whatever order they take
their steps, each of them gives the accounts it gives alone with a recorder of its own, and the
events shown of it are the same. So how they take turns makes no difference to any of them. -/
theorem hosts_do_not_interfere (fleet : Fleet ι) (names : ι → Text) (bound : Option Nat)
    (isRedacting : Bool) (around : ι → Surroundings) (plan : List (ι × Step))
    (hnew : fleet.trail.recorder = Recorder.new none bound isRedacting)
    (hdistinct : Function.Injective names) (hnamed : ∀ i, names i ≠ "")
    (hbears : ∀ i, (fleet.alone around i).Bears (names i) (ownOf i plan))
    (hfits : fleet.Fits plan) (i : ι) :
    (ownOf i (fleet.accounts plan) = (fleet.alone around i).accounts (ownOf i plan) ∧
      (∀ limit reason, (fleet.behind plan).trail.shown limit reason (names i) =
        ((fleet.alone around i).behind (ownOf i plan)).site.trail.shown limit reason (names i)) ∧
      ∀ (limit : Int) (reason : Value), ∃ events,
        (fleet.behind plan).trail.shown (.int limit) reason (names i) = .ok events) ∧
    ∀ plan', (∀ j, ownOf j plan' = ownOf j plan) →
      ownOf i (fleet.accounts plan') = ownOf i (fleet.accounts plan) ∧
      ∀ limit reason, (fleet.behind plan').trail.shown limit reason (names i) =
        (fleet.behind plan).trail.shown limit reason (names i) := by
  have haccounts := (accompanied_behind hnew hdistinct hbears).2 i
  have hshown := shown_alone hnew hdistinct hbears hnamed hfits i
  refine ⟨⟨haccounts, hshown⟩, fun plan' hsame => ?_⟩
  have hbears' : ∀ j, (fleet.alone around j).Bears (names j) (ownOf j plan') := fun j => by
    rw [hsame]
    exact hbears j
  have haccounts' := (accompanied_behind hnew hdistinct hbears').2 i
  have hshown' := shown_alone hnew hdistinct hbears' hnamed
    (Fits.of_ownOf hnew hdistinct hbears hfits hsame) i
  rw [hsame] at haccounts' hshown'
  exact ⟨haccounts'.trans haccounts.symm, fun limit reason =>
    (hshown'.1 limit reason).trans (hshown.1 limit reason).symm⟩

/-- The names of two hosts. -/
def pairNames (isFirst : Bool) : Text := if isFirst then "a" else "b"

/-- Two hosts around which nothing has happened yet, and a recorder that holds two events. -/
def pair : Fleet Bool where
  machines isFirst := Machine.fresh (HostRecord.new (.str (pairNames isFirst)))
  trail := ⟨Recorder.new none (some 2) false, ⟨Storage.Disk.empty, Clock.still, []⟩⟩

/-- Both hosts fail, and pass by each other. -/
def pairPlan : List (Bool × Step) :=
  [(true, .fail (.str ErrorType.registration.text) (.str "halted")), (false, .tick),
   (false, .fail (.str ErrorType.registration.text) (.str "halted")), (true, .tick)]

theorem hosts_do_not_interfere_pair :
    (pair.behind pairPlan).trail.recorder.events.length = 2 ∧
    ownOf true (pair.accounts pairPlan) =
      (pair.alone (fun _ => pair.trail.around) true).accounts (ownOf true pairPlan) ∧
    (pair.behind pairPlan).trail.shown (.int 1) .null "a" =
      ((pair.alone (fun _ => pair.trail.around) true).behind
        (ownOf true pairPlan)).site.trail.shown (.int 1) .null "a" := by
  have hdistinct : Function.Injective pairNames := by
    intro i j
    cases i <;> cases j <;> decide
  have hnamed : ∀ i, pairNames i ≠ "" := by decide
  have hbears : ∀ i, (pair.alone (fun _ => pair.trail.around) i).Bears (pairNames i)
      (ownOf i pairPlan) := by
    intro i
    cases i <;> exact ⟨rfl, rfl, trivial⟩
  have hfits : pair.Fits pairPlan := by
    intro bound hbound
    cases hbound
    decide
  have hsame := hosts_do_not_interfere pair pairNames (some 2) false (fun _ => pair.trail.around)
    pairPlan rfl hdistinct hnamed hbears hfits true
  exact ⟨by decide, hsame.1.1, hsame.1.2.1 (.int 1) .null⟩

end Fleet

end

end HostLifecycle.Reconciliation
