import HostLifecycle.Proofs.Reconciliation.Storing
import HostLifecycle.Proofs.Twin

/-!
Ways of driving a host. The passes over it may all be made by one machine, or each by a machine
of its own, and the host may be put anew from its stored record between any two steps. None of
this shows in what the steps come to or in what surrounds the host behind them: a machine keeps
nothing from one pass to the next one that a pass looks at, and nothing that a pass looks at is
lost where the record is stored and read back.
-/

namespace HostLifecycle.Reconciliation

open Attempt HostRecord

/-- The step that stands for another one where one machine makes all passes and the host is
never put anew: every pass is its own, and a reload is left out. -/
def Step.lasting : Step → Option Step
  | .reload => none
  | .tickOnce => some .tick
  | step => some step

namespace Machine

/-- Two machines that differ at most in the state that the latest pass decided on. -/
def Same (machine machine' : Machine) : Prop :=
  ∃ latest, machine' = { machine with latest := latest }

theorem Same.refl (machine : Machine) : Same machine machine :=
  ⟨machine.latest, rfl⟩

theorem Same.trans {first second third : Machine} (h : Same first second)
    (h' : Same second third) : Same first third := by
  obtain ⟨latest, rfl⟩ := h
  obtain ⟨latest', rfl⟩ := h'
  exact ⟨latest', rfl⟩

theorem Same.site {machine machine' : Machine} (h : Same machine machine') :
    machine'.site = machine.site := by
  obtain ⟨latest, rfl⟩ := h
  rfl

theorem lockstep_onSite {α : Type} (action : Attempt Site α) :
    Twin Same Eq (onSite action) (onSite action) := by
  rintro machine _ ⟨latest, rfl⟩
  exact ⟨paired_eq _, latest, rfl⟩

theorem lockstep_change {f : Machine → Machine}
    (hf : ∀ machine latest, ∃ latest', f { machine with latest := latest } =
      { f machine with latest := latest' }) : Twin Same Eq (change f) (change f) := by
  rintro machine _ ⟨latest, rfl⟩
  exact ⟨.ok rfl, hf machine latest⟩

theorem lockstep_tick : Twin Same Eq tick tick := by
  rintro machine _ ⟨latest, rfl⟩
  exact ⟨paired_eq _, (tick.runOn machine).2.latest, rfl⟩

/-- A pass comes to the same in a machine that is made for it alone. -/
theorem lockstep_tickOnce : Twin Same Eq tick tickOnce := by
  rintro machine _ ⟨latest, rfl⟩
  exact ⟨paired_eq _, latest, rfl⟩

theorem lockstep_attempt (part : Part) (next : Option State) :
    Twin Same Eq (attempt part next) (attempt part next) := by
  rintro machine _ ⟨latest, rfl⟩
  exact ⟨paired_eq _, latest, rfl⟩

theorem lockstep_require (keys : Value) : Twin Same Eq (require keys) (require keys) := by
  unfold require
  split
  · exact lockstep_change fun machine latest => ⟨latest, rfl⟩
  · exact twin_fail _

theorem lockstep_validate (kind : Value) (credential : Option Credential) :
    Twin Same Eq (validate kind credential) (validate kind credential) := by
  apply (twin_ofExcept (paired_eq (CredentialKind.ofValue kind))).then
  intro kind
  apply twin_get_bind
  rintro machine _ ⟨latest, rfl⟩
  exact lockstep_onSite _

theorem lockstep_failure (errorType message : Value) :
    Twin Same Eq (fail errorType message) (fail errorType message) := by
  apply (twin_ofExcept (paired_eq (ErrorType.ofValue errorType))).then
  exact fun _ => lockstep_onSite _

theorem lockstep_reoffer (offered : Offer → Offer) :
    Twin Same Eq (change (reoffer offered)) (change (reoffer offered)) := by
  apply lockstep_change
  intro machine latest
  refine ⟨latest, ?_⟩
  unfold reoffer
  cases machine.site.source <;> simp

/-- Behind a result two computations answer with it. -/
theorem lockstep_answer {α : Type} {action action' : Attempt Machine α}
    (h : Twin Same Eq action action') (answer : α → StepResult) :
    Twin Same Eq (do pure (answer (← action))) (do pure (answer (← action'))) :=
  h.then fun _ => twin_pure rfl

/-- A step comes to the same as the one that stands for it. -/
theorem lockstep_lasting {step lasting : Step} (h : step.lasting = some lasting) :
    Twin Same Eq lasting.perform step.perform := by
  cases step with
  | reload => cases h
  | tick => cases h; exact lockstep_answer lockstep_tick _
  | tickOnce => cases h; exact lockstep_answer lockstep_tickOnce _
  | attempt part next => cases h; exact lockstep_answer (lockstep_attempt part next) _
  | offer change => cases h; exact lockstep_reoffer change
  | require keys => cases h; exact lockstep_require keys
  | validate kind credential => cases h; exact lockstep_answer (lockstep_validate kind credential) _
  | fail errorType message => cases h; exact lockstep_answer (lockstep_failure errorType message) _
  | script | judge | setVariables => cases h; exact lockstep_change fun _ latest => ⟨latest, rfl⟩
  | fetch | remember | edit => cases h; exact lockstep_answer (lockstep_onSite _) _

/-- A host that can be put anew is put anew as it is, or not at all. -/
theorem Stores.same_reload {machine : Machine} (h : machine.Stores) :
    Same machine (machine.after .reload) := by
  rcases after_reload machine with ⟨host, hreloaded, hafter⟩ | hafter
  · have hsame : host = machine.site.host := by
      rcases h.site.record.reloaded_eq with hread | ⟨fault, hread⟩
      · exact Except.ok.inj (hreloaded.symm.trans hread)
      · cases hreloaded.symm.trans hread
    rw [hafter, hsame]
    exact ⟨machine.site.host.state, rfl⟩
  · rw [hafter]
    exact Same.refl machine

/-- What the steps of a plan come to, one after the other, and what surrounds the host behind
each of them. Of a reload nothing is told. -/
def reports : Machine → List Step → List (Except Fault StepResult × Site)
  | _, [] => []
  | machine, step :: rest =>
    let run := step.perform.runOn machine
    match step.lasting with
    | none => reports run.2 rest
    | some _ => (run.1, run.2.site) :: reports run.2 rest

def behind (machine : Machine) (plan : List Step) : Machine := plan.foldl after machine

/-- Whether each step of a script may be taken where the steps before it have led. -/
def Lawful : Machine → List Step → Prop
  | _, [] => True
  | machine, step :: rest => machine.Allows step ∧ (machine.after step).Lawful rest

theorem Lawful.left {machine : Machine} {before rest : List Step}
    (h : machine.Lawful (before ++ rest)) : machine.Lawful before := by
  induction before generalizing machine with
  | nil => trivial
  | cons step before ih =>
    obtain ⟨hallowed, hbehind⟩ := h
    exact ⟨hallowed, ih hbehind⟩

theorem reports_of_lasting {step lasting : Step} (h : step.lasting = some lasting)
    (machine : Machine) (rest : List Step) :
    machine.reports (step :: rest) =
      ((step.perform.runOn machine).1, (machine.after step).site) ::
        (machine.after step).reports rest := by
  simp [reports, h, after]

theorem reports_reload (machine : Machine) (rest : List Step) :
    machine.reports (.reload :: rest) = (machine.after .reload).reports rest := rfl

theorem eq_reload_of_lasting {step : Step} (h : step.lasting = none) : step = .reload := by
  cases step <;> first | rfl | cases h

/-- Steps that stand for themselves have nothing else that stands for them. -/
theorem lasting_lasting {step lasting : Step} (h : step.lasting = some lasting) :
    lasting.lasting = some lasting := by
  cases step <;> cases h <;> rfl

variable {machine driven : Machine} {plan : List Step}

theorem Same.stores (hsame : Same machine driven) (h : machine.Stores) : driven.Stores := by
  obtain ⟨latest, rfl⟩ := hsame
  exact ⟨h.site, h.keys⟩

/-- A machine that is driven along a plan stays where a machine stands that follows the
script. -/
theorem Same.behind (hsame : Same machine driven) (hstores : machine.Stores)
    (hlawful : machine.Lawful (plan.filterMap Step.lasting)) :
    Same (machine.behind (plan.filterMap Step.lasting)) (driven.behind plan) ∧
      (machine.behind (plan.filterMap Step.lasting)).Stores := by
  induction plan generalizing machine driven with
  | nil => exact ⟨hsame, hstores⟩
  | cons step rest ih =>
    cases hlasting : step.lasting with
    | none =>
      rw [List.filterMap_cons_none hlasting] at hlawful ⊢
      cases eq_reload_of_lasting hlasting
      exact ih (hsame.trans (hsame.stores hstores).same_reload) hstores hlawful
    | some lasting =>
      rw [List.filterMap_cons_some hlasting] at hlawful ⊢
      obtain ⟨hallowed, hrest⟩ := hlawful
      have hmatched := lockstep_lasting hlasting machine driven hsame
      exact ih hmatched.behind (hstores.after hallowed) hrest

/-- What is reported along a plan is what is reported along the script. -/
theorem Same.reports_eq (hsame : Same machine driven) (hstores : machine.Stores)
    (hlawful : machine.Lawful (plan.filterMap Step.lasting)) :
    driven.reports plan = machine.reports (plan.filterMap Step.lasting) := by
  induction plan generalizing machine driven with
  | nil => rfl
  | cons step rest ih =>
    cases hlasting : step.lasting with
    | none =>
      rw [List.filterMap_cons_none hlasting] at hlawful ⊢
      cases eq_reload_of_lasting hlasting
      rw [reports_reload]
      exact ih (hsame.trans (hsame.stores hstores).same_reload) hstores hlawful
    | some lasting =>
      rw [List.filterMap_cons_some hlasting] at hlawful ⊢
      obtain ⟨hallowed, hrest⟩ := hlawful
      have hmatched := lockstep_lasting hlasting machine driven hsame
      have hbehind : Same (machine.after lasting) (driven.after step) := hmatched.behind
      rw [reports_of_lasting hlasting, reports_of_lasting (lasting_lasting hlasting),
        ih hbehind (hstores.after hallowed) hrest, hbehind.site, hmatched.result.eq]

/-- Where the count of errors can be read, a host that can be put anew is put anew. -/
theorem Stores.runOn_reload (h : machine.Stores) {n : Int} {value : Value}
    (hcount : machine.site.host.errorCount = .int n) (hdigits : Json.readBackInt n = .ok value) :
    Step.reload.perform.runOn machine =
      (.ok .done, { machine with latest := machine.site.host.state }) := by
  have hreloaded := h.site.record.reloaded_of_count hcount hdigits
  have hreload : reload.runOn machine =
      (.ok (), { machine with latest := machine.site.host.state }) := by
    simp only [runOn, reload, ExceptT.run, hreloaded]
  rw [Step.perform, runOn_bind_ok hreload]
  rfl

/-- However a host is driven, it shows nothing of it. Take any plan of steps, in which every
pass may be made by the machine or by one that is made for it alone, and the host may be put anew
from its stored record anywhere: every step comes to the same result as in the machine that makes
all passes and never puts the host anew, and behind every step the record, the audit trail, the
journal, the source of the credentials, the calls of the actions and the number of fetches are
the same. The host is put anew wherever the plan says so and its count of errors has no more
digits than are read. All texts that are stored on the way are read back as they were written: in
none of them a pair is split into its halves. -/
theorem driving_unseen {start : Machine} {plan : List Step} (hstart : start.Stores)
    (hlawful : start.Lawful (plan.filterMap Step.lasting)) :
    start.reports plan = start.reports (plan.filterMap Step.lasting) ∧
    ∀ before rest, plan = before ++ .reload :: rest →
      ∀ n value, (start.behind before).site.host.errorCount = .int n →
        Json.readBackInt n = .ok value →
        Step.reload.perform.runOn (start.behind before) =
          (.ok .done,
            { start.behind before with latest := (start.behind before).site.host.state }) := by
  refine ⟨(Same.refl start).reports_eq hstart hlawful, ?_⟩
  rintro before rest rfl n value hcount hdigits
  rw [List.filterMap_append] at hlawful
  obtain ⟨hsame, hstores⟩ := (Same.refl start).behind hstart hlawful.left
  exact (hsame.stores hstores).runOn_reload hcount hdigits

/-- A host whose preparation breaks off, and on which a failure, a credential, the withdrawal of
the image and the request of its deletion are noted then, is torn down alike, though a machine of
its own makes the first pass and the host is put anew behind it. -/
theorem driving_unseen_preparing :
    let start := fresh { HostRecord.new (.str "host") with
      state := .preparing, installImage := .known ⟨.str "image", .null⟩ }
    let broken : Step := .script .preparing [⟨[], .error .wrongType⟩]
    let noted : List Step := [.edit (.setError (.str ErrorType.preparation.text) (.str "halted")),
      .edit (.update .os (some ⟨.str "key", .object []⟩)),
      .edit (.assign "install_image" .null), .edit .requestDeletion]
    start.reports ([broken, .tickOnce, .reload] ++ noted ++ [.tick]) =
        start.reports ([broken, .tick] ++ noted ++ [.tick]) ∧
      (Step.reload.perform.runOn (start.behind [broken, .tickOnce])).1 = .ok .done := by
  intro start broken noted
  have hwritten : ∀ s : String, (Text.ofString s).Unsplit := fun _ => Text.unsplit_ofChars _
  have himage : InstallImage.Storable ⟨.str "image", .null⟩ :=
    ⟨⟨⟨_, rfl⟩, Or.inl rfl⟩, Value.unsplit_str.mpr (hwritten _), rfl⟩
  have hrecord : start.site.host.Storable :=
    ((storable_new (hwritten _)).withImage (Or.inr ⟨_, rfl, himage⟩)).atState .preparing false
  have hstart : start.Stores :=
    ⟨⟨hrecord, fun _ _ h => absurd h List.not_mem_nil⟩, fun _ h => absurd h List.not_mem_nil⟩
  have hbroken : ∀ behaviour ∈ ([⟨[], .error .wrongType⟩] : List Behaviour),
      behaviour.Upholds Storable := by
    intro behaviour hmember host h
    rw [List.mem_singleton.mp hmember]
    exact h
  have hwithdrawn : ∀ held, RecordStep.imageGiven .null = .ok held → held.IsStorable := by
    intro held hheld
    cases hheld
    exact Or.inl rfl
  have hkey : ∀ found, some (⟨.str "key", .object []⟩ : Credential) = some found →
      found.Storable := by
    intro found hfound
    cases hfound
    have htexts : ∀ entries, Value.object [] ≠ .mapping entries := fun _ => nofun
    refine ⟨⟨⟨_, rfl⟩, ?_, htexts⟩, Value.unsplit_str.mpr (hwritten _), ?_⟩ <;>
      rintro fields ⟨⟩
    · exact List.nodup_nil
    · exact fun _ h => absurd h List.not_mem_nil
  have hanswer : ∀ machine : Machine, machine.site.answer = .ok (none, none) →
      machine.site.AnswersStorable := by
    intro machine hnull os rescue hsome
    rw [hnull] at hsome
    cases hsome
    exact ⟨fun _ h => absurd h (by simp), fun _ h => absurd h (by simp)⟩
  have hlawful : start.Lawful
      (([broken, .tickOnce, .reload] ++ noted ++ [Step.tick]).filterMap Step.lasting) :=
    ⟨.script _ _ hbroken, .pass .tick (hanswer _ rfl),
      .edit _ (RecordStep.storable_setError _ (hwritten _)),
      .edit _ (RecordStep.storable_update .os hkey),
      .edit _ (RecordStep.storable_setImage hwithdrawn),
      .edit _ RecordStep.storable_requestDeletion, .pass .tick (hanswer _ rfl), trivial⟩
  obtain ⟨hreports, hreload⟩ := driving_unseen hstart hlawful
  refine ⟨hreports, ?_⟩
  rw [hreload [broken, .tickOnce] _ rfl 0 (.int 0) rfl rfl]

end Machine

end HostLifecycle.Reconciliation
