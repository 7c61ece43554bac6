import HostLifecycle.Proofs.Settings.Gathering
import HostLifecycle.Settings.App

/-!
What is wrong with settings, and where. All settings of a group are read before an issue is
reported, so every issue leads to a setting of the group, or to the group where its settings do not
go together. Settings that are read have passed the check of their group, however they were given.
-/

namespace HostLifecycle.Settings

open Attempt

/-- Where an issue with a group may be: at one of its settings, or at none. -/
def IsPlace (settings : List Text) (location : List Text) : Prop :=
  ∃ setting ∈ settings, location.Sublist [setting]

namespace Checked

variable {α β : Type} {valid : α → Prop} {valid' : β → Prop} {place : List Text → Prop}

/-- What is read is valid, or there are issues and each of them is at a place. -/
def IsSound (valid : α → Prop) (place : List Text → Prop) : Checked α → Prop
  | .ok found => valid found
  | .error issues => issues ≠ [] ∧ ∀ issue ∈ issues, place issue.location

theorem IsSound.imp {place' : List Text → Prop} {checked : Checked α}
    (h : checked.IsSound valid place) (hplace : ∀ location, place location → place' location) :
    checked.IsSound valid place' := by
  cases checked with
  | ok found => exact h
  | error issues => exact ⟨h.1, fun issue hissue => hplace _ (h.2 issue hissue)⟩

/-- A function that is applied to what is read keeps the issues of both. -/
theorem IsSound.apply {function : Checked (α → β)} {argument : Checked α}
    (hfunction : function.IsSound (fun f => ∀ found, valid found → valid' (f found)) place)
    (hargument : argument.IsSound valid place) :
    (Checked.apply function argument).IsSound valid' place := by
  rcases function with issues | f <;> rcases argument with others | found
  · obtain ⟨hsome, hissues⟩ := hfunction
    refine ⟨fun hnone => hsome (List.append_eq_nil_iff.mp hnone).1, ?_⟩
    exact List.forall_mem_append.mpr ⟨hissues, hargument.2⟩
  · exact hfunction
  · exact hargument
  · exact hfunction found hargument

end Checked

namespace Given

variable {place : List Text → Prop}

theorem isSound_read {α : Type} {valid : α → Prop} (given : Given) {name : Text}
    {reader : Value → Except IssueCause α} {default : α} (hplace : place [name])
    (hdefault : valid default) (hreader : ∀ value found, reader value = .ok found → valid found) :
    (given.read name reader default).IsSound valid place := by
  unfold Given.read
  split
  · exact hdefault
  next value _ =>
    split
    next found hread => exact hreader value found hread
    next => exact ⟨List.cons_ne_nil _ _, List.forall_mem_singleton.mpr hplace⟩

/-- A text that is read is one of characters. -/
theorem isSound_readText (given : Given) {name default : Text} (hplace : place [name])
    (hdefault : default.isWhole = true) :
    (given.read name readText default).IsSound (·.isWhole = true) place := by
  refine given.isSound_read hplace hdefault fun value found hread => ?_
  unfold readText at hread
  split at hread
  · split at hread
    next hwhole =>
      cases hread
      exact hwhole
    next => cases hread
  · cases hread

theorem isSound_readAny {α : Type} (given : Given) {name : Text}
    (reader : Value → Except IssueCause α) (default : α) (hplace : place [name]) :
    (given.read name reader default).IsSound (fun _ => True) place :=
  given.isSound_read hplace trivial fun _ _ _ => trivial

end Given

/-- Settings whose texts are texts of characters. -/
structure LogSettings.IsValid (settings : LogSettings) : Prop where
  level : settings.level.isWhole = true
  file : settings.file.isWhole = true

structure VaultSettings.IsWhole (settings : VaultSettings) : Prop where
  addr : settings.addr.isWhole = true
  token : settings.token.isWhole = true
  roleId : settings.roleId.isWhole = true
  secretId : settings.secretId.isWhole = true
  mountPath : settings.mountPath.isWhole = true
  space : settings.space.isWhole = true

/-- Settings that passed their check: if the server is asked at all there is a way to
authenticate. -/
structure VaultSettings.IsValid (settings : VaultSettings) : Prop where
  whole : settings.IsWhole
  check : settings.check = .ok settings

structure SshSettings.IsValid (settings : SshSettings) : Prop where
  osSecretPath : settings.osSecretPath.isWhole = true
  rescueSecretPath : settings.rescueSecretPath.isWhole = true
  requiredKeys : ∀ key ∈ settings.requiredKeys, key.isWhole = true

structure EventSettings.IsValid (settings : EventSettings) : Prop where
  logFile : settings.logFile.isWhole = true

/-- Every way to read the settings of a group comes to valid ones or to issues with the group. -/
def SettingsGroup.IsSound {α : Type} (group : SettingsGroup α) (valid : α → Prop) : Prop :=
  ∀ given, (group.build given).IsSound valid (IsPlace group.settings)

theorem isPlace_of_mem {settings : List Text} {name : Text} (h : name ∈ settings) :
    IsPlace settings [name] := ⟨name, h, List.Sublist.refl _⟩

theorem isSound_logging : SettingsGroup.logging.IsSound LogSettings.IsValid := by
  intro given
  have hplace : ∀ name ∈ SettingsGroup.logging.settings, IsPlace _ [name] :=
    fun _ => isPlace_of_mem
  refine (((Checked.IsSound.apply ?_
    (given.isSound_readText (hplace "level" (by decide)) rfl)).apply
    (given.isSound_readAny _ _ (hplace "format" (by decide)))).apply
    (given.isSound_readText (hplace "file" (by decide)) rfl))
  exact fun level hlevel _ _ file hfile => ⟨hlevel, hfile⟩

theorem isSound_ssh : SettingsGroup.ssh.IsSound SshSettings.IsValid := by
  intro given
  have hplace : ∀ name ∈ SettingsGroup.ssh.settings, IsPlace _ [name] := fun _ => isPlace_of_mem
  refine (((((Checked.IsSound.apply ?_
    (given.isSound_readText (hplace "os_secret_path" (by decide)) rfl)).apply
    (given.isSound_readText (hplace "rescue_secret_path" (by decide)) rfl)).apply
    (given.isSound_readText (hplace "name_key" (by decide)) rfl)).apply
    (given.isSound_readText (hplace "public_key_key" (by decide)) rfl)).apply
    (given.isSound_readText (hplace "private_key_key" (by decide)) rfl))
  intro _ hos _ hrescue _ hname _ hpublic _ hprivate
  refine ⟨hos, hrescue, ?_⟩
  simp [SshSettings.requiredKeys, hname, hpublic, hprivate]

theorem isSound_events : SettingsGroup.events.IsSound EventSettings.IsValid := by
  intro given
  have hplace : ∀ name ∈ SettingsGroup.events.settings, IsPlace _ [name] :=
    fun _ => isPlace_of_mem
  refine (((Checked.IsSound.apply ?_
    (given.isSound_readText (hplace "log_file" (by decide)) rfl)).apply
    (given.isSound_readAny _ _ (hplace "max_events" (by decide)))).apply
    (given.isSound_readAny _ _ (hplace "redaction_enabled" (by decide))))
  exact fun _ hfile _ _ _ _ => ⟨hfile⟩

/-- Settings of the server that are checked stay as they are, or there is an issue with all of
them. -/
theorem isSound_check {place : List Text → Prop} (hplace : place []) {settings : VaultSettings}
    (h : settings.IsWhole) : settings.check.IsSound VaultSettings.IsValid place := by
  have hcheck : settings.check = .error [⟨[], .missingVaultAuthentication⟩] ∨
      settings.check = .ok settings := by
    unfold VaultSettings.check
    split
    · exact Or.inl rfl
    · exact Or.inr rfl
  rcases hcheck with hrefused | hpassed
  · rw [hrefused]
    exact ⟨List.cons_ne_nil _ _, List.forall_mem_singleton.mpr hplace⟩
  · have hvalid : settings.IsValid := ⟨h, hpassed⟩
    rw [hpassed]
    exact hvalid

theorem isSound_vault : SettingsGroup.vault.IsSound VaultSettings.IsValid := by
  intro given
  have hplace : ∀ name ∈ SettingsGroup.vault.settings, IsPlace _ [name] := fun _ => isPlace_of_mem
  change (VaultSettings.build given).IsSound _ _
  rw [VaultSettings.build]
  generalize hread : Checked.apply _ _ = checked
  have hwhole : checked.IsSound VaultSettings.IsWhole (IsPlace SettingsGroup.vault.settings) := by
    rw [← hread]
    refine (((((((Checked.IsSound.apply ?_
      (given.isSound_readAny _ _ (hplace "enabled" (by decide)))).apply
      (given.isSound_readText (hplace "addr" (by decide)) rfl)).apply
      (given.isSound_readText (hplace "token" (by decide)) rfl)).apply
      (given.isSound_readText (hplace "role_id" (by decide)) rfl)).apply
      (given.isSound_readText (hplace "secret_id" (by decide)) rfl)).apply
      (given.isSound_readText (hplace "mount_path" (by decide)) rfl)).apply
      (given.isSound_readText (hplace "namespace" (by decide)) rfl))
    exact fun _ _ _ haddr _ htoken _ hrole _ hsecret _ hmount _ hspace =>
      ⟨haddr, htoken, hrole, hsecret, hmount, hspace⟩
  cases checked with
  | error issues => exact hwhole
  | ok settings => exact isSound_check ⟨"enabled", by decide, List.nil_sublist _⟩ hwhole

/-- A fault that tells of issues tells of at least one, and all of them are at places. -/
def IssuesAt (place : List Text → Prop) (fault : Fault) : Prop :=
  ∀ issues, fault = .settings issues → issues ≠ [] ∧ ∀ issue ∈ issues, place issue.location

theorem IsPlain.issuesAt {fault : Fault} (h : IsPlain fault) (place : List Text → Prop) :
    IssuesAt place fault :=
  fun issues hissues => absurd hissues (h issues)

theorem IssuesAt.imp {fault : Fault} {place place' : List Text → Prop} (h : IssuesAt place fault)
    (hplace : ∀ location, place location → place' location) : IssuesAt place' fault := by
  intro issues hissues
  obtain ⟨hsome, hplaces⟩ := h issues hissues
  exact ⟨hsome, fun issue hissue => hplace _ (hplaces issue hissue)⟩

theorem ends_settle {α : Type} {valid : α → Prop} {place : List Text → Prop} {checked : Checked α}
    (h : checked.IsSound valid place) : Ends valid (IssuesAt place)
      (Attempt.ofExcept (SettingsGroup.settle checked) : Reading α) := by
  cases checked with
  | ok found =>
    refine ends_ofExcept ?_ nofun
    rintro x ⟨⟩
    exact h
  | error issues =>
    refine ends_ofExcept nofun ?_
    rintro fault ⟨⟩ others hothers
    cases hothers
    exact h

namespace SettingsGroup

/-- Where an issue with a group of all settings may be: at a setting of it, with or without the
name of the group ahead, or at the group. -/
def IsPlaceWithin (name : Text) (settings : List Text) (location : List Text) : Prop :=
  ∃ setting ∈ settings, location.Sublist [name, setting]

variable {α : Type} {group : SettingsGroup α} {valid : α → Prop}

theorem IsSound.check (h : group.IsSound valid) (arguments : Fields Value) (sources : Sources) :
    Ends (·.IsSound valid (IsPlace group.settings)) IsPlain (group.check arguments sources) :=
  (fails_gather _ _ _ _).ends.bind fun given _ => ends_pure (h given)

/-- A group that is read comes to valid settings, or it is told what is wrong with which of them. -/
theorem IsSound.read (h : group.IsSound valid) (arguments : Fields Value) (sources : Sources) :
    Ends valid (IssuesAt (IsPlace group.settings)) (group.read arguments sources) :=
  ((h.check arguments sources).imp (fun _ => id) fun _ hplain => hplain.issuesAt _).bind
    fun _ => ends_settle

theorem isPlaceWithin_of_isPlace (name : Text) {settings location : List Text}
    (h : IsPlace settings location) : IsPlaceWithin name settings location := by
  obtain ⟨setting, hsetting, hlocation⟩ := h
  exact ⟨setting, hsetting, hlocation.cons name⟩

/-- Issues with a group are issues with all settings, seen from there. -/
theorem isSound_under {name : Text} {settings : List Text} {issues : List Issue}
    (h : Checked.IsSound valid (IsPlace settings) (.error issues)) :
    Checked.IsSound valid (IsPlaceWithin name settings)
      (.error (issues.map (Issue.under name))) := by
  obtain ⟨hsome, hissues⟩ := h
  refine ⟨fun hnone => hsome (List.map_eq_nil_iff.mp hnone), ?_⟩
  intro issue hissue
  obtain ⟨inner, hinner, rfl⟩ := List.mem_map.mp hissue
  obtain ⟨setting, hsetting, hlocation⟩ := hissues inner hinner
  exact ⟨setting, hsetting, hlocation.cons_cons name⟩

/-- An issue with a group as a whole. -/
theorem isSound_ofGroup {name : Text} {settings : List Text} (hsome : settings ≠ [])
    (cause : IssueCause) :
    Checked.IsSound valid (IsPlaceWithin name settings) (.error [⟨[name], cause⟩]) := by
  obtain ⟨first, rest, rfl⟩ := List.exists_cons_of_ne_nil hsome
  refine ⟨List.cons_ne_nil _ _, List.forall_mem_singleton.mpr ?_⟩
  exact ⟨first, List.mem_cons_self, (List.nil_sublist _).cons_cons name⟩

/-- What keeps from reading a group is an issue with it, or no issue at all. -/
theorem ends_issuesOf {name : Text} {settings : List Text} (hsome : settings ≠ [])
    {result : Except Fault (Checked α)}
    (hok : ∀ checked, result = .ok checked → checked.IsSound valid (IsPlace settings))
    (herror : ∀ fault, result = .error fault → IsPlain fault) :
    Ends (·.IsSound valid (IsPlaceWithin name settings)) IsPlain
      (Attempt.ofExcept (issuesOf name result) : Reading (Checked α)) := by
  unfold issuesOf
  split
  next issues =>
    refine ends_ofExcept ?_ nofun
    rintro checked ⟨⟩
    exact isSound_under (hok _ rfl)
  case h_2 | h_3 | h_4 =>
    refine ends_ofExcept ?_ nofun
    rintro checked ⟨⟩
    exact isSound_ofGroup hsome _
  case h_5 hissues _ _ _ =>
    refine ends_ofExcept ?_ herror
    intro checked hchecked
    rcases checked with issues | found
    · exact absurd hchecked (hissues issues)
    · exact hok _ hchecked

theorem plain_givenBy {source : Source} {bindings : Fields (Option Text)} {fault : Fault}
    (h : group.givenBy source bindings = .error fault) : IsPlain fault := by
  unfold givenBy at h
  split at h
  · split at h <;> cases h <;> exact nofun
  · cases h

section

variable {place : List Text → Prop}
  (hplace : ∀ location, IsPlaceWithin group.name group.settings location → place location)

include hplace

theorem IsSound.alone (h : group.IsSound valid) (sources : Sources) (value : Option Value) :
    Ends (fun known => ∀ settings, known = some settings → valid settings) (IssuesAt place)
      (group.alone sources value) := by
  cases value with
  | some value => exact ends_pure nofun
  | none =>
    have hread := (h.read [] sources).imp (fun _ => id) fun _ hissues =>
      hissues.imp fun location hlocation => hplace location (isPlaceWithin_of_isPlace _ hlocation)
    refine hread.bind fun settings hsettings => ends_pure ?_
    rintro other ⟨⟩
    exact hsettings

theorem IsSound.within (h : group.IsSound valid) (hsome : group.settings ≠ []) (sources : Sources)
    {known : Option α} (hknown : ∀ settings, known = some settings → valid settings)
    (value : Option Value) :
    Ends (·.IsSound valid place) (IssuesAt place) (group.within sources known value) := by
  unfold SettingsGroup.within
  split
  next settings => exact ends_pure (hknown settings rfl)
  next fields =>
    refine (h.check fields sources).settled.bind fun result hresult => ?_
    exact (ends_issuesOf hsome hresult.1 hresult.2).imp (fun _ hsound => hsound.imp hplace)
      fun _ hplain => hplain.issuesAt place
  next => exact ends_pure ((isSound_ofGroup hsome _).imp hplace)

end

end SettingsGroup

namespace AppSettings

/-- The groups of all settings, by their names, with the names of their settings. -/
def groups : List (Text × List Text) :=
  [(SettingsGroup.logging.name, SettingsGroup.logging.settings),
    (SettingsGroup.vault.name, SettingsGroup.vault.settings),
    (SettingsGroup.ssh.name, SettingsGroup.ssh.settings),
    (SettingsGroup.events.name, SettingsGroup.events.settings)]

def IsPlace (location : List Text) : Prop :=
  ∃ group ∈ groups, SettingsGroup.IsPlaceWithin group.1 group.2 location

structure IsValid (settings : AppSettings) : Prop where
  logging : settings.logging.IsValid
  vault : settings.vault.IsValid
  ssh : settings.ssh.IsValid
  events : settings.events.IsValid

theorem plain_ofSource {source : Source} {bindings : Fields (Option Text)} {fault : Fault}
    (h : Whole.ofSource source bindings = .error fault) : IsPlain fault := by
  rcases error_of_bind h with h | ⟨_, -, h⟩
  · exact SettingsGroup.plain_givenBy h
  rcases error_of_bind h with h | ⟨_, -, h⟩
  · exact SettingsGroup.plain_givenBy h
  rcases error_of_bind h with h | ⟨_, -, h⟩
  · exact SettingsGroup.plain_givenBy h
  rcases error_of_bind h with h | ⟨_, -, h⟩
  · exact SettingsGroup.plain_givenBy h
  · cases h

/-- However the settings are told, by variables of the process or of a file, one by one or in
groups, all settings that are read are valid: their texts are texts of characters, and a server that
is asked can be authenticated to. Where issues are told instead there is at least one, and each of
them is at one of the groups, at a setting of a group, or at one that is read alone. -/
theorem ends_read (sources : Sources) :
    Ends IsValid (IssuesAt IsPlace) (AppSettings.read sources) := by
  have hlogging : ∀ location, SettingsGroup.IsPlaceWithin SettingsGroup.logging.name
      SettingsGroup.logging.settings location → IsPlace location :=
    fun _ h => ⟨_, List.Mem.head _, h⟩
  have hvault : ∀ location, SettingsGroup.IsPlaceWithin SettingsGroup.vault.name
      SettingsGroup.vault.settings location → IsPlace location :=
    fun _ h => ⟨_, .tail _ (.head _), h⟩
  have hssh : ∀ location, SettingsGroup.IsPlaceWithin SettingsGroup.ssh.name
      SettingsGroup.ssh.settings location → IsPlace location :=
    fun _ h => ⟨_, .tail _ (.tail _ (.head _)), h⟩
  have hevents : ∀ location, SettingsGroup.IsPlaceWithin SettingsGroup.events.name
      SettingsGroup.events.settings location → IsPlace location :=
    fun _ h => ⟨_, .tail _ (.tail _ (.tail _ (.head _))), h⟩
  have hplain : ∀ fault, IsPlain fault → IssuesAt IsPlace fault := fun _ h => h.issuesAt _
  have hsource : ∀ source bindings, Ends (fun _ => True) (IssuesAt IsPlace)
      (Attempt.ofExcept (Whole.ofSource source bindings) : Reading Whole) := fun _ _ =>
    (fails_ofExcept fun fault h => hplain fault (plain_ofSource h)).ends
  have hencoding : ∀ fault, (Except.ok Text.Encoding.utf8 : Except Fault Text.Encoding) =
      .error fault → IsPlain fault := nofun
  have hfile : Ends (fun _ => True) (IssuesAt IsPlace)
      (fileBindings (.ok .utf8) sources envFile) :=
    (fails_fileBindings hencoding envFile).ends.imp (fun _ => id) hplain
  unfold AppSettings.read
  dsimp only
  refine hfile.bind fun inFile _ => ?_
  refine (hsource _ _).bind fun higher _ => (hsource _ _).bind fun lower _ => ?_
  -- the groups that are not given are read first, and then what the others leave open
  refine (isSound_logging.alone hlogging sources _).bind fun _ hlogging' => ?_
  refine (isSound_vault.alone hvault sources _).bind fun _ hvault' => ?_
  refine (isSound_ssh.alone hssh sources _).bind fun _ hssh' => ?_
  refine (isSound_events.alone hevents sources _).bind fun _ hevents' => ?_
  refine (isSound_logging.within hlogging nofun sources hlogging' _).bind fun _ hlogging => ?_
  refine (isSound_vault.within hvault nofun sources hvault' _).bind fun _ hvault => ?_
  refine (isSound_ssh.within hssh nofun sources hssh' _).bind fun _ hssh => ?_
  refine (isSound_events.within hevents nofun sources hevents' _).bind fun _ hevents => ?_
  refine ends_settle ((((Checked.IsSound.apply ?_ hlogging).apply hvault).apply hssh).apply hevents)
  exact fun _ hlogging _ hvault _ hssh _ hevents => ⟨hlogging, hvault, hssh, hevents⟩

end AppSettings

end HostLifecycle.Settings
