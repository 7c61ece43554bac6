import HostLifecycle.Audit.Recorder
import HostLifecycle.Proofs.Storage.Folders

/-!
What a save may end in. Where a path can be asked for, so can the folders above it and the second
file beside it. Then it is only the file system that fails when a text is saved, and a recorder
tells such a failure and goes on.
-/

namespace HostLifecycle

/-- A property of all code points of joined texts is one of the texts, and of what joins them. -/
theorem forall_mem_joinWith {property : CodePoint → Prop} {separator : Text}
    (hseparator : ∀ point ∈ separator, property point) (parts : List Text) :
    (∀ point ∈ Value.joinWith separator parts, property point) ↔
      ∀ part ∈ parts, ∀ point ∈ part, property point := by
  induction parts with
  | nil => simp [Value.joinWith, Text.ofString, Text.ofChars]
  | cons first rest ih =>
    cases rest with
    | nil => simp [Value.joinWith]
    | cons next rest =>
      rw [List.forall_mem_cons (l := next :: rest), ← ih, Value.joinWith, List.forall_mem_append,
        List.forall_mem_append]
      · exact ⟨fun h => ⟨h.1.1, h.2⟩, fun h => ⟨⟨h.1, hseparator⟩, h.2⟩⟩
      · simp

namespace Storage

open Attempt

namespace Path

/-- The text of a path can be stored if its root can and each of its names. -/
theorem isWhole_text {path : Path} :
    path.text.isWhole = true ↔
      path.root.isWhole = true ∧ ∀ name ∈ path.names, name.isWhole = true := by
  have hslash : ∀ point ∈ ("/" : Text), point.char?.isSome = true := by decide
  simp only [Text.isWhole_iff]
  by_cases hempty : (path.root == "" && path.names.isEmpty) = true
  · have hdot : ∀ point ∈ ("." : Text), point.char?.isSome = true := by decide
    rw [text, if_pos hempty]
    simp only [Bool.and_eq_true, beq_iff_eq, List.isEmpty_iff] at hempty
    rw [hempty.1, hempty.2]
    exact ⟨fun _ => ⟨fun _ hnone => absurd hnone List.not_mem_nil,
      fun _ hnone => absurd hnone List.not_mem_nil⟩, fun _ => hdot⟩
  · rw [text, if_neg hempty, List.forall_mem_append, forall_mem_joinWith hslash]

/-- A name without its extension is a beginning of the name. -/
theorem stemOf_prefix (name : Text) : stemOf name <+: name := by
  rw [stemOf]
  split
  · exact List.take_prefix _ _
  · exact List.prefix_rfl

end Path

namespace Disk

variable {path second : Path}

/-- Whether a code point may stand in the name of a file. -/
def IsFilePoint (point : CodePoint) : Prop := point.char?.isSome = true ∧ point ≠ .char '\x00'

/-- Whether a path can be asked for is told from the code points of its names. -/
theorem usable_iff : unusable? path = none ↔ path.root.isWhole = true ∧
    ∀ name ∈ path.names, ∀ point ∈ name, IsFilePoint point := by
  have hnames : (∀ name ∈ path.names, ∀ point ∈ name, IsFilePoint point) ↔
      (∀ name ∈ path.names, name.isWhole = true) ∧ path.hasNull = false := by
    have hnull : path.hasNull = false ↔ ∀ name ∈ path.names, ∀ point ∈ name,
        point ≠ .char '\x00' := by
      simp only [Path.hasNull, List.any_eq_false, List.contains_iff_mem]
      exact ⟨fun h name hname point hpoint heq => h name hname (heq ▸ hpoint),
        fun h name hname hmem => h name hname _ hmem rfl⟩
    simp only [hnull, Text.isWhole_iff, IsFilePoint]
    exact ⟨fun h => ⟨fun name hname point hpoint => (h name hname point hpoint).1,
        fun name hname point hpoint => (h name hname point hpoint).2⟩,
      fun h name hname point hpoint => ⟨h.1 name hname point hpoint, h.2 name hname point hpoint⟩⟩
  rw [hnames, ← and_assoc, ← Path.isWhole_text, unusable?]
  cases path.text.isWhole <;> cases path.hasNull <;> simp

theorem usable_parent (h : unusable? path = none) : unusable? path.parent = none := by
  rw [usable_iff] at h ⊢
  exact ⟨h.1, fun name hname => h.2 name (List.dropLast_subset _ hname)⟩

theorem usable_withExtension {extension : Text}
    (hextension : ∀ point ∈ extension, IsFilePoint point)
    (h : unusable? path = none) (hsecond : path.withExtension? extension = some second) :
    unusable? second = none := by
  rw [Path.withExtension?] at hsecond
  split at hsecond
  · cases hsecond
  next hname =>
    cases hsecond
    rw [usable_iff] at h ⊢
    refine ⟨h.1, ?_⟩
    rw [List.forall_mem_append, List.forall_mem_singleton, List.forall_mem_append]
    refine ⟨fun name hmem => h.2 name (List.dropLast_subset _ hmem), ?_, hextension⟩
    intro point hpoint
    have hmem := (Path.stemOf_prefix _).subset hpoint
    cases hlast : path.names.getLast? with
    | none =>
      rw [Path.name, hlast] at hmem
      cases hmem
    | some name =>
      rw [Path.name, hlast] at hmem
      exact h.2 name (List.mem_of_getLast? hlast) point hmem

end Disk

/-- Whether a fault is a failure of the file system. -/
def IsFileFault (fault : Fault) : Prop := ∃ error, fault = .file error

namespace Disk

variable {path second : Path}

theorem fails_makeFolder (h : unusable? path = none) : Fails IsFileFault (makeFolder path) := by
  intro disk fault hfault
  simp only [runOn, makeFolder, ExceptT.run, h] at hfault
  split at hfault
  next hsome => cases hsome
  · cases hfault
    exact ⟨_, rfl⟩
  · split at hfault
    · cases hfault
      exact ⟨_, rfl⟩
    · split at hfault
      · cases hfault
        exact ⟨_, rfl⟩
      · cases hfault

theorem fails_acceptFolder {result : Except Fault Unit}
    (h : ∀ fault, result = .error fault → IsFileFault fault) :
    Fails IsFileFault (acceptFolder path result) := by
  intro disk fault hfault
  simp only [runOn, acceptFolder, ExceptT.run] at hfault
  split at hfault
  · split at hfault
    · cases hfault
    · cases hfault
      exact ⟨_, rfl⟩
  · exact h fault hfault

theorem fails_makeFolders (names : Nat) (h : unusable? path = none) :
    Fails IsFileFault (makeFolders names path) := by
  induction names generalizing path with
  | zero => exact (fails_makeFolder h).settled_bind fun _ => fails_acceptFolder
  | succ names ih =>
    refine (fails_makeFolder h).settled_bind fun result hresult => ?_
    split
    · refine (ih (usable_parent h)).bind fun _ => ?_
      refine (fails_makeFolder h).settled_bind fun again hagain => ?_
      split
      · exact fails_ofExcept hagain
      · exact fails_acceptFolder hagain
    · exact fails_acceptFolder hresult

theorem fails_write (h : unusable? path = none) (content : ByteArray) :
    Fails IsFileFault (write path content) := by
  refine Fails.bind (fun disk fault hfault => ?_) fun place disk fault hfault => ?_
  · simp only [runOn, openForWriting, openFile, ExceptT.run, h] at hfault
    split at hfault
    next hsome => cases hsome
    · cases hfault
      exact ⟨_, rfl⟩
    · split at hfault
      · cases hfault
        exact ⟨_, rfl⟩
      · split at hfault
        · cases hfault
          exact ⟨_, rfl⟩
        · cases hfault
  · simp only [runOn, fill, ExceptT.run] at hfault
    split at hfault
    · cases hfault
      exact ⟨_, rfl⟩
    · cases hfault

theorem fails_replace (hsource : unusable? path = none) (htarget : unusable? second = none) :
    Fails IsFileFault (replace path second) := by
  intro disk fault hfault
  simp only [runOn, replace, ExceptT.run, hsource, htarget, Option.or] at hfault
  split at hfault
  next hsome => cases hsome
  · cases hfault
    exact ⟨_, rfl⟩
  · cases hfault
    exact ⟨_, rfl⟩
  · split at hfault
    · cases hfault
      exact ⟨_, rfl⟩
    · cases hfault
      exact ⟨_, rfl⟩
    · cases hfault
      exact ⟨_, rfl⟩
    · split at hfault
      · cases hfault
        exact ⟨_, rfl⟩
      · split at hfault <;> cases hfault

/-- Only the file system fails where a text is saved at a path that can be asked for and has a
name. -/
theorem fails_replaceFile (h : unusable? path = none) (hname : path.name ≠ "") (text : String) :
    Fails IsFileFault (Audit.Trail.replaceFile path text) := by
  refine (fails_makeFolders _ (usable_parent h)).bind fun _ => ?_
  obtain ⟨second, hsecond⟩ : ∃ second, path.withExtension? ".tmp" = some second :=
    ⟨_, if_neg (by simpa using hname)⟩
  rw [hsecond]
  have husable := usable_withExtension (by unfold IsFilePoint; decide) h hsecond
  exact (fails_write husable _).bind fun _ => fails_replace husable h

/-- A path that is read can be asked for and has names. -/
theorem usable_of_read {disk : Disk} {content : ByteArray} (h : disk.read path = .ok content) :
    unusable? path = none ∧ path.names ≠ [] := by
  rw [read] at h
  split at h
  · cases h
  next husable hentry =>
    refine ⟨husable, fun hnames => ?_⟩
    obtain ⟨place, hlocate, hentry⟩ := exists_of_bind_ok hentry
    have hplace : place = [] ∨ place = [rootName] := by
      rw [locate, hnames] at hlocate
      split at hlocate
      · cases hlocate
      · cases hlocate
        split
        · exact Or.inl rfl
        · exact Or.inr rfl
    have hfolder : disk.standing? place = some .folder := by
      rcases hplace with rfl | rfl <;> rfl
    rw [hfolder] at hentry
    cases hentry
  · cases h
  · cases h

/-- A path that is read from a text has a last name that is not empty. -/
theorem name_of_read {disk : Disk} {content : ByteArray} {text : Text}
    (h : disk.read (Path.ofText text) = .ok content) : (Path.ofText text).name ≠ "" := by
  cases hlast : (Path.ofText text).names.getLast? with
  | none => exact absurd (List.getLast?_eq_none_iff.mp hlast) (usable_of_read h).2
  | some last =>
    have hkept := (List.mem_filter.mp (List.mem_of_getLast? hlast)).2
    rw [Bool.and_eq_true, bne_iff_ne] at hkept
    rw [Path.name, hlast]
    exact hkept.1

end Disk

end Storage

end HostLifecycle
