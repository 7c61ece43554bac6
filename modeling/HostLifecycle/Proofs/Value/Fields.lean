import HostLifecycle.Value

/-!
Fields that are looked up by their names, and fields that are put together from pairs. A pair whose
name is there already takes the place of the earlier one, so the names that result are all
different; pairs with different names stay as they are; and a change of all entries may be made
before or behind. Where the names are different, each one leads to what stands beside it.
-/

namespace HostLifecycle

namespace Fields

variable {α : Type}

theorem get?_of_mem {fields : Fields α} (hnames : fields.names.Nodup) {name : Text} {entry : α}
    (hmember : (name, entry) ∈ fields) : fields.get? name = some entry := by
  induction fields with
  | nil => cases hmember
  | cons field rest ih =>
    simp only [names, List.map_cons, List.nodup_cons] at hnames
    rcases List.mem_cons.mp hmember with rfl | hrest
    · simp [get?]
    · have hne : (field.1 == name) = false := by
        have hin : name ∈ rest.map (·.1) := List.mem_map.mpr ⟨_, hrest, rfl⟩
        simp only [beq_eq_false_iff_ne]
        intro heq
        exact hnames.1 (heq ▸ hin)
      have hstep := ih hnames.2 hrest
      simp only [get?] at hstep ⊢
      rw [List.find?_cons, hne]
      exact hstep

theorem exists_of_get? {fields : Fields α} {name : Text} {found : α}
    (h : fields.get? name = some found) : ∃ field ∈ fields, field.2 = found := by
  rw [get?, Option.map_eq_some_iff] at h
  obtain ⟨field, hfield, hfound⟩ := h
  exact ⟨field, List.mem_of_find?_eq_some hfield, hfound⟩

theorem get?_eq_some_iff {fields : Fields α} (hnames : fields.names.Nodup) {name : Text}
    {entry : α} : fields.get? name = some entry ↔ (name, entry) ∈ fields := by
  constructor
  · intro h
    rw [get?, Option.map_eq_some_iff] at h
    obtain ⟨field, hfield, rfl⟩ := h
    have hname : field.1 = name := by simpa using List.find?_some hfield
    rw [← hname]
    exact List.mem_of_find?_eq_some hfield
  · exact get?_of_mem hnames

theorem isSome_get?_iff {fields : Fields α} {name : Text} :
    (fields.get? name).isSome = true ↔ name ∈ fields.names := by
  simp [get?, names]

/-- The entries that are there, of fields that may have none. -/
def present (fields : Fields (Option α)) : Fields α :=
  fields.filterMap fun field => field.2.map fun entry => (field.1, entry)

theorem names_append (fields others : Fields α) :
    names (fields ++ others) = fields.names ++ others.names :=
  List.map_append

theorem present_append (fields others : Fields (Option α)) :
    present (fields ++ others) = fields.present ++ others.present :=
  List.filterMap_append

theorem names_present (fields : Fields (Option α)) :
    fields.present.names = names (fields.filter fun field => field.2.isSome) := by
  induction fields with
  | nil => rfl
  | cons field rest ih =>
    obtain ⟨name, entry⟩ := field
    cases entry with
    | none => exact ih
    | some entry => exact congrArg (name :: ·) ih

/-- What holds of all that is there under its name. -/
theorem forall_mem_present {fields : Fields (Option α)} {motive : Text → α → Prop}
    (h : ∀ field ∈ fields, ∀ entry, field.2 = some entry → motive field.1 entry) :
    ∀ field ∈ fields.present, motive field.1 field.2 := by
  intro field hfield
  obtain ⟨source, hsource, hentry⟩ := List.mem_filterMap.mp hfield
  obtain ⟨entry, hstands, rfl⟩ := Option.map_eq_some_iff.mp hentry
  exact h source hsource entry hstands

theorem nodup_names_present {fields : Fields (Option α)} (h : fields.names.Nodup) :
    fields.present.names.Nodup := by
  rw [names_present]
  exact h.sublist (List.filter_sublist.map Prod.fst)

theorem get?_present {fields : Fields (Option α)} (hnames : fields.names.Nodup) {name : Text}
    {entry : Option α} (hmember : (name, entry) ∈ fields) :
    fields.present.get? name = entry := by
  have hentry : fields.get? name = some entry := get?_of_mem hnames hmember
  ext found
  rw [get?_eq_some_iff (nodup_names_present hnames), present, List.mem_filterMap]
  constructor
  · rintro ⟨⟨other, standing⟩, hother, hfound⟩
    obtain ⟨_, rfl, hpair⟩ := Option.map_eq_some_iff.mp hfound
    cases hpair
    exact Option.some.inj (hentry.symm.trans (get?_of_mem hnames hother))
  · rintro rfl
    exact ⟨_, hmember, rfl⟩

theorem put_of_not_mem {name : Text} {entry : α} {fields : Fields α}
    (h : name ∉ fields.names) : fields.put name entry = fields ++ [(name, entry)] := by
  induction fields with
  | nil => rfl
  | cons field rest ih =>
    simp only [names, List.map_cons, List.mem_cons, not_or] at h
    rw [put, if_neg fun heq => h.1 heq.symm, ih h.2]
    rfl

theorem foldl_put_of_nodup (pairs : Fields α) : ∀ fields : Fields α,
    (fields ++ pairs).names.Nodup →
    pairs.foldl (fun fields pair => fields.put pair.1 pair.2) fields = fields ++ pairs := by
  induction pairs with
  | nil => intro fields _; simp
  | cons pair rest ih =>
    intro fields hnodup
    have hnew : pair.1 ∉ fields.names := by
      simp only [names, List.map_append, List.map_cons, List.nodup_append] at hnodup
      intro hmember
      exact hnodup.2.2 pair.1 hmember pair.1 List.mem_cons_self rfl
    have hassoc : (fields ++ [pair]) ++ rest = fields ++ pair :: rest := by simp
    rw [List.foldl_cons, put_of_not_mem hnew, ih _ (hassoc ▸ hnodup), hassoc]

/-- Pairs whose names are all different stay as they are. -/
theorem ofPairs_of_nodup {pairs : Fields α} (h : pairs.names.Nodup) : ofPairs pairs = pairs :=
  foldl_put_of_nodup pairs [] h

variable {β : Type}

theorem get?_map (f : α → β) (fields : Fields α) (name : Text) :
    get? (fields.map fun field => (field.1, f field.2)) name =
      (fields.get? name).map f := by
  simp only [get?, List.find?_map, Function.comp_def, Option.map_map]

theorem put_map (f : α → β) (name : Text) (entry : α) (fields : Fields α) :
    put name (f entry) (fields.map fun field => (field.1, f field.2)) =
      (put name entry fields).map fun field => (field.1, f field.2) := by
  induction fields with
  | nil => rfl
  | cons field rest ih =>
    rw [List.map_cons, put, put]
    split
    · rfl
    · rw [ih, List.map_cons]

theorem ofPairs_map (f : α → β) (pairs : Fields α) :
    ofPairs (pairs.map fun field => (field.1, f field.2)) =
      (ofPairs pairs).map fun field => (field.1, f field.2) := by
  have hfold : ∀ fields : Fields α,
      (pairs.map fun field => (field.1, f field.2)).foldl
          (fun (fields : Fields β) pair => fields.put pair.1 pair.2)
          (fields.map fun field => (field.1, f field.2)) =
        (pairs.foldl (fun fields pair => fields.put pair.1 pair.2) fields).map
          fun field => (field.1, f field.2) := by
    induction pairs with
    | nil => exact fun _ => rfl
    | cons pair rest ih =>
      intro fields
      rw [List.map_cons, List.foldl_cons, List.foldl_cons, ← ih, ← put_map]
  exact hfold []

/-- What holds of no fields, and is kept where a pair is put to the others, holds of the fields of
the pairs. -/
theorem ofPairs_induction {motive : Fields α → Prop} {pairs : Fields α} (hnil : motive [])
    (hput : ∀ fields, ∀ pair ∈ pairs, motive fields → motive (fields.put pair.1 pair.2)) :
    motive (ofPairs pairs) := by
  have hfold : ∀ fields : Fields α, motive fields →
      motive (pairs.foldl (fun fields pair => fields.put pair.1 pair.2) fields) := by
    induction pairs with
    | nil => exact fun _ hfields => hfields
    | cons pair rest ih =>
      intro fields hfields
      have hrest := ih fun fields other hother =>
        hput fields other (List.mem_cons_of_mem pair hother)
      exact hrest _ (hput fields pair List.mem_cons_self hfields)
  exact hfold [] hnil

/-- What holds of a pair and of all fields holds of the fields once the pair is put to them. -/
theorem forall_put {onName : Text → Prop} {onEntry : α → Prop} {fields : Fields α} {name : Text}
    {entry : α} (hname : onName name) (hentry : onEntry entry)
    (hfields : ∀ field ∈ fields, onName field.1 ∧ onEntry field.2) :
    ∀ field ∈ fields.put name entry, onName field.1 ∧ onEntry field.2 := by
  induction fields with
  | nil => simp [put, hname, hentry]
  | cons first rest ih =>
    rw [List.forall_mem_cons] at hfields
    rw [put]
    split
    · exact List.forall_mem_cons.mpr ⟨⟨hname, hentry⟩, hfields.2⟩
    · exact List.forall_mem_cons.mpr ⟨hfields.1, ih hfields.2⟩

theorem forall_fst_put {onName : Text → Prop} {fields : Fields α} {name : Text}
    (hname : onName name) (entry : α) (hfields : ∀ field ∈ fields, onName field.1) :
    ∀ field ∈ fields.put name entry, onName field.1 := by
  have hboth := @forall_put α onName (fun _ => True) fields name entry hname trivial
    fun field hfield => ⟨hfields field hfield, trivial⟩
  exact fun field hfield => (hboth field hfield).1

/-- What holds of all names and of all entries of some pairs holds of those of the fields. -/
theorem forall_names_ofPairs {onName : Text → Prop} {onEntry : α → Prop} {pairs : Fields α}
    (h : ∀ pair ∈ pairs, onName pair.1 ∧ onEntry pair.2) :
    ∀ pair ∈ ofPairs pairs, onName pair.1 ∧ onEntry pair.2 := by
  refine ofPairs_induction
    (motive := fun fields => ∀ field ∈ fields, onName field.1 ∧ onEntry field.2)
    (List.forall_mem_nil _) ?_
  intro fields pair hpair hfields
  exact forall_put (h pair hpair).1 (h pair hpair).2 hfields

theorem forall_ofPairs {onEntry : α → Prop} {pairs : Fields α}
    (h : ∀ pair ∈ pairs, onEntry pair.2) : ∀ pair ∈ ofPairs pairs, onEntry pair.2 := by
  have hboth := @forall_names_ofPairs α (fun _ => True) onEntry pairs fun pair hpair =>
    ⟨trivial, h pair hpair⟩
  exact fun pair hpair => (hboth pair hpair).2

theorem nodup_names_put {fields : Fields α} (h : fields.names.Nodup) (name : Text) (entry : α) :
    (fields.put name entry).names.Nodup := by
  by_cases hmember : name ∈ fields.names
  · have hsame : (fields.put name entry).names = fields.names := by
      induction fields with
      | nil => simp [names] at hmember
      | cons first rest ih =>
        simp only [names, List.map_cons, List.mem_cons, List.nodup_cons] at hmember h ih ⊢
        rw [put]
        split
        next heq => simp [heq]
        next hne =>
          have hrest : name ∈ rest.map Prod.fst := hmember.resolve_left fun heq => hne heq.symm
          simp [ih h.2 hrest]
    rw [hsame]
    exact h
  · rw [put_of_not_mem hmember]
    simp only [names, List.map_append, List.map_cons, List.map_nil] at hmember h ⊢
    exact List.nodup_append.mpr ⟨h, by simp, by
      intro first hfirst last hlast heq
      rw [List.mem_singleton.mp hlast] at heq
      exact hmember (heq ▸ hfirst)⟩

/-- The names of the fields of some pairs are all different. -/
theorem nodup_names_ofPairs (pairs : Fields α) : (ofPairs pairs).names.Nodup := by
  refine ofPairs_induction (motive := fun fields => fields.names.Nodup) List.nodup_nil ?_
  exact fun fields pair _ hfields => nodup_names_put hfields pair.1 pair.2

end Fields

end HostLifecycle
