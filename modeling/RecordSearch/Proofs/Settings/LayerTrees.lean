import RecordSearch.Proofs.Settings.SectionTrees

namespace RecordSearch

/-!
# The tree of a layer

A layer of variables is read section by section, and gives a mapping. Its tree is the one that the
variables say together. An environment file gives no other settings if its variables are all for
settings.

* `get?_readSections`: each section has its own entry;
* `nodeAt?_environmentLayer`, `nodeAt?_envFileLayer`: the tree of a layer;
* `exists_environmentLayer`, `exists_envFileLayer`: a layer whose variables can be read is read.
-/

variable {layer : TextLayer} {vars : Variables}

/-! ### Sections -/

/-- The sections of a layer, one after the other: each has its entry if something is said about
    it, and there are no other entries. -/
theorem get?_readSections [Platform] {selected : Variables} {parts : List Section}
    (hparts : (parts.map Section.name).Nodup) {d : Document}
    (hread : readSections .standard layer selected parts = .ok d) :
    d.keys.Sublist (parts.map Section.name)
      ∧ ∀ part ∈ parts, part.read .standard layer selected = .ok (d.get? part.name) := by
  induction parts generalizing d with
  | nil =>
    cases hread
    exact ⟨List.Sublist.slnil, nofun⟩
  | cons part parts ih =>
    obtain ⟨hnew, hrest⟩ := List.nodup_cons.1 hparts
    obtain ⟨v?, hv, hmore⟩ := bind_eq_ok_iff.1 hread
    obtain ⟨rest, hrestRead, heq⟩ := bind_eq_ok_iff.1 hmore
    cases heq
    obtain ⟨hkeys, hget⟩ := ih hrest hrestRead
    -- The rest holds names of other sections only, since no two sections share one.
    have hnone : rest.get? part.name = none := by
      cases hlookup : rest.get? part.name with
      | none => rfl
      | some w =>
        have hmem : part.name ∈ rest.keys := List.mem_map_of_mem (mem_of_get? hlookup)
        exact absurd (hkeys.subset hmem) hnew
    -- A section of which nothing is said adds no entry.
    cases v? with
    | none =>
      refine ⟨hkeys.cons _, fun other hother => ?_⟩
      rcases List.mem_cons.1 hother with rfl | hother
      · rw [hv]
        exact congrArg Except.ok hnone.symm
      · exact hget other hother
    | some v =>
      refine ⟨hkeys.cons_cons _, fun other hother => ?_⟩
      rcases List.mem_cons.1 hother with rfl | hother
      · rw [hv]
        exact congrArg Except.ok ((Document.get?_cons _ _ _ _).trans (if_pos rfl)).symm
      · have hne : other.name ≠ part.name := fun heq =>
          hnew (heq ▸ List.mem_map_of_mem hother)
        rw [hget other hother]
        exact congrArg Except.ok ((Document.get?_cons _ _ _ _).trans (if_neg hne)).symm

/-- The tree of all sections of a layer. -/
theorem nodeAt?_readSections [Platform] (hvars : AreSettings vars) {d : Document}
    (hread : readSections .standard layer (loweredNames vars) sections = .ok d) :
    (Value.mapping d).HasDistinctKeys
      ∧ (Value.mapping d).nodeAt? = variableNodes layer vars := by
  have hnames : (sections.map Section.name).Nodup := by decide
  obtain ⟨hkeys, hget⟩ := get?_readSections hnames hread
  have hsection : ∀ key, key ∈ d.keys → ∃ part ∈ sections, part.name = key := fun key hkey =>
    List.mem_map.1 (hkeys.subset hkey)
  constructor
  · refine (Value.hasDistinctKeys_mapping_iff d).2 ⟨hkeys.nodup hnames, fun key v hv => ?_⟩
    obtain ⟨part, hpart, rfl⟩ := hsection key (List.mem_map_of_mem (mem_of_get? hv))
    exact (nodes_of_read hpart hvars (hget part hpart)).1 v hv
  · funext path
    cases path with
    | nil => rfl
    | cons key below =>
      rw [Value.nodeAt?_mapping_cons]
      -- A path either starts with a section, and then its reading decides, or no variable has it.
      by_cases hkey : ∃ part ∈ sections, part.name = key
      · obtain ⟨part, hpart, rfl⟩ := hkey
        exact (nodes_of_read hpart hvars (hget part hpart)).2 below
      · have hnone : d.get? key = none := by
          rw [Document.get?, List.lookup_eq_none_iff]
          intro e he
          rw [bne_iff_ne]
          rintro rfl
          exact hkey (hsection e.1 (List.mem_map_of_mem he))
        rw [hnone, Option.bind_none, eq_comm, Option.eq_none_iff_forall_ne_some]
        intro node hnode
        obtain ⟨var, hvar, hdefined⟩ := exists_of_variableNodes hnode
        obtain ⟨part, hpart, keys, hpath⟩ := hvars.exists_cons hvar
        rw [definedNodes_of_ne hpath fun heq => hkey ⟨part, hpart, heq.symm⟩] at hdefined
        cases hdefined

/-- The variables of sections that are read can be read. -/
theorem isReadable_of_readSections [Platform] (hvars : AreSettings vars) {d : Document}
    (hread : readSections .standard layer (loweredNames vars) sections = .ok d) :
    ∀ var ∈ vars, IsReadable layer var := by
  intro var hvar
  obtain ⟨part, hpart, keys, hpath⟩ := hvars.exists_cons hvar
  have hget := (get?_readSections (by decide) hread).2 part hpart
  exact isReadable_of_read hpart hvars hget var hvar keys hpath

/-- Sections whose variables can be read are read. -/
theorem exists_readSections [Platform] (hvars : AreSettings vars)
    (hreadable : ∀ var ∈ vars, IsReadable layer var) :
    ∃ d, readSections .standard layer (loweredNames vars) sections = .ok d := by
  have hall : ∀ parts : List Section, (∀ part ∈ parts, part ∈ sections) →
      ∃ d, readSections .standard layer (loweredNames vars) parts = .ok d := by
    intro parts
    induction parts with
    | nil => exact fun _ => ⟨[], rfl⟩
    | cons part parts ih =>
      intro hparts
      obtain ⟨v?, hv⟩ := exists_read (hparts part List.mem_cons_self) hvars hreadable
      obtain ⟨rest, hrest⟩ := ih fun other hother => hparts other (List.mem_cons_of_mem _ hother)
      refine ⟨readSections.optionalSetting part.name v? ++ rest, ?_⟩
      rw [readSections, hv, hrest]
      rfl
  exact hall sections fun _ hpart => hpart

/-! ### Layers -/

/-- **The tree of the environment.** -/
theorem nodeAt?_environmentLayer [Platform] (hvars : AreSettings vars) {d : Document}
    (hread : environmentLayer .standard vars = .ok d) :
    (Value.mapping d).HasDistinctKeys
      ∧ (Value.mapping d).nodeAt? = variableNodes .environment vars := by
  rw [environmentLayer, hvars.select_eq] at hread
  exact nodeAt?_readSections hvars hread

/-- An environment that can be read is read. -/
theorem exists_environmentLayer [Platform] (hvars : AreSettings vars)
    (hreadable : ∀ var ∈ vars, IsReadable .environment var) :
    ∃ d, environmentLayer .standard vars = .ok d := by
  rw [environmentLayer, hvars.select_eq]
  exact exists_readSections hvars hreadable

/-- The variables of an environment that is read can be read. -/
theorem isReadable_of_environmentLayer [Platform] (hvars : AreSettings vars) {d : Document}
    (hread : environmentLayer .standard vars = .ok d) :
    ∀ var ∈ vars, IsReadable .environment var := by
  rw [environmentLayer, hvars.select_eq] at hread
  exact isReadable_of_readSections hvars hread

/-- Variables for settings all belong to sections. -/
theorem envFileExtras_eq_nil (hvars : AreSettings vars) :
    envFileExtras .standard (loweredNames vars) = [] := by
  refine List.filter_eq_nil_iff.2 fun e he => ?_
  obtain ⟨var, hvar, rfl⟩ := List.mem_map.1 he
  obtain ⟨part, hpart, keys, hpath⟩ := hvars.exists_cons hvar
  -- Every variable belongs to a section by its path, so none is left over as an extra.
  have hbelongs : VariableRules.standard.belongsTo part.name (Text.lower var.1) = true := by
    rw [VariableRules.belongsTo, Bool.or_eq_true]
    rcases keys.eq_nil_or_concat with rfl | ⟨keys, last, rfl⟩
    · exact .inl (beq_iff_eq.2 ((settingPath?_eq_singleton_iff hpart var.1).1 hpath))
    · rw [List.concat_eq_append, settingPath?_eq_cons_iff hpart] at hpath
      rw [hpath]
      exact .inr rfl
  have hany : (sections.any fun part => part.name == Text.lower var.1
      || VariableRules.standard.belongsTo part.name (Text.lower var.1)) = true := by
    refine List.any_eq_true.2 ⟨part, hpart, ?_⟩
    rw [hbelongs, Bool.or_true]
  simp [hany]

/-- An environment file with variables for settings is read as its sections are. -/
theorem envFileLayer_eq [Platform] {file : List FileVariable}
    (hvars : AreSettings (file.map FileVariable.toVariable)) :
    envFileLayer .standard file = (fun d => (d, true)) <$>
      readSections .standard .envFile (loweredNames (file.map FileVariable.toVariable))
        sections := by
  have hnames : hasTextNames .standard file [] = true := by
    refine List.all_eq_true.2 fun v _ => ?_
    rw [Bool.or_eq_true]
    exact .inr rfl
  rw [envFileLayer, hvars.select_eq, envFileExtras_eq_nil hvars]
  dsimp only
  rw [hnames]
  cases readSections .standard .envFile (loweredNames (file.map FileVariable.toVariable))
      sections with
  | error e => rfl
  | ok d => exact congrArg (fun d => Except.ok (d, true)) (List.append_nil d)

/-- **The tree of an environment file.** -/
theorem nodeAt?_envFileLayer [Platform] {file : List FileVariable}
    (hvars : AreSettings (file.map FileVariable.toVariable)) {d : Document} {areNamesText : Bool}
    (hread : envFileLayer .standard file = .ok (d, areNamesText)) :
    areNamesText = true ∧ (Value.mapping d).HasDistinctKeys
      ∧ (Value.mapping d).nodeAt? =
        variableNodes .envFile (file.map FileVariable.toVariable) := by
  rw [envFileLayer_eq hvars] at hread
  obtain ⟨e, he, heq⟩ := map_eq_ok_iff.1 hread
  cases heq
  exact ⟨rfl, nodeAt?_readSections hvars he⟩

/-- The variables of an environment file that is read can be read. -/
theorem isReadable_of_envFileLayer [Platform] {file : List FileVariable}
    (hvars : AreSettings (file.map FileVariable.toVariable)) {d : Document} {areNamesText : Bool}
    (hread : envFileLayer .standard file = .ok (d, areNamesText)) :
    ∀ var ∈ file.map FileVariable.toVariable, IsReadable .envFile var := by
  rw [envFileLayer_eq hvars] at hread
  obtain ⟨e, he, -⟩ := map_eq_ok_iff.1 hread
  exact isReadable_of_readSections hvars he

/-- An environment file that can be read is read. -/
theorem exists_envFileLayer [Platform] {file : List FileVariable}
    (hvars : AreSettings (file.map FileVariable.toVariable))
    (hreadable : ∀ var ∈ file.map FileVariable.toVariable, IsReadable .envFile var) :
    ∃ d, envFileLayer .standard file = .ok (d, true) := by
  obtain ⟨d, hd⟩ := exists_readSections hvars hreadable
  rw [envFileLayer_eq hvars, hd]
  exact ⟨d, rfl⟩

end RecordSearch
