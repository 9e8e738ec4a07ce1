import RecordSearch.Proofs.Settings.Names
import RecordSearch.Proofs.Traversal
import RecordSearch.Proofs.Value.Keyed

namespace RecordSearch

/-!
# Variables that belong to no section

Each section looks for the variables that belong to it and passes over all others. Of these an
environment file keeps those that are not empty, as settings of no section.

* `VariableRules.IsUnrelated`: a name that belongs to no section;
* `isUnrelated_of_settingPath?`: names without a path are unrelated, their case counting or not;
* `environmentLayer_eq_of_unrelated`: the environment is read as if there were no unrelated name;
* `envFileLayer_ofOthers`: from an environment file an unrelated name adds one setting, if any.
-/

/-- **An unrelated name**, under which no section finds anything. -/
def VariableRules.IsUnrelated (rules : VariableRules) (name : String) : Prop :=
  ∀ part ∈ sections, rules.belongsTo part.name (rules.casedName name) = false

/-- The variables of an environment file but for those of a name, as names are compared. -/
def VariableRules.others (rules : VariableRules) (name : String) (vars : List FileVariable) :
    List FileVariable :=
  vars.filter fun v => rules.casedName (Text.ofCodes v.name) ≠ rules.casedName name

/-! ### Unrelated names -/

/-- A start without the two letters whose lower case is not that of a single character. -/
theorem Text.lowerChars_append {start : List Char}
    (h : ∀ c ∈ start, c.toNat ≠ 0x130 ∧ c.toNat ≠ 0x3A3) (before rest : List Char) :
    lowerChars before (start ++ rest) =
      start.map lowerChar ++ lowerChars (start.reverse ++ before) rest := by
  induction start generalizing before with
  | nil => rfl
  | cons c start ih =>
    obtain ⟨hdotted, hsigma⟩ := h c List.mem_cons_self
    have hrest := ih (fun other hother => h other (List.mem_cons_of_mem c hother)) (c :: before)
    rw [List.cons_append, lowerChars, if_neg hdotted, if_neg (by simp [hsigma]), hrest,
      List.reverse_cons, List.append_assoc]
    rfl

/-- The start of the names of variables, in lower case. -/
theorem toList_lower_start (rest : List Char) :
    ∃ more, (Text.lower (String.ofList (VariableRules.standard.start.toList ++ rest))).toList =
      "elasticscout_".toList ++ more := by
  have hall : (VariableRules.standard.start.toList.all fun c =>
      c.toNat != 0x130 && c.toNat != 0x3A3) = true := by decide
  have hplain : ∀ c ∈ VariableRules.standard.start.toList, c.toNat ≠ 0x130 ∧ c.toNat ≠ 0x3A3 := by
    intro c hc
    have hboth := List.all_eq_true.1 hall c hc
    rw [Bool.and_eq_true, bne_iff_ne, bne_iff_ne] at hboth
    exact hboth
  have hlower : VariableRules.standard.start.toList.map Text.lowerChar =
      "elasticscout_".toList := by decide
  rw [Text.lower, String.toList_ofList, String.toList_ofList, Text.lowerChars_append hplain, hlower]
  exact ⟨_, rfl⟩

section

variable {rules : VariableRules} {name : String}

/-- A name that goes on after the variable of a section starts as all variables do. -/
theorem settingPath?_ne_none (hstart : rules.start = VariableRules.standard.start) {part : Section}
    (hpart : part ∈ sections) (rest : List Char)
    (h : (rules.casedName name).toList = (rules.variableName part.name).toList ++ rest) :
    settingPath? name ≠ none := by
  have hlower : ∃ more, (Text.lower name).toList = "elasticscout_".toList ++ more := by
    -- If the case counts the prefix is spelled as it is, and its lower case is found all the same.
    cases hcase : rules.caseSensitive with
    | true =>
      have hcased : ∀ other, rules.casedName other = other := fun other => by
        rw [VariableRules.casedName, hcase, if_pos rfl]
      rw [VariableRules.variableName, hcased, hcased, hstart, String.toList_append,
        List.append_assoc] at h
      obtain ⟨more, hmore⟩ := toList_lower_start (part.name.toList ++ rest)
      rw [← h, String.ofList_toList] at hmore
      exact ⟨more, hmore⟩
    | false =>
      have hcased : ∀ other, rules.casedName other = Text.lower other := fun other => by
        rw [VariableRules.casedName, hcase, if_neg (by decide)]
      have hvariable : rules.variableName part.name = "elasticscout_" ++ part.name := by
        rw [← variableName_eq hpart, VariableRules.variableName, hcased, hstart]
        rfl
      rw [hcased, hvariable, String.toList_append, List.append_assoc] at h
      exact ⟨_, h⟩
  obtain ⟨more, hmore⟩ := hlower
  have hafter : Text.afterStart? "elasticscout_".toList (Text.lower name).toList = some more :=
    Text.afterStart?_eq_some_iff.2 hmore
  rw [settingPath?, hafter, Option.map_some]
  exact Option.some_ne_none _

/-- **A name without a path is unrelated**, whether its case counts or not. -/
theorem isUnrelated_of_settingPath? (hstart : rules.start = VariableRules.standard.start)
    (hname : settingPath? name = none) : rules.IsUnrelated name := by
  intro part hpart
  rw [VariableRules.belongsTo, Bool.or_eq_false_iff]
  constructor
  · rw [beq_eq_false_iff_ne]
    intro heq
    refine settingPath?_ne_none hstart hpart [] ?_ hname
    rw [heq, List.append_nil]
  · rw [VariableRules.path?, Option.isSome_eq_false_iff, Option.isNone_iff_eq_none]
    split
    · rfl
    · rw [Option.map_eq_none_iff, Option.eq_none_iff_forall_ne_some]
      intro rest hrest
      refine settingPath?_ne_none hstart hpart (rules.delimiter.toList ++ rest) ?_ hname
      rw [Text.afterStart?_eq_some_iff.1 hrest, String.toList_append, List.append_assoc]

end

/-! ### Sections -/

section

variable {rules : VariableRules} {layer : TextLayer} {key : String}

/-- Variables without a path in the section are passed over. -/
theorem nested_without [Platform] {part : Section} (h : rules.path? part.name key = none)
    (d : Document) (vars : Variables) :
    part.nested rules layer d (Document.without vars key) = part.nested rules layer d vars := by
  induction vars generalizing d with
  | nil => rfl
  | cons var vars ih =>
    obtain ⟨name, v⟩ := var
    rw [Document.without_cons]
    by_cases hname : name = key
    · have hnone : rules.path? part.name name = none := by rw [hname, h]
      rw [if_pos hname, ih, Section.nested, hnone]
    · rw [if_neg hname, Section.nested, Section.nested]
      simp only [ih]

/-- **A section is read without the variables that do not belong to it.** -/
theorem read_without [Platform] {part : Section} (h : rules.belongsTo part.name key = false)
    (vars : Variables) :
    part.read rules layer (Document.without vars key) = part.read rules layer vars := by
  obtain ⟨hname, hpath⟩ := Bool.or_eq_false_iff.1 h
  have hlookup : (Document.without vars key).lookup (rules.variableName part.name) =
      vars.lookup (rules.variableName part.name) :=
    Document.get?_without (beq_eq_false_iff_ne.1 hname).symm
  rw [Option.isSome_eq_false_iff, Option.isNone_iff_eq_none] at hpath
  rw [Section.read, Section.read, hlookup]
  simp only [nested_without hpath]

/-- Sections are read without the variables that belong to none of them. -/
theorem readSections_without [Platform] {parts : List Section}
    (h : ∀ part ∈ parts, rules.belongsTo part.name key = false) (vars : Variables) :
    readSections rules layer (Document.without vars key) parts =
      readSections rules layer vars parts := by
  induction parts with
  | nil => rfl
  | cons part parts ih =>
    rw [readSections, readSections, read_without (h part List.mem_cons_self),
      ih fun other hother => h other (List.mem_cons_of_mem part hother)]

/-- What is said about sections stands under their names. -/
theorem keys_readSections [Platform] {vars : Variables} {parts : List Section} {d : Document}
    (h : readSections rules layer vars parts = .ok d) {name : String} (hname : name ∈ d.keys) :
    ∃ part ∈ parts, part.name = name := by
  induction parts generalizing d with
  | nil =>
    cases h
    cases hname
  | cons part parts ih =>
    obtain ⟨v?, -, hrest⟩ := bind_eq_ok_iff.1 h
    obtain ⟨rest, hread, heq⟩ := bind_eq_ok_iff.1 hrest
    cases heq
    rw [Document.keys, List.map_append, List.mem_append] at hname
    rcases hname with hown | hmore
    · refine ⟨part, List.mem_cons_self, ?_⟩
      cases v? with
      | none => cases hown
      | some v => exact (List.mem_singleton.1 hown).symm
    · obtain ⟨other, hother, hsame⟩ := ih hread hmore
      exact ⟨other, List.mem_cons_of_mem part hother, hsame⟩

end

/-! ### Layers -/

section

variable {rules : VariableRules} {name : String}

/-- The variables of a layer but for a name are those of the layer without the name. -/
theorem select_filter (rules : VariableRules) (vars : Variables) (key : String) :
    rules.select (vars.filter fun v => rules.casedName v.1 ≠ key) =
      Document.without (rules.select vars) key := by
  rw [VariableRules.select, VariableRules.select, Document.without_ofEntries, Document.without,
    List.filter_map, List.filter_filter, List.filter_filter]
  simp only [Bool.and_comm]
  rfl

/-- **The environment is read as if an unrelated name were not there.** -/
theorem environmentLayer_eq_of_unrelated [Platform] (h : rules.IsUnrelated name)
    (before after : Variables) (v : Value) :
    environmentLayer rules (before ++ (name, v) :: after) =
      environmentLayer rules (before ++ after) := by
  -- The layer is read as without the variables of that name, and both are the same without them.
  have hwithout : ∀ vars, environmentLayer rules vars = readSections rules .environment
      (rules.select (vars.filter fun v => rules.casedName v.1 ≠ rules.casedName name))
      sections := by
    intro vars
    rw [select_filter, readSections_without h, environmentLayer]
  rw [hwithout, hwithout, List.filter_append, List.filter_cons, if_neg (by simp),
    ← List.filter_append]

/-- The other variables of a file, taken as a layer. -/
theorem select_others (name : String) (vars : List FileVariable) :
    rules.select ((rules.others name vars).map FileVariable.toVariable) =
      Document.without (rules.select (vars.map FileVariable.toVariable))
        (rules.casedName name) := by
  rw [← select_filter, List.filter_map]
  rfl

/-- The settings of no section but for a name. -/
theorem envFileExtras_without (vars : Variables) (key : String) :
    envFileExtras rules (Document.without vars key) =
      Document.without (envFileExtras rules vars) key := by
  rw [envFileExtras, envFileExtras, Document.without, Document.without, List.filter_filter,
    List.filter_filter]
  simp only [Bool.and_comm]

/-- **The settings of no section that an environment file gives.** -/
def VariableRules.extrasOf (rules : VariableRules) (vars : List FileVariable) : Document :=
  envFileExtras rules (rules.select (vars.map FileVariable.toVariable))

/-- Names that are texts do not make those of the settings no texts. -/
theorem hasTextNames_others {vars : List FileVariable} (extras : Document)
    (htexts : ∀ v ∈ vars, rules.casedName (Text.ofCodes v.name) = rules.casedName name →
      Text.areText v.name = true) :
    hasTextNames rules (rules.others name vars) (extras.without (rules.casedName name)) =
      hasTextNames rules vars extras := by
  rw [Bool.eq_iff_iff, hasTextNames, hasTextNames, List.all_eq_true, List.all_eq_true]
  have hkeys : ∀ v : FileVariable,
      rules.casedName (Text.ofCodes v.name) ≠ rules.casedName name →
      ((Text.areText v.name || !(extras.without (rules.casedName name)).keys.contains
          (rules.casedName (Text.ofCodes v.name))) =
        (Text.areText v.name || !extras.keys.contains
          (rules.casedName (Text.ofCodes v.name)))) := by
    intro v hne
    have hcontains : (extras.without (rules.casedName name)).keys.contains
        (rules.casedName (Text.ofCodes v.name)) =
          extras.keys.contains (rules.casedName (Text.ofCodes v.name)) := by
      rw [Bool.eq_iff_iff, List.contains_iff_mem, List.contains_iff_mem,
        Document.mem_keys_without_iff]
      exact and_iff_left hne
    rw [hcontains]
  constructor
  · intro hall v hv
    -- The names that are left out are texts, and the others are checked as before.
    by_cases hname : rules.casedName (Text.ofCodes v.name) = rules.casedName name
    · rw [htexts v hv hname, Bool.true_or]
    · rw [← hkeys v hname]
      exact hall v (List.mem_filter.2 ⟨hv, decide_eq_true hname⟩)
  · intro hall v hv
    obtain ⟨hmem, hne⟩ := List.mem_filter.1 hv
    rw [hkeys v (of_decide_eq_true hne)]
    exact hall v hmem

/-- **An environment file with an unrelated name** is read like one without it: the sections say the
    same, and only the setting of that name may be there beside the others. -/
theorem envFileLayer_ofOthers [Platform] (h : rules.IsUnrelated name) {vars : List FileVariable}
    (htexts : ∀ v ∈ vars, rules.casedName (Text.ofCodes v.name) = rules.casedName name →
      Text.areText v.name = true) :
    ∃ (read : Except Error Document) (areNamesText : Bool),
      (∀ d, read = .ok d → ∀ key ∈ d.keys, ∃ part ∈ sections, part.name = key)
      ∧ envFileLayer rules vars = (fun d => (d ++ rules.extrasOf vars, areNamesText)) <$> read
      ∧ envFileLayer rules (rules.others name vars) =
        (fun d => (d ++ (rules.extrasOf vars).without (rules.casedName name), areNamesText))
          <$> read := by
  refine ⟨readSections rules .envFile (rules.select (vars.map FileVariable.toVariable)) sections,
    hasTextNames rules vars (rules.extrasOf vars), fun d hd key hkey => keys_readSections hd hkey,
    rfl, ?_⟩
  rw [envFileLayer, select_others, readSections_without h, envFileExtras_without]
  dsimp only
  rw [hasTextNames_others _ htexts]
  rfl

/-- **Which setting an unrelated name adds**: that of its text, if there is one that is not empty,
    unless the name is that of a section. -/
theorem mem_keys_extrasOf_iff (h : rules.IsUnrelated name) (vars : List FileVariable) :
    rules.casedName name ∈ (rules.extrasOf vars).keys ↔
      (∀ part ∈ sections, part.name ≠ rules.casedName name)
        ∧ ∃ v, (rules.select (vars.map FileVariable.toVariable)).lookup (rules.casedName name) =
          some v ∧ v.isTruthy = true := by
  have hnodup : Document.keys (rules.select (vars.map FileVariable.toVariable)) |>.Nodup :=
    nodup_keys_ofEntries _
  have hsections : (sections.any fun part => part.name == rules.casedName name
      || rules.belongsTo part.name (rules.casedName name)) = false ↔
        ∀ part ∈ sections, part.name ≠ rules.casedName name := by
    rw [List.any_eq_false]
    refine forall₂_congr fun part hpart => ?_
    rw [h part hpart, Bool.or_false, beq_iff_eq]
  rw [VariableRules.extrasOf, Document.keys, List.mem_map, ← hsections]
  constructor
  · rintro ⟨⟨key, v⟩, he, rfl⟩
    obtain ⟨hmem, hkept⟩ := List.mem_filter.1 he
    rw [Bool.and_eq_true, Bool.not_eq_true'] at hkept
    exact ⟨hkept.2, v, get?_of_mem hnodup hmem, hkept.1⟩
  · rintro ⟨hnone, v, hv, htrue⟩
    refine ⟨(rules.casedName name, v), List.mem_filter.2 ⟨mem_of_get? hv, ?_⟩, rfl⟩
    rw [Bool.and_eq_true, Bool.not_eq_true']
    exact ⟨htrue, hnone⟩

end

end RecordSearch
