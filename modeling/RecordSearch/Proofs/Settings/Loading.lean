import RecordSearch.Proofs.Checked
import RecordSearch.Proofs.Traversal
import RecordSearch.Proofs.Json.Keys
import RecordSearch.Settings.Layers

namespace RecordSearch

/-!
# Loading without options

Given entries may be options, which change how the layers are read. Where none of them is one, the
settings are those of three layers: the given entries, the environment and the environment file.

* `HasNoOptions`: none of the given entries is an option;
* `get?_givenLayer`: entries with keys in lower case are taken as they are;
* `ofFile_eq_load`: the settings of a file are those of the entries that its text gives;
* `load_eq`: the three layers are read, merged and checked.
-/

/-- Given entries of which none is an option. -/
def HasNoOptions (given : Document) : Prop := ∀ key ∈ given.keys, key ∉ optionNames

instance (given : Document) : Decidable (HasNoOptions given) :=
  inferInstanceAs (Decidable (∀ key ∈ given.keys, key ∉ optionNames))

variable {given : Document}

/-! ### Entries in lower case -/

/-- With distinct keys, what is found is what the members are. -/
theorem get?_eq_of_mem_iff {d e : Document} (hd : d.keys.Nodup) (he : e.keys.Nodup)
    (h : ∀ entry, entry ∈ d ↔ entry ∈ e) (key : String) : d.get? key = e.get? key := by
  refine Option.ext fun v => ⟨fun hv => ?_, fun hv => ?_⟩
  · exact get?_of_mem he ((h (key, v)).1 (mem_of_get? hv))
  · exact get?_of_mem hd ((h (key, v)).2 (mem_of_get? hv))

section

variable (hlower : ∀ key ∈ given.keys, Text.lower key = key)
include hlower

/-- A section is named by its name alone. -/
theorem isNamed_iff (part : Section) {e : String × Value} (he : e ∈ given) :
    part.isNamed e.1 = true ↔ e.1 = part.name := by
  rw [Section.isNamed, hlower e.1 (List.mem_map_of_mem he), beq_iff_eq]

/-- The entry that is found for a section has its name. -/
theorem mem_of_find?_isNamed {part : Section} {e : String × Value}
    (h : (given.find? fun e => part.isNamed e.1) = some e) : e ∈ given ∧ e.1 = part.name := by
  have hmem := List.mem_of_find?_eq_some h
  have hname : part.isNamed e.1 = true := by
    have hfound := List.find?_some h
    exact hfound
  exact ⟨hmem, (isNamed_iff hlower part hmem).1 hname⟩

/-- The layer has no key twice: first come the names of sections, and then other keys. -/
theorem nodup_keys_givenLayer (hkeys : given.keys.Nodup) : (givenLayer given).keys.Nodup := by
  -- The names of the sections come first, each at most once, and the rest are names of none.
  have hnames : ∀ parts : List Section, ((parts.filterMap fun part =>
      (given.find? fun e => part.isNamed e.1).map fun e => (part.name, e.2)).map
      Prod.fst).Sublist (parts.map Section.name) := by
    intro parts
    induction parts with
    | nil => exact .slnil
    | cons part parts ih =>
      rw [List.filterMap_cons]
      cases given.find? fun e => part.isNamed e.1 with
      | none => exact ih.cons _
      | some e => exact ih.cons_cons _
  rw [Document.keys, givenLayer, List.map_append, List.nodup_append]
  refine ⟨(hnames sections).nodup (by decide), (List.filter_sublist.map _).nodup hkeys, ?_⟩
  rintro name hname other hother rfl
  obtain ⟨part, hpart, rfl⟩ := List.mem_map.1 ((hnames sections).subset hname)
  obtain ⟨entry, hentry, heq⟩ := List.mem_map.1 hother
  obtain ⟨hgiven, hnot⟩ := List.mem_filter.1 hentry
  have hany : (sections.any fun part => part.isNamed entry.1) = true :=
    List.any_eq_true.2 ⟨part, hpart, (isNamed_iff hlower part hgiven).2 heq⟩
  rw [hany] at hnot
  cases hnot

/-- The layer has the entries that are given. -/
theorem mem_givenLayer_iff (hkeys : given.keys.Nodup) (entry : String × Value) :
    entry ∈ givenLayer given ↔ entry ∈ given := by
  rw [givenLayer, List.mem_append]
  constructor
  · rintro (hmem | hmem)
    · obtain ⟨part, -, hfind⟩ := List.mem_filterMap.1 hmem
      obtain ⟨e, he, rfl⟩ := Option.map_eq_some_iff.1 hfind
      obtain ⟨hgiven, hname⟩ := mem_of_find?_isNamed hlower he
      rw [← hname]
      exact hgiven
    · exact (List.mem_filter.1 hmem).1
  · intro hmem
    by_cases hany : (sections.any fun part => part.isNamed entry.1) = true
    · obtain ⟨part, hpart, hname⟩ := List.any_eq_true.1 hany
      refine .inl (List.mem_filterMap.2 ⟨part, hpart, ?_⟩)
      obtain ⟨e, he⟩ : ∃ e, (given.find? fun e => part.isNamed e.1) = some e := by
        rw [← Option.isSome_iff_exists, List.find?_isSome]
        exact ⟨entry, hmem, hname⟩
      -- The entry that is found has the same key, and therefore it is the same.
      obtain ⟨hgiven, hfound⟩ := mem_of_find?_isNamed hlower he
      have hsame : e.1 = entry.1 := hfound.trans ((isNamed_iff hlower part hmem).1 hname).symm
      have hvalue : some e.2 = some entry.2 := by
        rw [← get?_of_mem hkeys hgiven, ← get?_of_mem hkeys hmem, hsame]
      rw [he, Option.map_some, ← hfound, hsame, Option.some.inj hvalue]
    · exact .inr (List.mem_filter.2 ⟨hmem, by simpa using hany⟩)

/-- **Entries with keys in lower case** are taken as they are, though in another order. -/
theorem get?_givenLayer (hkeys : given.keys.Nodup) (key : String) :
    (givenLayer given).get? key = given.get? key :=
  get?_eq_of_mem_iff (nodup_keys_givenLayer hlower hkeys) hkeys (mem_givenLayer_iff hlower hkeys)
    key

end

/-! ### Options -/

section

variable (h : HasNoOptions given)
include h

/-- No option is given. -/
theorem get?_optionName {name : String} (hname : name ∈ optionNames) :
    given.get? name = none := by
  rw [Document.get?, List.lookup_eq_none_iff]
  intro e he
  rw [bne_iff_ne]
  rintro rfl
  exact h e.1 (List.mem_map_of_mem he) hname

theorem option?_eq_none {name : String} (hname : name ∈ optionNames) :
    option? given name = none := by
  rw [option?, get?_optionName h hname]

theorem optionD_eq_null {name : String} (hname : name ∈ optionNames) :
    optionD given name = .null := by
  rw [optionD, get?_optionName h hname]
  rfl

/-- All entries are settings. -/
theorem withoutOptions_eq_self : withoutOptions given = given := by
  refine List.filter_eq_self.2 fun e he => ?_
  simpa using h e.1 (List.mem_map_of_mem he)

/-- Variables are read as usual. -/
theorem ofOptions_eq_standard : VariableRules.ofOptions given = .ok .standard := by
  rw [VariableRules.ofOptions, startOption, startsVariables, delimiterOption, splitsOption,
    obstacleOption, nullTextOption, hasOption, hasOption, option?_eq_none h (by decide),
    option?_eq_none h (by decide), option?_eq_none h (by decide), option?_eq_none h (by decide),
    optionD_eq_null h (by decide), optionD_eq_null h (by decide), optionD_eq_null h (by decide),
    optionD_eq_null h (by decide)]
  rfl

/-- There are no words of a command. -/
theorem givenArguments_eq [Platform] : Settings.givenArguments given = .ok (.standard, []) := by
  rw [Settings.givenArguments, option?_eq_none h (by decide)]
  rfl

/-- The checks of options pass. -/
theorem checks_of_noOptions :
    chosenSources given = .ok false ∧ checkSplits given = .ok () ∧ checkStart given = .ok () := by
  refine ⟨?_, ?_, ?_⟩
  · rw [chosenSources, option?_eq_none h (by decide)]
  · rw [checkSplits, optionD_eq_null h (by decide)]
    rfl
  · rw [checkStart, option?_eq_none h (by decide)]

/-- **What is loaded where no option is given**: the given entries over the environment over the
    environment file. -/
theorem load_eq [Platform] (hown : given.keys.contains ownName = false) {environment : Variables}
    {files : Files} {envFile : List FileVariable}
    (hread : readEnvFiles files environment none .null .null = .ok envFile) :
    Settings.load given environment files = (do
      let environment ← environmentLayer .standard environment
      let (envFile, areNamesText) ← envFileLayer .standard envFile
      Settings.check (Settings.mergeLayers (givenLayer given) environment envFile)
        areNamesText) := by
  obtain ⟨hsources, hsplits, hstart⟩ := checks_of_noOptions h
  have hmerge : Document.merge (givenLayer given) [] = givenLayer given := by
    rw [Document.merge]
  rw [Settings.load, Settings.loadNamed, hown, hsources, hsplits, hstart,
    get?_optionName h (show "_env_file" ∈ optionNames by decide),
    optionD_eq_null h (show "_env_file_encoding" ∈ optionNames by decide),
    optionD_eq_null h (show "_env_file_depth" ∈ optionNames by decide), givenArguments_eq h,
    ofOptions_eq_standard h, optionD_eq_null h (show "_secrets_dir" ∈ optionNames by decide),
    withoutOptions_eq_self h, hread]
  show (do
    let environment ← environmentLayer .standard environment
    let (envFile, areNamesText) ← envFileLayer .standard envFile
    Settings.check (Settings.mergeLayers (Document.merge (givenLayer given) []) environment
      envFile) (true && areNamesText)) = _
  rw [hmerge]
  rfl

end

/-! ### Files -/

/-- An entry with the name of the settings themselves keeps them from being loaded. -/
theorem contains_ownName_of_load [Platform] {environment : Variables} {files : Files}
    {settings : Settings} (h : Settings.load given environment files = .ok settings) :
    given.keys.contains ownName = false := by
  cases hown : given.keys.contains ownName with
  | false => rfl
  | true =>
    rw [Settings.load, Settings.loadNamed, hown] at h
    cases h

/-- The settings of a file are those of what its text gives. -/
theorem ofFile_eq_load [Platform] {path text : String} {content : Value}
    (hread : Platform.readDocument (normalPath path) text = .ok content)
    (hgiven : Settings.givenByFile content = .ok given) (environment : Variables) (files : Files) :
    Settings.ofFile path (some text) environment files =
      Settings.load given environment files := by
  rw [Settings.ofFile, hread]
  show (Settings.givenByFile content >>= fun given => Settings.load given environment files) = _
  rw [hgiven]
  rfl

end RecordSearch
