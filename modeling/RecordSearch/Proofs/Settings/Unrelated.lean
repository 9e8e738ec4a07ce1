import RecordSearch.Proofs.Settings.HomePaths
import RecordSearch.Proofs.Settings.Origin
import RecordSearch.Proofs.Settings.References
import RecordSearch.Proofs.Settings.UnknownKeys

namespace RecordSearch

/-!
# Unrelated variables

A variable whose name does not start with `elasticscout_`, in any case, is unrelated to the
settings. In the environment it is not looked at, unless an environment file refers to it, or it
says where the home directory is in which a path starts. A line for it in an environment file
changes nothing if it has no text there. With a text it is taken for a setting of no section, and
the settings, which are read from all other lines as before, are refused.

* `Origin.value`: the text that the environment files give for a name;
* `Origin.AddsLines`: environment files with lines for a name added;
* `loadLayers_others`, `gainsFault_loadLayers`: the layers with an unrelated name;
* `Origin.load_files`: the outcome with lines for an unrelated name, refused or not;
* `unrelated_variables`: what an unrelated variable leaves as it is.
-/

/-- The resolved variables of files but for a name are those of the other lines. -/
theorem flatMap_resolve_others {rules : VariableRules} {name : String}
    {lists : List (List FileVariable)}
    (h : ∀ vars ∈ lists, ∀ v ∈ rules.others name vars, ∀ w ∈ vars,
      rules.casedName (Text.ofCodes w.name) = rules.casedName name → w.name ∉ v.references)
    (environment : Variables) :
    (lists.map (rules.others name)).flatMap (resolveReferences environment) =
      rules.others name (lists.flatMap (resolveReferences environment)) := by
  rw [List.flatMap_map, VariableRules.others, List.filter_flatMap]
  refine List.flatMap_congr fun vars hvars => ?_
  refine resolveReferences_filter (fun codes => rules.casedName (Text.ofCodes codes) ≠
    rules.casedName name) (fun v hv hkept w hw hleft => ?_) environment
  exact h vars hvars v (List.mem_filter.2 ⟨hv, hkept⟩) w hw
    (not_not.1 (of_decide_eq_false hleft))

section

variable [Platform]

namespace Origin

/-- **The value that the environment files give for a name**, as names are compared. -/
def value (origin : Origin) (environment : Variables) (files : Files) (name : String) :
    Option Value :=
  match origin.lines environment files with
  | .ok lists =>
    (origin.rules.select ((lists.flatMap (resolveReferences environment)).map
      FileVariable.toVariable)).lookup (origin.rules.casedName name)
  | .error _ => none

/-- **The names of variables start as usual**: no option among the entries says otherwise. -/
def KeepsStart (origin : Origin) : Prop :=
  ∀ given, origin.given = .ok given →
    option? given "_env_prefix" = none ∧ option? given "_env_prefix_target" = none

/-- **Nothing refers to a name** in the environment files. -/
def IsUnreferenced (origin : Origin) (environment : Variables) (files : Files) (name : String) :
    Prop :=
  ∀ lists, origin.lines environment files = .ok lists → ∀ vars ∈ lists, ∀ v ∈ vars,
    Text.codes name ∉ v.references

/-- **No path asks for the home directory** of the own user: neither those of environment files nor
    those of directories with secret settings. -/
def AvoidsHome (origin : Origin) : Prop :=
  ∀ given, origin.given = .ok given →
    RecordSearch.AvoidsHome (optionD given "_env_file")
      ∧ RecordSearch.AvoidsHome (optionD given "_secrets_dir")

/-- **Lines for a name are added** to environment files: the files are those with the lines, but
    for all lines of the name, as names are compared. None of the other lines refers to one of them,
    and the files are none where directories should be. -/
structure AddsLines (origin : Origin) (environment : Variables) (name : String)
    (files files' : Files) : Prop where
  lines : origin.lines environment files =
    (fun lists => lists.map (origin.rules.others name)) <$> origin.lines environment files'
  areTexts : ∀ lists, origin.lines environment files' = .ok lists → ∀ vars ∈ lists, ∀ v ∈ vars,
    origin.rules.casedName (Text.ofCodes v.name) = origin.rules.casedName name →
      Text.areText v.name = true
  unreferenced : ∀ lists, origin.lines environment files' = .ok lists → ∀ vars ∈ lists,
    ∀ v ∈ origin.rules.others name vars, ∀ w ∈ vars,
      origin.rules.casedName (Text.ofCodes w.name) = origin.rules.casedName name →
        w.name ∉ v.references
  directories : checkSecretDirectories files' environment origin.secrets =
    checkSecretDirectories files environment origin.secrets

/-- **A setting of no section**: the environment files give a value for the name that is not empty,
    and the name is not that of a section. -/
def IsUnknown (origin : Origin) (environment : Variables) (files : Files) (name : String) : Prop :=
  (∀ part ∈ sections, part.name ≠ origin.rules.casedName name)
    ∧ ∃ v, origin.value environment files name = some v ∧ v.isTruthy = true

end Origin

/-! ### Layers with an unrelated name -/

section

variable {rules : VariableRules} {name : String} {vars : List FileVariable} {files files' : Files}
  {environment : Variables} {secrets : Value}

/-- **Where an unrelated name has no text** in the environment files, the layers are the same. -/
theorem loadLayers_others (h : rules.IsUnrelated name)
    (htexts : ∀ v ∈ vars, rules.casedName (Text.ofCodes v.name) = rules.casedName name →
      Text.areText v.name = true)
    (hdirectories : checkSecretDirectories files' environment secrets =
      checkSecretDirectories files environment secrets)
    (hmem : rules.casedName name ∉ (rules.extrasOf vars).keys) (upper : Document) :
    Settings.loadLayers upper rules secrets environment files' vars =
      Settings.loadLayers upper rules secrets environment files (rules.others name vars) := by
  obtain ⟨read, areNamesText, -, hlayer, hothers⟩ := envFileLayer_ofOthers h htexts
  rw [Document.without_eq_self hmem] at hothers
  rw [Settings.loadLayers, Settings.loadLayers, hlayer, hothers, hdirectories]

/-- **Where an unrelated name has a text** in the environment files, it is refused. -/
theorem gainsFault_loadLayers (h : rules.IsUnrelated name)
    (htexts : ∀ v ∈ vars, rules.casedName (Text.ofCodes v.name) = rules.casedName name →
      Text.areText v.name = true)
    (hdirectories : checkSecretDirectories files' environment secrets =
      checkSecretDirectories files environment secrets)
    (hkey : ∀ part ∈ sections, part.name ≠ rules.casedName name)
    (hmem : rules.casedName name ∈ (rules.extrasOf vars).keys) (upper : Document) :
    GainsFault (unknownFault (rules.casedName name))
      (Settings.loadLayers upper rules secrets environment files (rules.others name vars))
      (Settings.loadLayers upper rules secrets environment files' vars) := by
  obtain ⟨read, areNamesText, -, hlayer, hothers⟩ := envFileLayer_ofOthers h htexts
  rw [Settings.loadLayers, Settings.loadLayers, hlayer, hothers, hdirectories]
  cases environmentLayer rules environment with
  | error e => exact .inr ⟨e, rfl, rfl⟩
  | ok settings =>
    cases read with
    | error e => exact .inr ⟨e, rfl, rfl⟩
    | ok d =>
      cases checkSecretDirectories files environment secrets with
      | error e => exact .inr ⟨e, rfl, rfl⟩
      | ok _ =>
        have hextras : rules.casedName name ∈ Document.keys (d ++ rules.extrasOf vars) := by
          rw [Document.keys, List.map_append]
          exact List.mem_append_right _ hmem
        have hnone : rules.casedName name ∉
            ((rules.extrasOf vars).without (rules.casedName name)).keys := fun hleft =>
          (Document.mem_keys_without_iff.1 hleft).2 rfl
        have hsame : (Settings.mergeLayers upper settings
              (d ++ (rules.extrasOf vars).without (rules.casedName name))).without
                (rules.casedName name) =
            (Settings.mergeLayers upper settings (d ++ rules.extrasOf vars)).without
              (rules.casedName name) := by
          rw [Settings.mergeLayers, Settings.mergeLayers, without_merge, without_merge,
            without_merge, without_merge, Document.without_append, Document.without_append,
            Document.without_eq_self hnone]
        exact gainsFault_check hkey (mem_keys_merge hextras _) hsame areNamesText

end

/-! ### Any origin -/

namespace Origin

variable {origin : Origin}

/-- An unrelated name is one by the rules of the origin. -/
theorem isUnrelated (h : origin.KeepsStart) {name : String} (hname : settingPath? name = none) :
    origin.rules.IsUnrelated name := by
  refine isUnrelated_of_settingPath? ?_ hname
  rw [Origin.rules]
  cases hgiven : origin.given with
  | error e => rfl
  | ok given =>
    obtain ⟨hstart, htarget⟩ := h given hgiven
    show ((VariableRules.ofOptions given).toOption.getD .standard).start = _
    rw [VariableRules.ofOptions, startOption, hstart, startsVariables, htarget]
    rfl

/-- **One line for a new name** adds lines for it, if no other line refers to it. -/
theorem addsLines_of_insert {environment : Variables} {name : String} {files files' : Files}
    {before after : List FileVariable} {text : Option (List Nat)}
    (hlines : origin.lines environment files = .ok [before ++ after])
    (hlines' : origin.lines environment files' =
      .ok [before ++ ⟨Text.codes name, text⟩ :: after])
    (hnew : ∀ v ∈ before ++ after,
      origin.rules.casedName (Text.ofCodes v.name) ≠ origin.rules.casedName name)
    (hfree : ∀ v ∈ before ++ after, Text.codes name ∉ v.references)
    (hdirectories : checkSecretDirectories files' environment origin.secrets =
      checkSecretDirectories files environment origin.secrets) :
    origin.AddsLines environment name files files' := by
  have hothers : origin.rules.others name (before ++ ⟨Text.codes name, text⟩ :: after) =
      before ++ after := by
    have hown : ¬ decide (origin.rules.casedName (Text.ofCodes (Text.codes name)) ≠
        origin.rules.casedName name) = true := by simp [Text.ofCodes_codes]
    rw [VariableRules.others, List.filter_append, List.filter_cons, if_neg hown,
      ← List.filter_append]
    exact List.filter_eq_self.2 fun v hv => decide_eq_true (hnew v hv)
  have hname : ∀ w ∈ before ++ ⟨Text.codes name, text⟩ :: after,
      origin.rules.casedName (Text.ofCodes w.name) = origin.rules.casedName name →
        w.name = Text.codes name := by
    intro w hw heq
    have hmem : w = ⟨Text.codes name, text⟩ ∨ w ∈ before ++ after := by
      rw [List.mem_append, List.mem_cons] at hw
      rw [List.mem_append]
      exact or_left_comm.1 hw
    rcases hmem with rfl | hmem
    · rfl
    · exact absurd heq (hnew w hmem)
  refine ⟨?_, ?_, ?_, hdirectories⟩
  · rw [hlines, hlines']
    exact congrArg (fun vars => Except.ok [vars]) hothers.symm
  · intro lists hlists vars hvars v hv heq
    rw [hlines'] at hlists
    cases hlists
    obtain rfl := List.mem_singleton.1 hvars
    rw [hname v hv heq]
    exact Text.areText_codes name
  · intro lists hlists vars hvars v hv w hw heq
    rw [hlines'] at hlists
    cases hlists
    obtain rfl := List.mem_singleton.1 hvars
    rw [hothers] at hv
    rw [hname w hw heq]
    exact hfree v hv

/-- The environment files stay the same with a variable of the environment that no path asks for. -/
theorem lines_of_avoidsHome {name : String} (h : name = homeName → origin.AvoidsHome)
    (before after : Variables) (v : Value) (files : Files) :
    origin.lines (before ++ (name, v) :: after) files = origin.lines (before ++ after) files := by
  rw [lines, lines]
  cases hgiven : origin.given with
  | error e => rfl
  | ok given =>
    have hfiles := envFileLines_of_avoidsHome (fun hname => (h hname given hgiven).1) before after v
      files (optionD given "_env_file_encoding") (optionD given "_env_file_depth")
    show Settings.envFileLines given _ files = Settings.envFileLines given _ files
    rw [Settings.envFileLines, Settings.envFileLines, hfiles]

/-- The directories with secret settings are found to be the same. -/
theorem secrets_of_avoidsHome {name : String} (h : name = homeName → origin.AvoidsHome)
    (before after : Variables) (v : Value) (files : Files) :
    checkSecretDirectories files (before ++ (name, v) :: after) origin.secrets =
      checkSecretDirectories files (before ++ after) origin.secrets := by
  rw [secrets]
  cases hgiven : origin.given with
  | error e => rfl
  | ok given =>
    exact checkSecretDirectories_of_avoidsHome (fun hname => (h hname given hgiven).2) before after
      v files

/-- **An unrelated variable of the environment** changes nothing if nothing refers to it and no path
    asks for it. -/
theorem load_environment (hstart : origin.KeepsStart) {name : String}
    (hname : settingPath? name = none) {files : Files} {before after : Variables}
    (hfree : origin.IsUnreferenced (before ++ after) files name)
    (hhome : name = homeName → origin.AvoidsHome) (v : Value) :
    origin.load (before ++ (name, v) :: after) files = origin.load (before ++ after) files := by
  rcases origin.load_eq_bind with ⟨e, he⟩ | ⟨outcome, -, houtcome⟩ | ⟨upper?, hlayers⟩
  · rw [he, he]
  · rw [houtcome, houtcome]
  · rw [hlayers, hlayers, lines_of_avoidsHome hhome]
    cases hlines : origin.lines (before ++ after) files with
    -- Both sides are this error, whatever would come after it.
    | error e => exact Eq.refl (Except.error e)
    | ok lists =>
      have hvars : lists.flatMap (resolveReferences (before ++ (name, v) :: after)) =
          lists.flatMap (resolveReferences (before ++ after)) :=
        List.flatMap_congr fun vars hmem =>
          resolveReferences_of_unreferenced (hfree lists hlines vars hmem) before after v
      have hlayer := environmentLayer_eq_of_unrelated (isUnrelated hstart hname) before after v
      dsimp only [bind, Except.bind]
      rw [hvars]
      cases upper? with
      | error e => exact Eq.refl (Except.error e)
      | ok upper =>
        dsimp only
        rw [Settings.loadLayers, Settings.loadLayers, hlayer, secrets_of_avoidsHome hhome]

/-- **An unrelated name in an environment file** is refused if it has a text, unless it is the name
    of a section, and changes nothing otherwise. -/
theorem load_files (hstart : origin.KeepsStart) {name : String} (hname : settingPath? name = none)
    {environment : Variables} {files files' : Files}
    (hadds : origin.AddsLines environment name files files') :
    (origin.IsUnknown environment files' name →
      GainsFault (unknownFault (origin.rules.casedName name)) (origin.load environment files)
        (origin.load environment files'))
    ∧ (¬ origin.IsUnknown environment files' name →
      origin.load environment files' = origin.load environment files) := by
  have hunrelated := isUnrelated hstart hname
  -- What is given fails in any surroundings, or reads none of them, or is put on top of the layers
  -- of both.
  rcases origin.load_eq_bind with ⟨e, he⟩ | ⟨_, hnone, houtcome⟩ | ⟨upper?, hlayers⟩
  · rw [he, he]
    exact ⟨fun _ => .inr ⟨e, rfl, rfl⟩, fun _ => rfl⟩
  · rw [houtcome, houtcome]
    refine ⟨fun ⟨_, v, hv, _⟩ => ?_, fun _ => rfl⟩
    rw [value, hnone] at hv
    cases hv
  · rw [hlayers, hlayers, hadds.lines]
    cases hlines : origin.lines environment files' with
    | error e => exact ⟨fun _ => .inr ⟨e, rfl, rfl⟩, fun _ => rfl⟩
    | ok lists =>
      have hothers := flatMap_resolve_others (hadds.unreferenced lists hlines) environment
      have htexts : ∀ v ∈ lists.flatMap (resolveReferences environment),
          origin.rules.casedName (Text.ofCodes v.name) = origin.rules.casedName name →
            Text.areText v.name = true := by
        intro v hv heq
        obtain ⟨vars, hvars, hmem⟩ := List.mem_flatMap.1 hv
        obtain ⟨u, hu, hsame⟩ := exists_of_mem_resolveReferences hmem
        rw [← hsame] at heq ⊢
        exact hadds.areTexts lists hlines vars hvars u hu heq
      -- The name is unknown exactly if the environment file adds an entry for it.
      have hunknown : origin.IsUnknown environment files' name ↔
          origin.rules.casedName name ∈
            (origin.rules.extrasOf (lists.flatMap (resolveReferences environment))).keys := by
        rw [mem_keys_extrasOf_iff hunrelated, IsUnknown, value, hlines]
      rw [hunknown]
      dsimp only [Functor.map, Except.map, bind, Except.bind]
      rw [hothers]
      cases upper? with
      | error e => exact ⟨fun _ => .inr ⟨e, rfl, rfl⟩, fun _ => rfl⟩
      | ok upper =>
        refine ⟨fun hmem => ?_, fun hmem => ?_⟩
        · exact gainsFault_loadLayers hunrelated htexts hadds.directories
            ((mem_keys_extrasOf_iff hunrelated _).1 hmem).1 hmem upper
        · exact loadLayers_others hunrelated htexts hadds.directories hmem upper

end Origin

/-- **Unrelated variables.** A name that does not start with `elasticscout_`, in any case, does not
    influence what is loaded from given entries or a file, where no option changes that start. In
    the environment it changes nothing if no environment file refers to it, and it is not the name
    by which a path asks for the home directory.

    If lines for it are added to environment files, nothing changes without a text for it or under
    the name of a section. Whatever the lines are, settings that are loaded with them are those that
    are loaded without. -/
theorem unrelated_variables {origin : Origin} (hstart : origin.KeepsStart) {name : String}
    (hname : settingPath? name = none) (files : Files) :
    (∀ before after v, origin.IsUnreferenced (before ++ after) files name →
      (name = homeName → origin.AvoidsHome) →
      origin.load (before ++ (name, v) :: after) files = origin.load (before ++ after) files)
    ∧ ∀ environment files', origin.AddsLines environment name files files' →
      (∀ settings, origin.load environment files' = .ok settings →
        origin.load environment files = .ok settings)
      ∧ (¬ origin.IsUnknown environment files' name →
        origin.load environment files' = origin.load environment files) := by
  constructor
  · intro before after v hfree hhome
    exact origin.load_environment hstart hname hfree hhome v
  · intro environment files' hadds
    obtain ⟨hunknown, hknown⟩ := origin.load_files hstart hname hadds
    refine ⟨fun settings hload => ?_, hknown⟩
    by_cases hcase : origin.IsUnknown environment files' name
    · cases (hunknown hcase).ne_ok hload
    · rw [← hknown hcase, hload]

end

/-! ### A database beside the settings -/

attribute [local instance] Platform.plain

/-- Given entries with a timeout. -/
def timeoutOrigin : Origin := .entries [("connection", .mapping [("timeout", .int 5)])]

/-- A variable of the environment for the user. -/
def adaVariable : String × Value := ("ELASTICSCOUT_CONNECTION__USERNAME", .str "ada")

/-- An environment file that gives the level of the log. -/
def logFiles : Files := [(".env", "ELASTICSCOUT_OBSERVABILITY__LOG_LEVEL=debug")]

/-- The environment file with a line for a database whose address is empty. -/
def emptyAddressFiles : Files :=
  [(".env", "ELASTICSCOUT_OBSERVABILITY__LOG_LEVEL=debug\nDATABASE_URL=")]

/-- The line for the level of the log. -/
def logLine : FileVariable :=
  ⟨Text.codes "ELASTICSCOUT_OBSERVABILITY__LOG_LEVEL", some (Text.codes "debug")⟩

theorem keepsStart_timeoutOrigin : timeoutOrigin.KeepsStart := by
  rintro given ⟨⟩
  exact ⟨rfl, rfl⟩

theorem casedName_database :
    timeoutOrigin.rules.casedName "DATABASE_URL" = "database_url" := by decide

theorem lines_logFiles : timeoutOrigin.lines [adaVariable] logFiles = .ok [[logLine]] :=
  toOption_eq_some_iff.1 (by decide)

/-- Nothing in the environment file refers to another variable. -/
theorem isUnreferenced_logFiles (name : String) :
    timeoutOrigin.IsUnreferenced [adaVariable] logFiles name := by
  intro lists hlists vars hvars v hv
  rw [lines_logFiles] at hlists
  cases hlists
  rw [List.mem_singleton.1 hvars] at hv
  have hnone : logLine.references = [] := by decide
  rw [List.mem_singleton.1 hv, hnone]
  exact List.not_mem_nil

/-- The environment file has one more line. -/
theorem addsLines_emptyAddressFiles :
    timeoutOrigin.AddsLines [adaVariable] "DATABASE_URL" logFiles emptyAddressFiles := by
  have hone : timeoutOrigin.lines [adaVariable] logFiles = .ok [[logLine] ++ []] := lines_logFiles
  have htwo : timeoutOrigin.lines [adaVariable] emptyAddressFiles =
      .ok [[logLine] ++ ⟨Text.codes "DATABASE_URL", some []⟩ :: []] :=
    toOption_eq_some_iff.1 (by decide)
  refine Origin.addsLines_of_insert hone htwo (fun v hv => ?_) (fun v hv => ?_) ?_
  · rw [List.mem_singleton.1 hv, casedName_database]
    decide
  · rw [List.mem_singleton.1 hv]
    decide
  · rfl

/-- No path asks for the home directory. -/
theorem avoidsHome_timeoutOrigin : timeoutOrigin.AvoidsHome := by
  rintro given ⟨⟩
  exact ⟨nofun, nofun⟩

/-- The address of a database is not looked at in the environment, and neither is the home
    directory. A line without an address changes nothing either. -/
theorem database_not_looked_at :
    timeoutOrigin.load [("DATABASE_URL", .str "db"), adaVariable] logFiles =
        timeoutOrigin.load [adaVariable] logFiles
      ∧ timeoutOrigin.load [(homeName, .str "/ada"), adaVariable] logFiles =
        timeoutOrigin.load [adaVariable] logFiles
      ∧ timeoutOrigin.load [adaVariable] emptyAddressFiles =
        timeoutOrigin.load [adaVariable] logFiles := by
  have hname : settingPath? "DATABASE_URL" = none := by decide
  have hhome : settingPath? homeName = none := by decide
  obtain ⟨henvironment, hfiles⟩ := unrelated_variables keepsStart_timeoutOrigin hname logFiles
  obtain ⟨hdirectory, -⟩ := unrelated_variables keepsStart_timeoutOrigin hhome logFiles
  obtain ⟨-, hsame⟩ := hfiles [adaVariable] _ addsLines_emptyAddressFiles
  have hempty : (timeoutOrigin.value [adaVariable] emptyAddressFiles "DATABASE_URL").any
      Value.isTruthy = false := by decide
  refine ⟨henvironment [] [adaVariable] _ (isUnreferenced_logFiles _) fun _ =>
      avoidsHome_timeoutOrigin,
    hdirectory [] [adaVariable] _ (isUnreferenced_logFiles _) fun _ => avoidsHome_timeoutOrigin,
    hsame ?_⟩
  rintro ⟨-, htext⟩
  rw [(Option.any_eq_true _ _).2 htext] at hempty
  cases hempty

/-! ### References, home directories and options -/

/-- An environment file in which the user is that of the database. -/
def referringFiles : Files := [(".env", "ELASTICSCOUT_CONNECTION__USERNAME=$\x7bDATABASE_USER\x7d")]

/-- An environment file with another name, which is asked for in the home directory. -/
def homeFiles : Files := [("ada.env", "ELASTICSCOUT_CONNECTION__USERNAME=ada")]

/-- The user that is loaded, if settings are. -/
def userOf (outcome : Except Error Settings) : Option (Option String) :=
  outcome.toOption.map (·.connection.username)

/-- **Unrelated names can matter.** A reference in the environment file takes the text of one from
    the environment, a path takes the home directory from there, and by options among the entries
    variables have such names. -/
theorem unrelated_names_matter :
    (settingPath? "DATABASE_USER" = none
        ∧ userOf (Settings.load [] [] referringFiles) = some (some "")
        ∧ userOf (Settings.load [] [("DATABASE_USER", .str "ada")] referringFiles) =
          some (some "ada"))
      ∧ (settingPath? homeName = none
        ∧ userOf (Settings.load [("_env_file", .str "~/ada.env")] [] homeFiles) = some none
        ∧ userOf (Settings.load [("_env_file", .str "~/ada.env")] [(homeName, .str ".")]
          homeFiles) = some (some "ada"))
      ∧ (settingPath? "DATABASE_CONNECTION__USERNAME" = none
        ∧ userOf (Settings.load [("_env_prefix", .str "DATABASE_")] [] []) = some none
        ∧ userOf (Settings.load [("_env_prefix", .str "DATABASE_")]
          [("DATABASE_CONNECTION__USERNAME", .str "ada")] []) = some (some "ada"))
      ∧ settingPath? "CONNECTION__USERNAME" = none
      ∧ userOf (Settings.load [("_env_prefix_target", .str "alias")] [] []) = some none
      ∧ userOf (Settings.load [("_env_prefix_target", .str "alias")]
        [("CONNECTION__USERNAME", .str "ada")] []) = some (some "ada") := by
  refine ⟨⟨by decide, by decide +kernel, by decide +kernel⟩,
    ⟨by decide, by decide +kernel, by decide +kernel⟩,
    ⟨by decide, by decide +kernel, by decide +kernel⟩,
    by decide, by decide +kernel, by decide +kernel⟩

end RecordSearch
