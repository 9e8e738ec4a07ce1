import RecordSearch.Proofs.Json.Grammar
import RecordSearch.Proofs.Settings.Checking
import RecordSearch.Proofs.Settings.LayerTrees
import RecordSearch.Proofs.Settings.Loading

namespace RecordSearch

/-!
# Settings leaf by leaf

The settings of a file, of the environment and of an environment file are merged. Where the three
agree about what branches, each leaf counts on its own: the first of the three that has it decides.

* `firstOf`: the nodes of the first of three trees that has one;
* `Layered`, `layerNodes`: given entries and variables that agree, and their nodes together;
* `AddsHidden`: variables with others added, for leaves that are given already;
* `nodeAt?_layers`: the tree of the merged layers;
* `followFrom_of_load`, `exists_load`: what is loaded follows from the first nodes, and is loaded if
  all variables can be read;
* `settings_combine_leafwise`: the settings follow from the first nodes, and hidden variables
  change nothing.
-/

/-- **The first of three trees** that has a node at a path decides. -/
def firstOf (given environment envFile : Nodes) : Nodes := fun path =>
  (given path).or ((environment path).or (envFile path))

/-- **Layers that agree.** The given keys are in lower case, the environment and the environment
    file, with its references resolved, hold variables for settings, and the three trees agree. -/
structure Layered [Platform] (given : Document) (environment : Variables) (files : Files)
    (envFile : List FileVariable) : Prop where
  lower : ∀ key ∈ given.keys, Text.lower key = key
  read : readEnvFiles files environment none .null .null = .ok envFile
  areEnvironment : AreSettings environment
  areEnvFile : AreSettings (envFile.map FileVariable.toVariable)
  givenEnvironment : Agree (Value.mapping given).nodeAt? (variableNodes .environment environment)
  givenEnvFile : Agree (Value.mapping given).nodeAt?
    (variableNodes .envFile (envFile.map FileVariable.toVariable))
  environmentEnvFile : Agree (variableNodes .environment environment)
    (variableNodes .envFile (envFile.map FileVariable.toVariable))

/-- The nodes of all layers: first those of the given entries, then those of the environment, and
    then those of the environment file. -/
def layerNodes [Platform] (given : Document) (environment : Variables)
    (envFile : List FileVariable) : Nodes :=
  firstOf (Value.mapping given).nodeAt? (variableNodes .environment environment)
    (variableNodes .envFile (envFile.map FileVariable.toVariable))

/-- **Hidden variables are added**: all variables are kept, and each new one can be read and is for
    a leaf that is given. -/
structure AddsHidden [Platform] (layer : TextLayer) (given : Document)
    (vars vars' : Variables) : Prop where
  kept : ∀ var ∈ vars, var ∈ vars'
  added : ∀ var ∈ vars', var ∈ vars ∨ IsReadable layer var
    ∧ ∃ place v, settingPath? var.1 = some place
      ∧ (Value.mapping given).nodeAt? place = some (.leaf v)

/-! ### Merging -/

/-- **Layers that agree are merged leaf by leaf.** -/
theorem nodeAt?_mergeLayers {given environment envFile : Document}
    (hgiven : (Value.mapping given).HasDistinctKeys)
    (henvironment : (Value.mapping environment).HasDistinctKeys)
    (henvFile : (Value.mapping envFile).HasDistinctKeys)
    (hupper : Agree (Value.mapping given).nodeAt? (Value.mapping environment).nodeAt?)
    (houter : Agree (Value.mapping given).nodeAt? (Value.mapping envFile).nodeAt?)
    (hlower : Agree (Value.mapping environment).nodeAt? (Value.mapping envFile).nodeAt?) :
    (Value.mapping (Settings.mergeLayers given environment envFile)).HasDistinctKeys
      ∧ (Value.mapping (Settings.mergeLayers given environment envFile)).nodeAt? =
        firstOf (Value.mapping given).nodeAt? (Value.mapping environment).nodeAt?
          (Value.mapping envFile).nodeAt? := by
  have hmerged := hgiven.merge henvironment
  have hnodes := funext (Value.nodeAt?_merge hgiven hupper)
  rw [Value.merge_mapping] at hmerged hnodes
  -- What agrees with both layers agrees with the merged one, so the second merge is like the first.
  have hagree : Agree (Value.mapping (Document.merge environment given)).nodeAt?
      (Value.mapping envFile).nodeAt? := by
    rw [hnodes]
    exact houter.or hlower
  rw [Settings.mergeLayers, ← Value.merge_mapping]
  refine ⟨hmerged.merge henvFile, funext fun path => ?_⟩
  rw [Value.nodeAt?_merge hmerged hagree, hnodes]
  exact Option.or_assoc

/-! ### Loading -/

section

variable {given : Document} {environment : Variables} {files : Files} {envFile : List FileVariable}

/-- The given entries have the tree of the layer that they are. -/
theorem nodeAt?_givenLayer [Platform] (h : Layered given environment files envFile)
    (hkeys : (Value.mapping given).HasDistinctKeys) :
    (Value.mapping (givenLayer given)).HasDistinctKeys
      ∧ (Value.mapping (givenLayer given)).nodeAt? = (Value.mapping given).nodeAt? := by
  obtain ⟨hown, hbelow⟩ := (Value.hasDistinctKeys_mapping_iff given).1 hkeys
  have hget := get?_givenLayer h.lower hown
  constructor
  · refine (Value.hasDistinctKeys_mapping_iff _).2
      ⟨nodup_keys_givenLayer h.lower hown, fun key v hv => hbelow key v ?_⟩
    rw [← hget]
    exact hv
  · funext path
    cases path with
    | nil => rfl
    | cons key path => rw [Value.nodeAt?_mapping_cons, hget, Value.nodeAt?_mapping_cons]

/-- The tree of the merged layers is that of the first layer with a node. -/
theorem nodeAt?_layers [Platform] (h : Layered given environment files envFile)
    (hgivenKeys : (Value.mapping given).HasDistinctKeys) {d fileSettings : Document}
    {areNamesText : Bool} (henvironment : environmentLayer .standard environment = .ok d)
    (hfile : envFileLayer .standard envFile = .ok (fileSettings, areNamesText)) :
    (Value.mapping (Settings.mergeLayers (givenLayer given) d fileSettings)).HasDistinctKeys
      ∧ (Value.mapping (Settings.mergeLayers (givenLayer given) d fileSettings)).nodeAt? =
        layerNodes given environment envFile := by
  obtain ⟨hlayerKeys, hgiven⟩ := nodeAt?_givenLayer h hgivenKeys
  obtain ⟨hkeys, hnodes⟩ := nodeAt?_environmentLayer h.areEnvironment henvironment
  obtain ⟨-, hfileKeys, hfileNodes⟩ := nodeAt?_envFileLayer h.areEnvFile hfile
  rw [layerNodes, ← hgiven, ← hnodes, ← hfileNodes]
  refine nodeAt?_mergeLayers hlayerKeys hkeys hfileKeys ?_ ?_ ?_
  · rw [hgiven, hnodes]
    exact h.givenEnvironment
  · rw [hgiven, hfileNodes]
    exact h.givenEnvFile
  · rw [hnodes, hfileNodes]
    exact h.environmentEnvFile

/-- Settings that are loaded follow from the layers, whose variables can be read. -/
theorem followFrom_of_load [Platform] (h : Layered given environment files envFile)
    (hoptions : HasNoOptions given) (hgivenKeys : (Value.mapping given).HasDistinctKeys)
    {settings : Settings}
    (hload : Settings.load given environment files = .ok settings) :
    settings.FollowFrom (layerNodes given environment envFile)
      ∧ (∀ var ∈ environment, IsReadable .environment var)
      ∧ ∀ var ∈ envFile.map FileVariable.toVariable, IsReadable .envFile var := by
  rw [load_eq hoptions (contains_ownName_of_load hload) h.read] at hload
  obtain ⟨d, henvironment, hrest⟩ := bind_eq_ok_iff.1 hload
  obtain ⟨⟨fileSettings, areNamesText⟩, hfile, hcheck⟩ := bind_eq_ok_iff.1 hrest
  obtain ⟨rfl, -⟩ := nodeAt?_envFileLayer h.areEnvFile hfile
  obtain ⟨hkeys, hnodes⟩ := nodeAt?_layers h hgivenKeys henvironment hfile
  refine ⟨?_, isReadable_of_environmentLayer h.areEnvironment henvironment,
    isReadable_of_envFileLayer h.areEnvFile hfile⟩
  rw [← hnodes]
  exact Settings.followFrom_of_check hkeys hcheck

/-- Settings that follow from layers whose variables can be read are loaded. -/
theorem exists_load [Platform] (h : Layered given environment files envFile)
    (hoptions : HasNoOptions given) (hgivenKeys : (Value.mapping given).HasDistinctKeys)
    (hown : given.keys.contains ownName = false)
    (henvironment : ∀ var ∈ environment, IsReadable .environment var)
    (henvFile : ∀ var ∈ envFile.map FileVariable.toVariable, IsReadable .envFile var)
    {settings : Settings} (hfollow : settings.FollowFrom (layerNodes given environment envFile)) :
    ∃ settings', Settings.load given environment files = .ok settings' := by
  obtain ⟨d, hd⟩ := exists_environmentLayer h.areEnvironment henvironment
  obtain ⟨fileSettings, hfile⟩ := exists_envFileLayer h.areEnvFile henvFile
  rw [← (nodeAt?_layers h hgivenKeys hd hfile).2] at hfollow
  obtain ⟨settings', hcheck⟩ := Settings.exists_check hfollow
  refine ⟨settings', ?_⟩
  rw [load_eq hoptions hown h.read, ← hcheck, hd, hfile]
  rfl

/-- Hidden variables add no nodes where nothing is given. -/
theorem AddsHidden.variableNodes_eq [Platform] {layer : TextLayer} {vars vars' : Variables}
    (hadds : AddsHidden layer given vars vars') (hvars : AreSettings vars)
    (hvars' : AreSettings vars')
    (hagree : Agree (Value.mapping given).nodeAt? (variableNodes layer vars'))
    {path : List String} (hpath : (Value.mapping given).nodeAt? path = none) :
    variableNodes layer vars' path = variableNodes layer vars path := by
  cases path with
  | nil => cases hpath
  | cons key path =>
    refine Option.ext fun node => ?_
    rw [hvars'.variableNodes_eq_some_iff, hvars.variableNodes_eq_some_iff]
    refine ⟨fun hnew => ?_, fun hold => ?_⟩
    · obtain ⟨var, hvar, hdefined⟩ := hnew
      rcases hadds.added var hvar with hold | ⟨-, place, v, hplace, hleaf⟩
      · exact ⟨var, hold, hdefined⟩
      · obtain ⟨place', w, hplace', hmeaning, hplaced⟩ := exists_of_definedNodes hdefined
        obtain rfl : place = place' := Option.some.inj (hplace.symm.trans hplace')
        have hw : w.node ≠ .branch := by
          intro hbranch
          obtain ⟨part, -, keys, hkeys⟩ := hvars'.exists_cons hvar
          obtain rfl : place = part.name :: keys := Option.some.inj (hplace.symm.trans hkeys)
          refine hagree.1 ⟨_, v, hleaf, hvars'.variableNodes_eq_some_iff.2 ⟨var, hvar, ?_⟩⟩
          rw [definedNodes_eq hplace hmeaning, placed_self, hbranch]
        rw [placed_eq_none hleaf hw hpath] at hplaced
        cases hplaced
    · obtain ⟨var, hvar, hdefined⟩ := hold
      exact ⟨var, hadds.kept var hvar, hdefined⟩

/-- Hidden variables leave the nodes of all layers as they are. -/
theorem layerNodes_eq_of_addsHidden [Platform] {environment' : Variables} {files' : Files}
    {envFile' : List FileVariable} (h : Layered given environment files envFile)
    (h' : Layered given environment' files' envFile')
    (henvironment : AddsHidden .environment given environment environment')
    (henvFile : AddsHidden .envFile given (envFile.map FileVariable.toVariable)
      (envFile'.map FileVariable.toVariable)) :
    layerNodes given environment' envFile' = layerNodes given environment envFile := by
  funext path
  rw [layerNodes, layerNodes, firstOf, firstOf]
  cases hgiven : (Value.mapping given).nodeAt? path with
  | some node => rw [Option.some_or, Option.some_or]
  | none =>
    rw [henvironment.variableNodes_eq h.areEnvironment h'.areEnvironment h'.givenEnvironment hgiven,
      henvFile.variableNodes_eq h.areEnvFile h'.areEnvFile h'.givenEnvFile hgiven]

end

/-- **Settings are combined leaf by leaf.** A file gives what is read from it, whatever reads it:
    entries of a mapping, in which as always each key stands once, or none if the file is empty.
    Where the layers agree and no option is given, settings that are loaded follow from the first
    nodes of the layers: each leaf is that of the given entries, or else that of the environment, or
    else that of the environment file. If variables are added for leaves that are given, the same
    settings are loaded. -/
theorem settings_combine_leafwise [Platform] {path text : String} {content : Value}
    {given : Document} {environment : Variables} {files : Files} {envFile : List FileVariable}
    {settings : Settings} (hread : Platform.readDocument (normalPath path) text = .ok content)
    (hgiven : Settings.givenByFile content = .ok given)
    (hkeys : (Value.mapping given).HasDistinctKeys)
    (h : Layered given environment files envFile) (hoptions : HasNoOptions given)
    (hload : Settings.ofFile path (some text) environment files = .ok settings) :
    settings.FollowFrom (layerNodes given environment envFile)
      ∧ ∀ environment' files' envFile', Layered given environment' files' envFile' →
        AddsHidden .environment given environment environment' →
        AddsHidden .envFile given (envFile.map FileVariable.toVariable)
          (envFile'.map FileVariable.toVariable) →
        ∃ settings', Settings.ofFile path (some text) environment' files' = .ok settings'
          ∧ settings.SameBy (layerNodes given environment envFile) settings' := by
  rw [ofFile_eq_load hread hgiven] at hload
  obtain ⟨hfollow, hreadable, hfileReadable⟩ := followFrom_of_load h hoptions hkeys hload
  refine ⟨hfollow, fun environment' files' envFile' h' henvironment henvFile => ?_⟩
  have hnodes := layerNodes_eq_of_addsHidden h h' henvironment henvFile
  have hreadable' : ∀ var ∈ environment', IsReadable .environment var := fun var hvar =>
    (henvironment.added var hvar).elim (hreadable var) And.left
  have hfileReadable' : ∀ var ∈ envFile'.map FileVariable.toVariable, IsReadable .envFile var :=
    fun var hvar => (henvFile.added var hvar).elim (hfileReadable var) And.left
  rw [← hnodes] at hfollow
  obtain ⟨settings', hload'⟩ := exists_load h' hoptions hkeys (contains_ownName_of_load hload)
    hreadable' hfileReadable' hfollow
  refine ⟨settings', ?_, ?_⟩
  · rw [ofFile_eq_load hread hgiven]
    exact hload'
  · rw [← hnodes]
    exact hfollow.sameBy (followFrom_of_load h' hoptions hkeys hload').1

/-! ### Files with one setting each -/

/-- A file that gives the timeout. -/
def timeoutText : String := "connection:\n  timeout: 5\n"

/-- What the file gives. -/
def timeoutGiven : Document := [("connection", .mapping [("timeout", .int 5)])]

/-- A file that gives hosts as the keys of a mapping. -/
def hostsText : String := "connection:\n  hosts:\n    https://a: 1\n"

/-- What the file gives. -/
def hostsGiven : Document :=
  [("connection", .mapping [("hosts", .mapping [("https://a", .int 1)])])]

/-- A file in which an option says that the case of names counts. -/
def caseText : String := "_case_sensitive: true\n"

/-- What the file gives. -/
def caseGiven : Document := [("_case_sensitive", .bool true)]

/-- A platform that knows these files. -/
@[reducible] def filePlatform : Platform :=
  .small [(timeoutText, .mapping timeoutGiven), (hostsText, .mapping hostsGiven),
    (caseText, .mapping caseGiven)]

attribute [local instance] filePlatform

/-- A variable for the user. -/
def userVariable : String × Value := ("ELASTICSCOUT_CONNECTION__USERNAME", .str "ada")

/-- A variable for the timeout. -/
def timeoutVariable : String × Value := ("ELASTICSCOUT_CONNECTION__TIMEOUT", .str "3")

/-- An environment file that gives the level of the log. -/
def levelFiles : Files := [(".env", "ELASTICSCOUT_OBSERVABILITY__LOG_LEVEL=debug")]

/-- The variable of the environment file. -/
def levelVariable : FileVariable :=
  ⟨Text.codes "ELASTICSCOUT_OBSERVABILITY__LOG_LEVEL", some (Text.codes "debug")⟩

theorem settingPath?_userVariable :
    settingPath? userVariable.1 = some ["connection", "username"] := by decide

theorem settingPath?_timeoutVariable :
    settingPath? timeoutVariable.1 = some ["connection", "timeout"] := by decide

theorem settingPath?_levelVariable :
    settingPath? levelVariable.toVariable.1 = some ["observability", "log_level"] := by
  decide

theorem definedNodes_userVariable :
    definedNodes .environment userVariable = placed ["connection", "username"] (.str "ada") :=
  definedNodes_eq settingPath?_userVariable rfl

theorem definedNodes_timeoutVariable :
    definedNodes .environment timeoutVariable = placed ["connection", "timeout"] (.str "3") :=
  definedNodes_eq settingPath?_timeoutVariable rfl

theorem definedNodes_levelVariable :
    definedNodes .envFile levelVariable.toVariable =
      placed ["observability", "log_level"] (.str "debug") :=
  definedNodes_eq settingPath?_levelVariable rfl

/-- The environment file holds variables for settings. -/
theorem areSettings_levelVariable :
    AreSettings ([levelVariable].map FileVariable.toVariable) := by
  have hpaths : ([levelVariable].map FileVariable.toVariable).map (fun var => settingPath? var.1) =
      [["observability", "log_level"]].map some := congrArg (fun path => [path])
        settingPath?_levelVariable
  refine .of_paths hpaths (by decide) (by decide) fun var hvar => .inr ?_
  rw [List.mem_singleton.1 hvar]
  decide

/-- The layers agree, with a variable for the timeout and without it. -/
theorem layered_timeoutGiven {environment : Variables} (hsettings : AreSettings environment)
    (hmem : ∀ var ∈ environment, var = userVariable ∨ var = timeoutVariable)
    (hread : readEnvFiles levelFiles environment none .null .null = .ok [levelVariable]) :
    Layered timeoutGiven environment levelFiles [levelVariable] := by
  have hfile : ∀ nodes : Nodes, nodes [] = some .branch →
      Agree nodes (placed ["observability", "log_level"] (.str "debug")) →
      Agree nodes (variableNodes .envFile [levelVariable.toVariable]) := by
    intro nodes hroot hnodes
    refine agree_variableNodes hroot fun var hvar => ?_
    rw [List.mem_singleton.1 hvar, definedNodes_levelVariable]
    exact hnodes
  have hconnection : ∀ v, timeoutGiven.get? "connection" = some v →
      v = .mapping [("timeout", .int 5)] := fun v hv => (Option.some.inj hv).symm
  exact {
    lower := by decide
    read := hread
    areEnvironment := hsettings
    areEnvFile := areSettings_levelVariable
    givenEnvironment := agree_variableNodes rfl fun var hvar => by
      rcases hmem var hvar with rfl | rfl
      · rw [definedNodes_userVariable]
        refine agree_placed_cons fun v hv => ?_
        rw [hconnection v hv]
        exact agree_placed_cons nofun
      · rw [definedNodes_timeoutVariable]
        refine agree_placed_cons fun v hv => ?_
        rw [hconnection v hv]
        refine agree_placed_cons fun v hv => ?_
        obtain rfl : Value.int 5 = v := Option.some.inj hv
        rw [placed_root]
        exact agree_of_leaves rfl rfl
    givenEnvFile := hfile _ rfl (agree_placed_cons nofun)
    environmentEnvFile := by
      refine hfile _ rfl (agree_variableNodes (placed_nil (by decide) _) fun var hvar => ?_).symm
      rcases hmem var hvar with rfl | rfl
      · rw [definedNodes_userVariable]
        exact agree_placed (by decide) _ _
      · rw [definedNodes_timeoutVariable]
        exact agree_placed (by decide) _ _ }

/-- With a file that gives the timeout, the settings are combined from the file, a variable for the
    user and an environment file. A variable for the timeout changes nothing. -/
theorem timeoutGiven_combined :
    ∃ settings, Settings.ofFile "settings.yaml" (some timeoutText) [userVariable] levelFiles =
        .ok settings
      ∧ settings.FollowFrom (layerNodes timeoutGiven [userVariable] [levelVariable])
      ∧ ∃ settings', Settings.ofFile "settings.yaml" (some timeoutText)
          [timeoutVariable, userVariable] levelFiles = .ok settings'
        ∧ settings.SameBy (layerNodes timeoutGiven [userVariable] [levelVariable]) settings' := by
  have hread : Platform.readDocument (normalPath "settings.yaml") timeoutText =
      .ok (.mapping timeoutGiven) := rfl
  have htimeout : (Value.mapping [("timeout", .int 5)]).HasDistinctKeys :=
    hasDistinctKeys_of_forall_mem (by decide)
      (List.forall_mem_singleton.2 (Value.hasDistinctKeys_of_leaf rfl))
  have hkeys : (Value.mapping timeoutGiven).HasDistinctKeys :=
    hasDistinctKeys_of_forall_mem (by decide) (List.forall_mem_singleton.2 htimeout)
  have hboth : AreSettings [timeoutVariable, userVariable] := by
    have hpaths : [timeoutVariable, userVariable].map (fun var => settingPath? var.1) =
        [["connection", "timeout"], ["connection", "username"]].map some := by
      simp only [List.map_cons, List.map_nil, settingPath?_timeoutVariable,
        settingPath?_userVariable]
    refine .of_paths hpaths (by decide) (by decide) fun var hvar => .inr ?_
    rcases List.mem_pair.1 hvar with rfl | rfl <;> rfl
  have hfiles : (readEnvFiles levelFiles [userVariable] none .null .null).toOption =
        some [levelVariable]
      ∧ (readEnvFiles levelFiles [timeoutVariable, userVariable] none .null .null).toOption =
        some [levelVariable] := by decide
  have hlayers := layered_timeoutGiven hboth.of_cons
    (fun var hvar => .inl (List.mem_singleton.1 hvar)) (toOption_eq_some_iff.1 hfiles.1)
  have hlayers' := layered_timeoutGiven hboth
    (fun var hvar => (List.mem_pair.1 hvar).symm) (toOption_eq_some_iff.1 hfiles.2)
  have hoptions : HasNoOptions timeoutGiven := by decide
  have hsome : (Settings.ofFile "settings.yaml" (some timeoutText) [userVariable]
      levelFiles).toOption.isSome = true := by decide +kernel
  obtain ⟨settings, hsettings⟩ := Option.isSome_iff_exists.1 hsome
  have hload := toOption_eq_some_iff.1 hsettings
  obtain ⟨hfollow, hadd⟩ := settings_combine_leafwise hread rfl hkeys hlayers hoptions hload
  refine ⟨settings, hload, hfollow, hadd _ _ _ hlayers' ⟨?_, ?_⟩ ⟨fun _ => id, fun _ => .inl⟩⟩
  · exact fun var hvar => List.mem_cons_of_mem _ hvar
  · intro var hvar
    rcases List.mem_cons.1 hvar with rfl | hvar
    · refine .inr ⟨fun path hsame => ?_, _, .int 5, settingPath?_timeoutVariable, rfl⟩
      rw [settingPath?_timeoutVariable] at hsame
      cases hsame
      exact ⟨_, rfl⟩
    · exact .inl hvar

/-! ### Hosts with keys, and options -/

/-- A variable that gives hosts as the keys of a mapping. -/
def hostsVariable : String × Value :=
  ("ELASTICSCOUT_CONNECTION__HOSTS", .str "\x7b\"https://b\": 1\x7d")

theorem settingPath?_hostsVariable :
    settingPath? hostsVariable.1 = some ["connection", "hosts"] := by decide

theorem definedNodes_hostsVariable :
    definedNodes .environment hostsVariable =
      placed ["connection", "hosts"] (.mapping [("https://b", .int 1)]) := by
  have hnone : Json.IsSpaces [] := by simp [Json.IsSpaces]
  have hspace : Json.IsSpaces [' '] := by simp [Json.IsSpaces, Json.spaceSigns]
  have hkey : Json.IsLiteral "https://b".toList (Text.codes "https://b") :=
    Json.isLiteral_of_readString rfl
  have hone : Json.IsNumber "1".toList (.int 1) := Json.isNumber_of_readNumber rfl
  have hdenotes : Json.Denotes (983 + 1) "\x7b\"https://b\": 1\x7d".toList
      (.value (Json.mappingOf [(Text.codes "https://b", .int 1)])) :=
    .mapping hnone (.lastEntry hkey hnone hspace (.number hone) hnone)
  have hread : Json.readChars (983 + 1) "\x7b\"https://b\": 1\x7d".toList =
      .ok (Json.mappingOf [(Text.codes "https://b", .int 1)]) :=
    Json.readChars_eq_ok_iff.2 ⟨[], _, [], hnone, hdenotes, hnone, rfl⟩
  refine definedNodes_eq settingPath?_hostsVariable ?_
  change some <$> (Value.withTextKeys <$> Json.readChars (983 + 1) _) = _
  rw [hread]
  rfl

/-- The file and the variable with hosts agree. -/
theorem layered_hostsGiven : Layered hostsGiven [hostsVariable] [] [] := by
  have hpaths : [hostsVariable].map (fun var => settingPath? var.1) =
      [["connection", "hosts"]].map some := congrArg (fun path => [path])
        settingPath?_hostsVariable
  exact {
    lower := by decide
    read := rfl
    areEnvironment := .of_paths hpaths (by decide) (by decide) fun var hvar => .inr <| by
      rw [List.mem_singleton.1 hvar]
      rfl
    areEnvFile := .nil
    givenEnvironment := agree_variableNodes rfl fun var hvar => by
      rw [List.mem_singleton.1 hvar, definedNodes_hostsVariable]
      refine agree_placed_cons fun v hv => ?_
      obtain rfl : Value.mapping [("hosts", .mapping [("https://a", .int 1)])] = v :=
        Option.some.inj hv
      refine agree_placed_cons fun v hv => ?_
      obtain rfl : Value.mapping [("https://a", .int 1)] = v := Option.some.inj hv
      rw [placed_root]
      refine agree_mapping rfl fun key v hv => ?_
      -- The hosts differ, so that below each of them one tree has nothing.
      by_cases hkey : key = "https://a"
      · subst hkey
        exact agree_none _
      · rw [Document.get?_cons, if_neg hkey] at hv
        cases hv
    givenEnvFile := agree_variableNodes_nil rfl
    environmentEnvFile := agree_variableNodes_nil rfl }

/-- The file with the option and a variable for the timeout agree. -/
theorem layered_caseGiven : Layered caseGiven [timeoutVariable] [] [] := by
  have hpaths : [timeoutVariable].map (fun var => settingPath? var.1) =
      [["connection", "timeout"]].map some := congrArg (fun path => [path])
        settingPath?_timeoutVariable
  exact {
    lower := by decide
    read := rfl
    areEnvironment := .of_paths hpaths (by decide) (by decide) fun var hvar => .inr <| by
      rw [List.mem_singleton.1 hvar]
      rfl
    areEnvFile := .nil
    givenEnvironment := agree_variableNodes rfl fun var hvar => by
      rw [List.mem_singleton.1 hvar, definedNodes_timeoutVariable]
      exact agree_placed_cons nofun
    givenEnvFile := agree_variableNodes_nil rfl
    environmentEnvFile := agree_variableNodes_nil rfl }

/-- **Hosts that are given as mappings are mixed, and an option counts.** Hosts that a file gives as
    the keys of a mapping are not all hosts, if a variable gives others in this way. If a file says
    that the case of names counts, the timeout is the default one, though a variable gives another
    in upper case. -/
theorem hosts_mixed_and_option_counts :
    (∃ settings, Platform.readDocument "settings.yaml" hostsText = .ok (.mapping hostsGiven)
        ∧ Layered hostsGiven [hostsVariable] [] []
        ∧ Settings.ofFile "settings.yaml" (some hostsText) [hostsVariable] [] = .ok settings
        ∧ (Value.mapping hostsGiven).at? ["connection", "hosts"] =
          some (.mapping [("https://a", .int 1)])
        ∧ ConnectionSettings.checkHosts (some (.mapping [("https://a", .int 1)])) ≠
          .ok (.valid settings.connection.hosts))
      ∧ ∃ settings, Platform.readDocument "settings.yaml" caseText = .ok (.mapping caseGiven)
        ∧ Layered caseGiven [timeoutVariable] [] []
        ∧ Settings.ofFile "settings.yaml" (some caseText) [timeoutVariable] [] = .ok settings
        ∧ ¬ Takes (layerNodes caseGiven [timeoutVariable] []) ["connection", "timeout"]
          ConnectionSettings.defaultTimeout Checked.positiveNumber settings.connection.timeout := by
  have hhosts : ((Settings.ofFile "settings.yaml" (some hostsText) [hostsVariable] []).toOption.map
      fun settings => settings.connection.hosts) = some ["https://b", "https://a"] := by
    decide +kernel
  have htimeout : ((Settings.ofFile "settings.yaml" (some caseText) [timeoutVariable]
      []).toOption.map fun settings => settings.connection.timeout) =
      some ConnectionSettings.defaultTimeout := by decide +kernel
  obtain ⟨settings, hsettings, hmixed⟩ := Option.map_eq_some_iff.1 hhosts
  obtain ⟨other, hother, hdefault⟩ := Option.map_eq_some_iff.1 htimeout
  refine ⟨⟨settings, rfl, layered_hostsGiven, toOption_eq_some_iff.1 hsettings, rfl, ?_⟩,
    ⟨other, rfl, layered_caseGiven, toOption_eq_some_iff.1 hother, ?_⟩⟩
  · rw [hmixed, checkHosts_mapping]
    simp [Document.keys]
  · have hvariable : variableNodes .environment [timeoutVariable] ["connection", "timeout"] =
        some (.leaf (.str "3")) := by
      refine layered_caseGiven.areEnvironment.variableNodes_eq_some_iff.2
        ⟨_, List.mem_singleton_self _, ?_⟩
      rw [definedNodes_timeoutVariable, placed_self]
      rfl
    have hnode : layerNodes caseGiven [timeoutVariable] [] ["connection", "timeout"] =
        some (.leaf (.str "3")) := by
      rw [layerNodes, firstOf, hvariable]
      rfl
    have hthree : (Checked.positiveNumber (.str "3")).toExcept.toOption ≠
        some ConnectionSettings.defaultTimeout := by decide +kernel
    rintro (⟨hnone, -⟩ | ⟨v, hv, hcheck⟩)
    · rw [hnode] at hnone
      cases hnone
    · rw [hnode] at hv
      cases hv
      rw [hcheck, hdefault] at hthree
      exact hthree rfl

end RecordSearch
