import RecordSearch.Proofs.Traversal
import RecordSearch.Settings.Layers

namespace RecordSearch

/-!
# Where settings come from

The caller gives entries, or the text of a file gives them. Among them are options, which say what
else is read: first the environment files, and then the layers of the settings.

* `Origin`: where the given entries come from;
* `Origin.lines`: the lines of the environment files, file by file;
* `load_eq_layers`: what is loaded is read from the files, then from the layers;
* `Origin.load_eq_bind`: the same for any origin.
-/

/-- **Where the given entries come from**: the caller gives them, or the text of a file, which is
    nothing if there is no such file. -/
inductive Origin where
  | entries (given : Document)
  | file (path : String) (text : Option String)

variable [Platform]

/-- Is nothing read at all? It is an error if the options are wrong. -/
def Settings.readsNothing (given : Document) : Except Error Bool := do
  if given.keys.contains ownName then throw .wrongType
  if ← chosenSources given then return true
  checkSplits given
  checkStart given
  return false

/-- The lines of all environment files that are read. -/
def Settings.envFileLines (given : Document) (environment : Variables) (files : Files) :
    Except Error (List (List FileVariable)) :=
  match readsNothing given with
  | .ok true => .ok []
  | _ => RecordSearch.envFileLines files environment (given.get? "_env_file")
      (optionD given "_env_file_encoding") (optionD given "_env_file_depth")

namespace Origin

/-- What is loaded from the entries over the environment and its files. -/
def load : Origin → Variables → Files → Except Error Settings
  | entries given => Settings.load given
  | file path text => Settings.ofFile path text

/-- The given entries, unless the file cannot be read. -/
def given : Origin → Except Error Document
  | entries given => .ok given
  | file path none => .error (Settings.missingFile path)
  | file path (some text) => do
    Settings.givenByFile (← Platform.readDocument (normalPath path) text)

/-- The rules by which variables are read, the usual ones if none are. -/
def rules (origin : Origin) : VariableRules :=
  (origin.given >>= VariableRules.ofOptions).toOption.getD .standard

/-- The option for directories with secret settings. -/
def secrets (origin : Origin) : Value :=
  (origin.given.toOption.map fun given => optionD given "_secrets_dir").getD .null

/-- **The lines of the environment files**, file by file. -/
def lines (origin : Origin) (environment : Variables) (files : Files) :
    Except Error (List (List FileVariable)) := do
  Settings.envFileLines (← origin.given) environment files

end Origin

/-! ### What is loaded -/

/-- The layers that do not come from variables, and the rules for those that do. -/
def Settings.givenLayers (given : Document) : Except Error (Document × VariableRules) := do
  let (argumentRules, argumentVars) ← givenArguments given
  let arguments ← argumentLayer argumentRules argumentVars
  let rules ← VariableRules.ofOptions given
  return (Document.merge (givenLayer (withoutOptions given)) arguments, rules)

/-- The settings of the given layers over the variables. -/
def Settings.loadLayers (upper : Document) (rules : VariableRules) (secrets : Value)
    (environment : Variables) (files : Files) (vars : List FileVariable) :
    Except Error Settings := do
  let environmentSettings ← environmentLayer rules environment
  let (envFile, areNamesText) ← envFileLayer rules vars
  checkSecretDirectories files environment secrets
  check (mergeLayers upper environmentSettings envFile) areNamesText

/-- **What is loaded**, unless nothing is read at all, is read from the lines of the environment
    files and then from the layers. -/
theorem load_eq_layers (given : Document) (environment : Variables) (files : Files) :
    Settings.load given environment files = (do
      if ← Settings.readsNothing given then Settings.check [] true
      else do
        let vars ← readEnvFiles files environment (given.get? "_env_file")
          (optionD given "_env_file_encoding") (optionD given "_env_file_depth")
        let (upper, rules) ← Settings.givenLayers given
        Settings.loadLayers upper rules (optionD given "_secrets_dir") environment files vars) := by
  rw [Settings.load, Settings.loadNamed, Settings.readsNothing, Settings.givenLayers]
  -- The steps that fail are the same on both sides, so each is taken apart in turn.
  by_cases hown : given.keys.contains ownName = true
  · rw [if_pos hown, if_pos hown]
    rfl
  · rw [if_neg hown, if_neg hown]
    cases chosenSources given with
    | error e => rfl
    | ok chosen =>
      cases chosen with
      | true => rfl
      | false =>
        cases checkSplits given with
        | error e => rfl
        | ok _ =>
          cases checkStart given with
          | error e => rfl
          | ok _ =>
            dsimp only [bind, Except.bind, pure, Except.pure]
            cases readEnvFiles files environment (given.get? "_env_file")
                (optionD given "_env_file_encoding") (optionD given "_env_file_depth") with
            | error e => rfl
            | ok vars =>
              cases Settings.givenArguments given with
              | error e => rfl
              | ok arguments =>
                obtain ⟨argumentRules, argumentVars⟩ := arguments
                dsimp only
                cases argumentLayer argumentRules argumentVars with
                | error e => rfl
                | ok arguments => cases VariableRules.ofOptions given <;> rfl

namespace Origin

variable {origin : Origin}

/-- Settings are loaded from the entries, if there are any. -/
theorem load_eq (origin : Origin) (environment : Variables) (files : Files) :
    origin.load environment files = (do
      Settings.load (← origin.given) environment files) := by
  cases origin with
  | entries given => rfl
  | file path text =>
    cases text with
    | none => rfl
    | some text =>
      rw [load, given, Settings.ofFile]
      cases Platform.readDocument (normalPath path) text <;> rfl

section

variable {given : Document} (hgiven : origin.given = .ok given)

include hgiven

/-- What is loaded depends on the entries alone. -/
theorem load_eq_load (environment : Variables) (files : Files) :
    origin.load environment files = Settings.load given environment files := by
  rw [load_eq, hgiven]
  rfl

/-- The lines depend on the entries alone. -/
theorem lines_eq (environment : Variables) (files : Files) :
    origin.lines environment files = Settings.envFileLines given environment files := by
  rw [lines, hgiven]
  rfl

/-- The directories are those that an option asks for. -/
theorem secrets_eq : origin.secrets = optionD given "_secrets_dir" := by
  rw [secrets, hgiven]
  rfl

/-- The rules are those that the options ask for. -/
theorem rules_eq {rules : VariableRules} (hrules : VariableRules.ofOptions given = .ok rules) :
    origin.rules = rules := by
  rw [Origin.rules, hgiven]
  show (VariableRules.ofOptions given).toOption.getD .standard = rules
  rw [hrules]
  rfl

/-- If anything is read, it is the lines of the environment files and then the layers. -/
theorem load_eq_of_reads (hreads : Settings.readsNothing given = .ok false)
    (environment : Variables) (files : Files) :
    origin.load environment files = (do
      let lists ← origin.lines environment files
      Settings.loadLayers (← Prod.fst <$> Settings.givenLayers given) origin.rules origin.secrets
        environment files (lists.flatMap (resolveReferences environment))) := by
  rw [load_eq_load hgiven, load_eq_layers, hreads, lines_eq hgiven, Settings.envFileLines, hreads,
    readEnvFiles, secrets_eq hgiven]
  dsimp only
  cases RecordSearch.envFileLines files environment (given.get? "_env_file")
      (optionD given "_env_file_encoding") (optionD given "_env_file_depth") with
  | error e => rfl
  | ok lists =>
    -- The rules are those of the origin only if the given layers can be had.
    cases hupper : Settings.givenLayers given with
    | error e => rfl
    | ok upper =>
      obtain ⟨_, -, hrest⟩ := bind_eq_ok_iff.1 hupper
      obtain ⟨_, -, hrest⟩ := bind_eq_ok_iff.1 hrest
      obtain ⟨rules, hrules, heq⟩ := bind_eq_ok_iff.1 hrest
      cases heq
      rw [rules_eq hgiven hrules]
      rfl

end

/-- **What is loaded from an origin** is an error from the start, or the same without any files, or
    it is read from the lines of the environment files and then from the layers. -/
theorem load_eq_bind (origin : Origin) :
    (∃ e, ∀ environment files, origin.load environment files = .error e)
    ∨ (∃ outcome, (∀ environment files, origin.lines environment files = .ok [])
      ∧ ∀ environment files, origin.load environment files = outcome)
    ∨ ∃ upper?, ∀ environment files, origin.load environment files = (do
        let lists ← origin.lines environment files
        Settings.loadLayers (← upper?) origin.rules origin.secrets environment files
          (lists.flatMap (resolveReferences environment))) := by
  -- What is given does not depend on the surroundings, so its failure and its choice of sources
  -- are the same in all of them.
  cases hgiven : origin.given with
  | error e =>
    refine .inl ⟨e, fun environment files => ?_⟩
    rw [load_eq, hgiven]
    rfl
  | ok given =>
    cases hreads : Settings.readsNothing given with
    | error e =>
      refine .inl ⟨e, fun environment files => ?_⟩
      rw [load_eq_load hgiven, load_eq_layers, hreads]
      rfl
    | ok nothing =>
      cases nothing with
      | true =>
        refine .inr (.inl ⟨Settings.check [] true, fun environment files => ?_,
          fun environment files => ?_⟩)
        · rw [lines_eq hgiven, Settings.envFileLines, hreads]
        · rw [load_eq_load hgiven, load_eq_layers, hreads]
          rfl
      | false => exact .inr (.inr ⟨_, load_eq_of_reads hgiven hreads⟩)

end Origin

end RecordSearch
