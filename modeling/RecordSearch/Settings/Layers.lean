import RecordSearch.Json.Codes
import RecordSearch.Settings.Connection
import RecordSearch.Settings.Observability
import RecordSearch.Settings.Options
import RecordSearch.Value.Merge

namespace RecordSearch

/-!
# Layers of settings

Settings come from layers: the words of a command, values given by the caller or a file,
variables of the environment, and variables of an environment file. Of two layers that give a
setting the earlier one counts, leaf by leaf. The names of all settings must be texts without
surrogates.

The variable of a section holds the JSON text of all its settings; a variable whose name goes
on with a path of keys sets one of them.

* `Section.read`: what the variables of a layer say about a section;
* `envFileExtras`: the variables of an environment file that belong to no section;
* `Settings.load`: the settings of all layers together.
-/

/-- What a field holds: a single value, a truth value, the members of a list, or the entries of a
    mapping. -/
inductive FieldForm where
  | single
  | truth
  | members
  | entries
deriving DecidableEq, Repr

/-- A section of the settings: its name, and its fields with what they hold. -/
structure Section where
  name : String
  fields : List (String × FieldForm)

/-- The section of the connection. -/
def connectionSection : Section :=
  ⟨"connection",
    [("hosts", .members), ("username", .single), ("password", .single), ("api_key", .single),
      ("verify_certs", .truth), ("timeout", .single), ("extra", .entries)]⟩

/-- The section of the log. -/
def observabilitySection : Section :=
  ⟨"observability", [("log_level", .single), ("log_format", .single)]⟩

/-- All sections, in their order. -/
def sections : List Section := [connectionSection, observabilitySection]

/-- The names of the fields. -/
def Section.fieldNames (part : Section) : List String := part.fields.map Prod.fst

/-- The names of the fields that hold more than one value, which are given as JSON texts. -/
def Section.jsonFields (part : Section) : List String :=
  (part.fields.filter fun f => f.2 == .members || f.2 == .entries).map Prod.fst

/-! ### One section of a layer -/

/-- Is the setting with a path one with more than one value, which is given as a JSON text unless
    the text is empty? -/
def Section.isJson (rules : VariableRules) (part : Section) (keys : List String)
    (last : String) (v : Value) : Bool :=
  keys.isEmpty && !v.isEmptyText
    && part.jsonFields.any fun field => last == field || last == rules.variableName field

/-- What a JSON text holds, with at most `depth` levels and with text as the keys of its
    mappings. -/
def readJson (depth : Nat) (v : Value) : Except Json.Problem Value :=
  match v with
  | .str text => Json.readTextKeyed depth text
  | v => Value.withTextKeys <$> Json.readCodes depth (v.codes?.getD [])

/-- What the value of a variable with a path stands for: what the JSON text holds, or nothing for a
    text that stands for nothing, or the value itself. -/
def Section.settingValue [Platform] (rules : VariableRules) (layer : TextLayer) (part : Section)
    (keys : List String) (last : String) (v : Value) : Except Json.Problem Value :=
  if part.isJson rules keys last v then readJson (layer.sectionDepth - 1) v
  else if rules.isNull v then .ok .null
  else .ok v

/-- Does a value stand below a path that a text for nothing would not replace? Such a text
    replaces nothing but an empty mapping, unless it is read as a JSON text. -/
def isHeld (d : Document) (keys : List String) (last : String) : Bool :=
  match d.getAt? keys last with
  | none | some (.mapping []) => false
  | some _ => true

/-- The error that a text which cannot be read leads to. -/
def Section.unreadable (part : Section) (layer : TextLayer) : Json.Problem → Error
  | .tooDeep nesting => .tooDeep nesting
  | _ => .unreadableSetting part.name layer

/-- What the variables with a path set in a section, one after the other. One without a text sets
    nothing as the value. -/
def Section.nested [Platform] (rules : VariableRules) (layer : TextLayer) (part : Section) :
    Document → Variables → Except Error Document
  | d, [] => .ok d
  | d, (name, v) :: vars =>
    match rules.path? part.name name with
    | none => part.nested rules layer d vars
    | some (keys, last) => do
      -- What stands in the way of paths is met only where a variable has one.
      if let some obstacle := rules.obstacle then throw (.ofObstacle obstacle)
      match v with
      | .null => part.nested rules layer (d.insertAt keys last .null) vars
      | v =>
        let setting ← (part.settingValue rules layer keys last v).mapError (part.unreadable layer)
        -- A text for nothing does not take away what an earlier variable has put there.
        let held := rules.isNull v && !part.isJson rules keys last v && isHeld d keys last
        part.nested rules layer (if held then d else d.insertAt keys last setting) vars

/-- The name of a field of the section that a key matches in any case, else the key. -/
def Section.fieldName (part : Section) (key : String) : String :=
  (part.fieldNames.find? fun field => field == Text.lower key).getD key

/-- The settings of a section with their keys matched to the fields. -/
def Section.matchFields (rules : VariableRules) (part : Section) (d : Document) : Document :=
  if rules.caseSensitive then d
  else Document.ofEntries (d.map fun e => (part.fieldName e.1, e.2))

/-- What the variables of a layer say about a section. Nothing is said by a text `null` of
    the whole section, whatever its other variables hold. A value that is no text cannot be read. -/
def Section.read [Platform] (rules : VariableRules) (layer : TextLayer) (part : Section)
    (vars : Variables) : Except Error (Option Value) :=
  match vars.lookup (rules.variableName part.name) with
  | none | some .null => do
    let d ← part.nested rules layer [] vars
    return if d.isEmpty then none else some (.mapping (part.matchFields rules d))
  | some v =>
    if rules.isNull v then .ok (some .null)
    else if v.codes?.isNone then .error .wrongType
    else do
      match ← (readJson layer.sectionDepth v).mapError (part.unreadable layer) with
      | .null => return none
      | .mapping whole =>
        let d ← part.nested rules layer [] vars
        return some (.mapping (part.matchFields rules (Document.merge whole d)))
      -- What is no mapping stands for the section, and is refused by the check of it.
      | v => return some v

/-- What the variables of a layer say about given sections. -/
def readSections [Platform] (rules : VariableRules) (layer : TextLayer) (vars : Variables) :
    List Section → Except Error Document
  | [] => .ok []
  | part :: parts => do
    let v ← part.read rules layer vars
    let rest ← readSections rules layer vars parts
    return optionalSetting part.name v ++ rest
where
  /-- An entry for a section that something is said about. -/
  optionalSetting (name : String) : Option Value → Document
    | some v => [(name, v)]
    | none => []

/-- The layer of the environment. -/
def environmentLayer [Platform] (rules : VariableRules)
    (vars : Variables) : Except Error Document :=
  readSections rules .environment (rules.select vars) sections

/-! ### The words of a command -/

/-- The kind of the flag for a field. -/
def FieldForm.flagKind : FieldForm → FlagKind
  | .single => .single
  | .truth => .switches
  | .members => .listed
  | .entries => .entries

/-- The flags of all sections: for each one that of the section itself, and then those of its
    fields. -/
def sectionFlags (rules : ArgumentRules) : Except Error Flags :=
  rules.flagsOf (sections.map fun part =>
    (part.name, part.fields.map fun field => (field.1, field.2.flagKind)))

/-- The rules by which the settings that words give are read as variables. -/
def ArgumentRules.variableRules (rules : ArgumentRules) : VariableRules :=
  ⟨rules.caseSensitive, rules.start, ".", none, none, false, rules.nullText⟩

/-- The layer of the words of a command. -/
def argumentLayer [Platform] (rules : VariableRules) (vars : Variables) : Except Error Document :=
  readSections rules .arguments (rules.select vars) sections

/-! ### Environment files -/

/-- The variables of an environment file that belong to no section and are not empty. -/
def envFileExtras (rules : VariableRules) (vars : Variables) : Document :=
  vars.filter fun v => v.2.isTruthy
    && !sections.any fun part => part.name == v.1 || rules.belongsTo part.name v.1

/-- A variable of a file with its name as a text. -/
def FileVariable.toVariable (v : FileVariable) : String × Value :=
  (Text.ofCodes v.name, v.text.elim .null Value.ofCodes)

/-- Are the names of all settings texts that an environment file gives outside the sections? -/
def hasTextNames (rules : VariableRules) (vars : List FileVariable) (extras : Document) : Bool :=
  vars.all fun v => Text.areText v.name
    || !extras.keys.contains (rules.casedName (Text.ofCodes v.name))

/-- The layer of an environment file, and whether the names of its settings are texts. -/
def envFileLayer [Platform] (rules : VariableRules) (vars : List FileVariable) :
    Except Error (Document × Bool) := do
  let selected := rules.select (vars.map FileVariable.toVariable)
  let d ← readSections rules .envFile selected sections
  let extras := envFileExtras rules selected
  return (d ++ extras, hasTextNames rules vars extras)

/-! ### All layers -/

/-- Is the key the name of the section, in any case? -/
def Section.isNamed (part : Section) (key : String) : Bool := Text.lower key == part.name

/-- The given entries of the sections under their names, and then the other entries. Of
    several entries for one section the first one counts. -/
def givenLayer (given : Document) : Document :=
  (sections.filterMap fun part =>
    (given.find? fun e => part.isNamed e.1).map fun e => (part.name, e.2))
    ++ given.filter fun e => !sections.any fun part => part.isNamed e.1

/-- The settings of the library. -/
structure Settings where
  connection : ConnectionSettings
  observability : ObservabilitySettings

namespace Settings

/-- The check of the connection. -/
def checkConnection [Platform] : Option Value → Except Error (Checked ConnectionSettings)
  | none => ConnectionSettings.check []
  | some (.mapping fields) => do
    let checked ← ConnectionSettings.check fields
    return .inside (.field "connection") checked
  | some _ => .ok (.inside (.field "connection") (.fail .notFields))

/-- The check of the log. -/
def checkObservability : Option Value → Checked ObservabilitySettings
  | none => .valid .default
  | some (.mapping fields) => .inside (.field "observability") (ObservabilitySettings.check fields)
  | some _ => .inside (.field "observability") (.fail .notFields)

/-- Entries that name no section are faults. -/
def checkOthers : Document → Checked Unit
  | [] => .valid ()
  | (key, _) :: entries =>
    if sections.any fun part => part.name == key then checkOthers entries
    else (fun _ _ => ()) <$> .inside (.field key) (Checked.fail .unknownField : Checked Unit)
      <*> checkOthers entries

/-- Settings from the merged layers. A name that is no text is the only fault then. -/
def check [Platform] (state : Document) (areNamesText : Bool) : Except Error Settings := do
  let connection ← checkConnection (state.get? "connection")
  if !areNamesText then Checked.toExcept (.fail .textNotUnicode)
  let checked := (fun connection observability _ => Settings.mk connection observability)
    <$> connection <*> checkObservability (state.get? "observability") <*> checkOthers state
  checked.toExcept

/-- The layers merged: the given values over the environment over the environment file. -/
def mergeLayers (given environment envFile : Document) : Document :=
  Document.merge envFile (Document.merge environment given)

/-- The words of a command among the options, and the rules by which the settings that they give
    are read as variables. No words at all say nothing. -/
def givenArguments [Platform] (given : Document) : Except Error (VariableRules × Variables) := do
  if (option? given "_cli_parse_args").isNone then return (.standard, [])
  let rules ← ArgumentRules.ofOptions given
  let flags ← sectionFlags rules
  let vars ← rules.readVariables flags (← argumentWords given)
  return (rules.variableRules, vars)

/-- The settings of all layers together, where the names of the given ones are texts or had
    surrogates, which are replaced. -/
def loadNamed [Platform] (areNamesText : Bool) (given : Document) (environment : Variables)
    (files : Files) : Except Error Settings := do
  if given.keys.contains ownName then throw .wrongType
  -- Without any layer the defaults are all that is left to check.
  if ← chosenSources given then return ← check [] true
  -- All layers are made before the first of them is read, and each step may end it, so that the
  -- order decides which error is reported.
  checkSplits given
  checkStart given
  let envFile ← readEnvFiles files environment (given.get? "_env_file")
    (optionD given "_env_file_encoding") (optionD given "_env_file_depth")
  let (argumentRules, argumentVars) ← givenArguments given
  let arguments ← argumentLayer argumentRules argumentVars
  let rules ← VariableRules.ofOptions given
  let environmentSettings ← environmentLayer rules environment
  let (envFile, areFileNamesText) ← envFileLayer rules envFile
  checkSecretDirectories files environment (optionD given "_secrets_dir")
  -- Words count over the values that the caller gives.
  check (mergeLayers (Document.merge (givenLayer (withoutOptions given)) arguments)
    environmentSettings envFile) (areNamesText && areFileNamesText)

/-- The settings of all layers together. -/
def load [Platform] (given : Document) (environment : Variables)
    (files : Files) : Except Error Settings :=
  loadNamed true given environment files

/-- What the content of a file gives: a mapping, or nothing if it is empty. -/
def givenByFile (content : Value) : Except Error Document :=
  match content.entries? with
  | some given => .ok given
  | none => if content.isTruthy then .error .wrongType else .ok []

/-- The path of a file of settings must be one that can be looked up; a file that is not there is
    an error, and so is a directory. -/
def missingFile (path : String) : Error :=
  if isTooLong path then .nameTooLong (normalPath path)
  else if isDirectory path then .directoryForFile (normalPath path)
  else .noConfigFile (normalPath path)

/-- The settings of a file over the other layers. The text of the file is nothing if there is no
    such file. -/
def ofFile [Platform] (path : String) (text : Option String) (environment : Variables)
    (files : Files) :
    Except Error Settings := do
  match text with
  | none => throw (missingFile path)
  | some text =>
    let content ← Platform.readDocument (normalPath path) text
    let given ← givenByFile content
    load given environment files

end Settings

end RecordSearch
