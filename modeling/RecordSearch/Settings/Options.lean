import RecordSearch.Settings.Arguments
import RecordSearch.Settings.EnvFile
import RecordSearch.Text.Identifier

namespace RecordSearch

/-!
# Options among given entries

Beside settings the caller can give options, which say how the other layers are read. Their
names start with an underscore. An option that is nothing is one that is not given.

* `withoutOptions`: the entries that are settings;
* `VariableRules.ofOptions`: the rules for variables that the options ask for;
* `ArgumentRules.ofOptions`: those for the words of a command, and `argumentWords` the words;
* `chosenSources`: does an option say that nothing is read at all?
-/

/-- The names of all options. -/
def optionNames : List String :=
  ["_case_sensitive", "_nested_model_default_partial_update", "_env_prefix",
    "_env_prefix_target", "_env_file", "_env_file_encoding", "_env_file_depth",
    "_env_ignore_empty", "_env_nested_delimiter", "_env_nested_max_split",
    "_env_parse_none_str", "_env_parse_enums", "_cli_prog_name", "_cli_parse_args",
    "_cli_settings_source", "_cli_parse_none_str", "_cli_hide_none_type", "_cli_avoid_json",
    "_cli_enforce_required", "_cli_use_class_docs_for_groups", "_cli_exit_on_error",
    "_cli_prefix", "_cli_flag_prefix_char", "_cli_implicit_flags", "_cli_ignore_unknown_args",
    "_cli_kebab_case", "_cli_shortcuts", "_cli_show_env_vars", "_secrets_dir",
    "_build_sources"]

/-- The name under which the settings themselves are passed; no entry may have it. -/
def ownName : String := "__pydantic_self__"

/-- The given entries that are settings. -/
def withoutOptions (given : Document) : Document :=
  given.filter fun e => !optionNames.contains e.1

/-- An option, unless it is nothing. -/
def option? (given : Document) (name : String) : Option Value :=
  match given.get? name with
  | none | some .null => none
  | some v => some v

/-- An option, nothing if it is not given. -/
def optionD (given : Document) (name : String) : Value := (given.get? name).getD .null

/-- Does an option count as true? -/
def hasOption (given : Document) (name : String) : Bool := (optionD given name).isTruthy

/-! ### Sources -/

/-- The layers can be given as they are, together with a second thing. Only to give none at all is
    understood: then nothing else is read. -/
def chosenSources (given : Document) : Except Error Bool :=
  match option? given "_build_sources" with
  | none => .ok false
  | some v =>
    match v.elements? with
    | none => .error .wrongType
    | some [layers, _] => if layers.isTruthy then .error .wrongType else .ok true
    | some members => .error (.notTwo members.length)

/-! ### Names of variables -/

/-- Is the start of names also that of variables? -/
def startsVariables (given : Document) : Bool :=
  match option? given "_env_prefix_target" with
  | none | some (.str "variable") | some (.str "all") => true
  | some _ => false

/-- The start of names must have a length. -/
def checkStart (given : Document) : Except Error Unit :=
  match option? given "_env_prefix" with
  | some v => if v.elements?.isSome then .ok () else .error .wrongType
  | none => .ok ()

/-- What the names of variables start with. A start that is no text cannot be joined with a name,
    and where it is not joined only bytes have a lower case. -/
def startOption (given : Document) : Except Error String :=
  match option? given "_env_prefix" with
  | none => .ok (if startsVariables given then VariableRules.standard.start else "")
  | some (.str start) => .ok (if startsVariables given then start else "")
  | some (.brokenStr codes) => .ok (if startsVariables given then Text.ofCodes codes else "")
  | some v =>
    if startsVariables given then .error (.unusableStart "connection" .environment)
    else if hasOption given "_case_sensitive" || v.bytes?.isSome then .ok ""
    else .error .noSuchPart

/-- What stands between the keys of a path. What counts as false stands for nothing. -/
def delimiterOption (given : Document) : String :=
  match option? given "_env_nested_delimiter" with
  | none => VariableRules.standard.delimiter
  | some v => if v.isTruthy then v.text else ""

/-- The most delimiters that count: one less than the option, if it is positive. -/
def splitsOption (given : Document) : Option Nat :=
  match (optionD given "_env_nested_max_split").integral? with
  | some n => if 0 < n then some (n - 1).toNat else none
  | none => none

/-- The number of delimiters must be a number. -/
def checkSplits (given : Document) : Except Error Unit :=
  match optionD given "_env_nested_max_split" with
  | .bool _ | .int _ | .float _ => .ok ()
  | v => if v.isTruthy then .error .wrongType else .ok ()

/-- What keeps paths from being taken apart: a delimiter that is no text, or a number of
    delimiters that is no integer or is too large. -/
def obstacleOption (given : Document) : Option Obstacle :=
  match optionD given "_env_nested_delimiter", optionD given "_env_nested_max_split" with
  -- The delimiter is looked at before the number of delimiters.
  | .null, splits | .str _, splits | .brokenStr _, splits =>
    match splits with
    | .float x => if x.isZero then none else some .wrongType
    | .int n => if Value.isInt64 (n - 1) then none else some .tooManySplits
    | _ => none
  | _, _ => some .wrongType

/-- The text that stands for nothing. -/
def nullTextOption (given : Document) : Option (List Nat) :=
  (option? given "_env_parse_none_str").bind Value.codes?

/-- The rules for variables that the options of given entries ask for. -/
def VariableRules.ofOptions (given : Document) : Except Error VariableRules := do
  let start ← startOption given
  return ⟨hasOption given "_case_sensitive", start, delimiterOption given, splitsOption given,
    obstacleOption given, hasOption given "_env_ignore_empty", nullTextOption given⟩

/-! ### Words of a command -/

/-- What the names of settings start with among the words of a command, with a point at the end:
    names with points between them. -/
def flagStartOption (given : Document) : Except Error String :=
  match optionD given "_cli_prefix" with
  | .str start =>
    let cs := start.toList
    if cs.isEmpty then .ok ""
    else if cs.head? == some '.' || cs.getLast? == some '.'
        || !Text.isIdentifier (cs.filter (· != '.')) then .error (.badFlagStart start)
    else .ok (start ++ ".")
  | v => if v.isTruthy then .error .noSuchPart else .ok ""

/-- The code points of the sign that flags start with. -/
def signOption (given : Document) : Except Error (List Nat) :=
  match option? given "_cli_flag_prefix_char" with
  | none => .ok ['-'.toNat]
  | some v =>
    match v.codes? with
    | some [] => .error .missingArgument
    | some codes => .ok codes
    | none => .error .wrongType

/-- The text that stands for nothing among the words of a command: that of variables, or one of
    its own. One that is no text is of no use where the flags are described with their types. -/
def flagNullOption (given : Document) : Except Error (Option (List Nat)) :=
  let ofValue (v : Value) : Except Error (Option (List Nat)) :=
    match v.codes? with
    | some codes => .ok (some codes)
    | none => if hasOption given "_cli_hide_none_type" then .ok none else .error .wrongType
  -- The text for variables comes first, even if it is of no use.
  if hasOption given "_env_parse_none_str" then ofValue (optionD given "_env_parse_none_str")
  else if hasOption given "_cli_parse_none_str" then
    ofValue (optionD given "_cli_parse_none_str")
  else match optionD given "_cli_avoid_json" with
    | .bool true => .ok (some (Text.codes "None"))
    | _ => .ok (some (Text.codes "null"))

/-- Further names of a flag: a text, or several texts. -/
def furtherNames (v : Value) : Option (List String) :=
  match v.codes? with
  | some name => some [Text.ofCodes name]
  | none => v.elements?.bind fun names => names.mapM fun name =>
      name.codes?.map Text.ofCodes

/-- Further names of flags, in a mapping by one of their names. -/
def shortcutsOption (given : Document) :
    Except Error (List (String × Option (List String))) :=
  let shortcuts := optionD given "_cli_shortcuts"
  match shortcuts.entries? with
  | some further => .ok (further.map fun e => (e.1, furtherNames e.2))
  | none => if shortcuts.isTruthy then .error .noSuchPart else .ok []

/-- How truth values are given. -/
def switchesOption (given : Document) : SwitchStyle :=
  match optionD given "_cli_implicit_flags" with
  | .str "toggle" => .toggle
  | v => if v.isTruthy then .dual else .text

/-- The rules for the words of a command that the options of given entries ask for. -/
def ArgumentRules.ofOptions (given : Document) : Except Error ArgumentRules := do
  let start ← flagStartOption given
  let sign ← signOption given
  let nullText ← flagNullOption given
  let shortcuts ← shortcutsOption given
  return {
    caseSensitive := hasOption given "_case_sensitive"
    start, nullText, sign, shortcuts
    hyphenated := hasOption given "_cli_kebab_case"
    skipsUnknown := hasOption given "_cli_ignore_unknown_args"
    ends := (option? given "_cli_exit_on_error").elim true Value.isTruthy
    switches := switchesOption given }

/-- The words of a command, if they are asked for, must come in a list; the words of the program
    itself are none. -/
def argumentWords (given : Document) : Except Error (List Value) :=
  match optionD given "_cli_parse_args" with
  | .null | .bool _ => .ok []
  | .list words | .tuple words => .ok words
  | v => if v.integral? == some 0 then .ok [] else .error (.notArguments v.typeName)

end RecordSearch
