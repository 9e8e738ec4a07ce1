import RecordSearch.Text.LowerCase
import RecordSearch.Text.Parts
import RecordSearch.Value

namespace RecordSearch

/-!
# Variables

Variables have names and values, which are texts as a rule. Which setting a variable stands for
follows from its name, by rules that can be changed.

* `VariableRules`, with the rules that hold if nothing else is said, `VariableRules.standard`;
* `VariableRules.select`: the variables of a layer as the rules take them;
* `VariableRules.path?`: the path of keys in the name of a variable.
-/

/-- Variables with their values: a text, nothing for one that is named alone, or what the words of
    a command give without a text. -/
abbrev Variables := List (String × Value)

/-- Why the names of variables cannot be taken apart. -/
inductive Obstacle where
  | wrongType
  | tooManySplits
deriving DecidableEq, Repr

/-- How variables are read. -/
structure VariableRules where
  /-- Does the case of the letters of a name count? -/
  caseSensitive : Bool
  /-- What the names of variables start with. -/
  start : String
  /-- What stands between the keys of a path; if it is empty, names have no paths. -/
  delimiter : String
  /-- The most delimiters of a path that count. -/
  splits : Option Nat
  /-- What keeps paths from being taken apart, if anything does. -/
  obstacle : Option Obstacle
  /-- Are variables with an empty text passed over? -/
  ignoresEmpty : Bool
  /-- The code points of the text that stands for nothing. -/
  nullText : Option (List Nat)
deriving DecidableEq, Repr

/-! ### Parts of a name -/

/-- The parts of a text between delimiters, of which the given number counts: all parts but the
    last one, and the last one. -/
def splitKeys (delimiter : List Char) : (splits : Nat) → List Char → List String × String
  | 0, cs => ([], String.ofList cs)
  | splits + 1, cs =>
    match Text.cutAt? delimiter cs with
    | none => ([], String.ofList cs)
    | some (key, rest) =>
      let (keys, last) := splitKeys delimiter splits rest
      (String.ofList key :: keys, last)

namespace VariableRules

/-- Names start with `elasticscout_` in any case, and the keys of a path stand between double
    underscores. -/
def standard : VariableRules := ⟨false, "ELASTICSCOUT_", "__", none, none, false, none⟩

/-- A name as it is compared. -/
def casedName (rules : VariableRules) (name : String) : String :=
  if rules.caseSensitive then name else Text.lower name

/-- The name of the variable of a setting. -/
def variableName (rules : VariableRules) (setting : String) : String :=
  rules.casedName (rules.start ++ setting)

/-- The variables of a layer; of one name the last value counts. -/
def select (rules : VariableRules) (vars : Variables) : Variables :=
  Document.ofEntries ((vars.filter fun v => !(rules.ignoresEmpty && v.2.isEmptyText)).map
    fun v => (rules.casedName v.1, v.2))

/-- The path of keys after the name of a section: all keys but the last one, and the last
    one. -/
def path? (rules : VariableRules) (part name : String) : Option (List String × String) :=
  if rules.delimiter.isEmpty then none
  else
    (Text.afterStart? (rules.variableName part ++ rules.delimiter).toList name.toList).map
      fun rest => splitKeys rules.delimiter.toList (rules.splits.getD rest.length) rest

/-- Does the variable belong to a section? Its name is that of the section, or goes on with a
    delimiter. -/
def belongsTo (rules : VariableRules) (part name : String) : Bool :=
  name == rules.variableName part || (rules.path? part name).isSome

/-- Is the value the text that stands for nothing? -/
def isNull (rules : VariableRules) (v : Value) : Bool :=
  rules.nullText.isSome && v.codes? == rules.nullText

end VariableRules

end RecordSearch
