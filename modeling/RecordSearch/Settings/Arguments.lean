import RecordSearch.Error
import RecordSearch.Settings.Arguments.Merging

namespace RecordSearch

/-!
# Settings as the words of a command

Each section of the settings has a flag, which takes its JSON text, and each setting of a section
has one of its own, with a point between the two names. Settings can have further flags under
short names.

* `ArgumentRules`: how the words are read;
* `ArgumentRules.flagsOf`: the flags of given sections;
* `ArgumentRules.readVariables`: the settings that the words give, as variables.
-/

/-- How a truth value is given: by a text, by a flag that turns it off, or by two flags. -/
inductive SwitchStyle where
  | text
  | toggle
  | dual
deriving DecidableEq, Repr

/-- How the words of a command are read. -/
structure ArgumentRules where
  /-- Does the case of the letters of a flag count? -/
  caseSensitive : Bool
  /-- What the names of settings start with, with a point at the end. -/
  start : String
  /-- The code points of the text that stands for nothing. -/
  nullText : Option (List Nat)
  /-- Are the words of a name joined by hyphens? -/
  hyphenated : Bool
  /-- Are words that are not understood passed over? -/
  skipsUnknown : Bool
  /-- Does a word that is not understood end the program? -/
  ends : Bool
  /-- The code points of the sign that flags start with. -/
  sign : List Nat
  /-- How truth values are given. -/
  switches : SwitchStyle
  /-- Further names of flags by one of their names; names that are no texts are nothing. -/
  shortcuts : List (String × Option (List String))
deriving DecidableEq, Repr

namespace ArgumentRules

/-! ### Flags -/

/-- The flags that are made so far, and the names that they have taken. -/
structure Builder where
  flags : List Flag
  taken : List String

/-- A name in the words of a command. -/
def flagName (rules : ArgumentRules) (setting : String) : String :=
  if rules.hyphenated then
    String.ofList (setting.toList.map fun c => if c = '_' then '-' else c)
  else setting

/-- The names of a flag: its own one, and the further names of those that it has so far. -/
def namesOf (rules : ArgumentRules) (taken : List String) (name : String) :
    Except Error (List String) :=
  let own := if taken.contains name then [] else [name]
  rules.shortcuts.foldlM (fun names shortcut => do
    if !names.contains shortcut.1 then return names
    match shortcut.2 with
    -- Further names that are no texts are only met for a flag that has them.
    | none => throw .wrongType
    | some further => return names ++ further.filter fun n => !taken.contains n) own

/-- The signs in front of names with more than one letter. -/
def longSigns (rules : ArgumentRules) : List Nat := rules.sign ++ rules.sign

/-- The word of a flag for one of its names; names with one letter have one sign. -/
def flagWord (rules : ArgumentRules) (signs : List Nat) (name : String) : List Nat :=
  (if name.length = 1 then rules.sign.take 1 else signs) ++ Text.codes name

/-- What the words of a flag with two meanings start with that turn a setting off. -/
def turnedOff : List Nat := Text.codes "--no-"

/-- The words of a flag with two meanings: each word that starts with two hyphens has another one
    that turns the setting off. -/
def dualWords (words : List (List Nat)) : List (List Nat) :=
  words.flatMap fun word =>
    match Text.afterStart? flagsEnd word with
    | some name => [word, turnedOff ++ name]
    | none => [word]

/-- The words and the kind of the flag for a field. -/
def fieldFlag (rules : ArgumentRules) (kind : FlagKind) (names : List String) :
    List (List Nat) × FlagKind :=
  let words := names.map (rules.flagWord rules.longSigns)
  match kind, rules.switches with
  | .switches, .text => (words, .single)
  -- Such a setting is on unless it is given, so that its flag turns it off.
  | .switches, .toggle =>
    (names.map (rules.flagWord (rules.longSigns ++ Text.codes "no-")), .switch false)
  | .switches, .dual => (dualWords words, .switches)
  | kind, _ => (words, kind)

/-- Adds a flag, none of whose words may be one of another flag. -/
def Builder.add (builder : Builder) (flag : Flag) : Except Error Builder :=
  match flag.words.filter fun w => builder.flags.any fun f => f.words.contains w with
  | [] => .ok { builder with flags := builder.flags ++ [flag] }
  | words => .error (.conflictingFlags flag.title (words.map Text.ofCodes))

/-- Adds the flag of a section. -/
def Builder.addSection (rules : ArgumentRules) (builder : Builder) (setting : String) :
    Except Error Builder := do
  match ← rules.namesOf builder.taken (rules.flagName setting) with
  | [] => return builder
  | name :: names =>
    let words := (name :: names).map fun name => rules.longSigns ++ Text.codes name
    let builder ← builder.add ⟨words, setting, .section⟩
    return { builder with taken := builder.taken ++ [name] }

/-- Adds the flag of a field, unless its name is taken. -/
def Builder.addField (rules : ArgumentRules) (builder : Builder) (setting : String)
    (kind : FlagKind) : Except Error Builder := do
  let names ← rules.namesOf builder.taken (rules.flagName setting)
  if names.isEmpty || builder.taken.contains setting then return builder
  let (words, kind) := rules.fieldFlag kind names
  let builder ← builder.add ⟨words, setting, kind⟩
  return { builder with taken := builder.taken ++ names }

/-- The flag for a description of all flags. Of several signs it starts with the hyphen, if that is
    one of them, or else with the first one. Its short word must not be signs alone. -/
def helpFlag (rules : ArgumentRules) : Except Error Flag :=
  let sign := if rules.sign.contains '-'.toNat then ['-'.toNat] else rules.sign.take 1
  let long := sign ++ sign ++ Text.codes "help"
  if rules.sign.contains 'h'.toNat then .error (.namelessFlag long)
  else .ok ⟨[sign ++ Text.codes "h", long], "", .help⟩

/-- The flags of sections, each given by its name and its fields with their kinds. -/
def flagsOf (rules : ArgumentRules) (parts : List (String × List (String × FlagKind))) :
    Except Error Flags := do
  let helpFlag ← rules.helpFlag
  let builder ← parts.foldlM (fun builder part => do
    let builder ← builder.addSection rules (rules.start ++ part.1)
    part.2.foldlM (fun builder field =>
      builder.addField rules (rules.start ++ part.1 ++ "." ++ field.1) field.2) builder)
    (⟨[helpFlag], []⟩ : Builder)
  return ⟨rules.sign, builder.flags⟩

/-! ### Words -/

/-- Can a value that is no text be a word? It is looked at like a text: nothing at all is one, and
    of a sequence the first member counts, which must not be a sign. -/
def checkWord (signs : List Nat) (v : Value) : Except Error Unit :=
  let isSign (codes : List Nat) : Bool := codes.isEmpty || (Text.cutAt? codes signs).isSome
  match v with
  | .mapping _ | .brokenMapping _ =>
    if v.isTruthy then .error (.raised (.ofName "KeyError" [.int 0])) else .ok ()
  | .list (first :: _) | .tuple (first :: _) =>
    match first.codes? with
    | some codes => if isSign codes then .error .wrongType else .ok ()
    | none => .error .wrongType
  | v => if v.isTruthy then .error .wrongType else .ok ()

/-- The words where the case counts. Behind two hyphens any value is a word. -/
def casedArguments (signs : List Nat) : List Value → Except Error (List Argument)
  | [] => .ok []
  | v :: vs =>
    match v.codes? with
    | some codes =>
      if codes = flagsEnd then
        .ok ((v :: vs).map fun v => (v.codes?.map Argument.text).getD (.value v))
      else (.text codes :: ·) <$> casedArguments signs vs
    | none => do
      checkWord signs v
      return .value v :: (← casedArguments signs vs)

/-- The code points of a word where the case does not count: those of a text, or none for nothing
    at all. -/
def wordCodes (v : Value) : Except Error (List Nat) :=
  match v.codes? with
  | some codes => .ok codes
  | none => if v.isTruthy then .error .wrongType else .ok []

/-- The words where the case does not count, with the flags as they are spelled. -/
def uncasedArguments (rules : ArgumentRules) (flags : Flags) (words : List Value) :
    Except Error (List Argument) := do
  let words ← words.mapM wordCodes
  if words.isEmpty then return []
  -- The sign is a pattern here, which is not read if there are no words.
  let sign ← (Sign.parse rules.sign).mapError .unusableSign
  words.mapM fun word =>
    match flags.readCased sign word with
    | .ok codes => .ok (.text codes)
    | .error .start => .error .noSuchPart
    | .error .rest => .error .wrongType

/-- The words of a command. -/
def argumentsOf (rules : ArgumentRules) (flags : Flags) (words : List Value) :
    Except Error (List Argument) :=
  if rules.caseSensitive then casedArguments rules.sign words
  else rules.uncasedArguments flags words

/-- The text of words that are not understood; each of them must be a text. -/
def unknownText (words : List Argument) : Except Error String := do
  let texts ← words.mapM fun
    | .text codes => .ok (Text.ofCodes codes)
    | .value _ => .error .wrongType
  return " ".intercalate texts

/-! ### Variables -/

/-- The texts of a flag that may be given several times, up to a value that is no text. -/
def leadingTexts : List GivenFlag → List String
  | ⟨_, _, .argument (.text codes)⟩ :: given => Text.ofCodes codes :: leadingTexts given
  | _ => []

/-- The texts at the start of a list. -/
def leadingValues : List Value → List String
  | v :: vs =>
    match v.codes? with
    | some codes => Text.ofCodes codes :: leadingValues vs
    | none => []
  | [] => []

/-- The variable with the JSON text that is merged from several ones. -/
def mergedVariable (setting : String) (text : Except String String) :
    Except Error (Option (String × Value)) :=
  match text with
  | .ok text => .ok (some (setting, .str text))
  | .error reason => .error (.unmergeableArguments setting reason)

/-- The variable of a flag for one value. A list as the value is merged to a JSON text, and so is
    no text at all, except for a section. -/
def singleVariable (rules : ArgumentRules) (given : GivenFlag) :
    Except Error (Option (String × Value)) :=
  let setting := given.flag.setting
  let value (v : Value) : Except Error (Option (String × Value)) := .ok (some (setting, v))
  match given.text, given.flag.kind with
  | .argument (.text codes), _ => value (.ofCodes codes)
  | .argument (.value (.list members)), _ =>
    mergedVariable setting (mergeTexts rules.nullText (leadingValues members))
  | .argument (.value v), _ => value v
  -- A section without a text has no entries, and other values without one are empty lists.
  | _, .section => value (.str "\x7b\x7d")
  | .none, .switch b => value (.bool b)
  | .none, .switches => value (.bool (Text.afterStart? turnedOff given.spelling).isNone)
  | _, _ => value (.str "[]")

/-- The variable of a flag: of several texts for one value the last one counts, and those for
    more than one value are merged. -/
def variableOf [Platform] (rules : ArgumentRules) (all : List GivenFlag) (flag : Flag) :
    Except Error (Option (String × Value)) :=
  let given := all.filter fun g => g.flag == flag
  match given.getLast?, flag.kind with
  | none, _ => .ok none
  | some _, .listed => mergedVariable flag.setting (mergeTexts rules.nullText (leadingTexts given))
  | some _, .entries => mergedVariable flag.setting (mergeEntries (leadingTexts given))
  | some last, _ => rules.singleVariable last

/-- The variables of the flags that words give. -/
def readVariables [Platform] (rules : ArgumentRules) (flags : Flags) (words : List Value) :
    Except Error Variables := do
  let words ← rules.argumentsOf flags words
  match readWords flags words with
  | .error .helpWanted => throw .helpWanted
  | .error (.misused reason) => throw (.unreadableArguments reason rules.ends)
  | .ok reading =>
    if !rules.skipsUnknown && !reading.unknown.isEmpty then
      throw (.unreadableArguments
        ("unrecognized arguments: " ++ (← unknownText reading.unknown)) rules.ends)
    let vars ← flags.all.mapM (rules.variableOf reading.given)
    return vars.filterMap id

end ArgumentRules

end RecordSearch
