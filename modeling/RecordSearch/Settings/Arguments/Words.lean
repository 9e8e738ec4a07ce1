import RecordSearch.Settings.Arguments.Sign
import RecordSearch.Text.LowerCase
import RecordSearch.Text.Quoted
import RecordSearch.Value

namespace RecordSearch

/-!
# The words of a command

A setting can be given by a flag and a text: `--connection.timeout=5`, or the same as two
words. A flag has one or more words, of which those with one letter start with one sign and all
others with two. What follows a flag depends on what it gives. Words are given by their code
points.

* `Flag`, `FlagKind`: the flags of a command;
* `Flags.readCased`: words with the flags as they are spelled, where the case does not count;
* `Word.ofCodes`: what a word of a command is;
* `readWords`: the flags that are given, and the words that are not understood.
-/

/-- What a flag gives: a section, for which a text may follow; one text; one of several texts of a
    list, or of the entries of a mapping; a truth value, or two of them, each by its own words; or
    a description of all flags. -/
inductive FlagKind where
  | section
  | single
  | listed
  | entries
  | switch (value : Bool)
  | switches
  | help
deriving DecidableEq, Repr

/-- A flag: its words, the setting that it gives, and what it gives. -/
structure Flag where
  words : List (List Nat)
  setting : String
  kind : FlagKind
deriving DecidableEq, Repr

/-- The flags of a command, with the signs that a flag may start with. -/
structure Flags where
  signs : List Nat
  all : List Flag

/-- A word of a command. Among texts values can stand that are no texts. -/
inductive Argument where
  | text (codes : List Nat)
  | value (v : Value)

/-- Why the words of a command are not read. -/
inductive WordProblem where
  /-- The words make no sense together. -/
  | misused (reason : String)
  /-- A description of the flags was asked for. -/
  | helpWanted
deriving DecidableEq, Repr

namespace Flag

/-- A flag in messages. -/
def title (flag : Flag) : String := "/".intercalate (flag.words.map Text.ofCodes)

/-- The problem that a flag is without the text that belongs to it. -/
def missesText (flag : Flag) : WordProblem :=
  .misused ("argument " ++ flag.title ++ ": expected one argument")

/-- The problem that a flag has a text which does not belong to it. -/
def ignoresText (flag : Flag) (text : List Nat) : WordProblem :=
  .misused ("argument " ++ flag.title ++ ": ignored explicit argument " ++ Text.quoteCodes text)

/-- Does no text belong to the flag? -/
def takesNoText (flag : Flag) : Bool :=
  match flag.kind with
  | .switch _ | .switches | .help => true
  | _ => false

end Flag

/-! ### The case of letters -/

/-- The part that is missing where a word is taken apart behind its flag. -/
inductive MissingPart where
  | start
  | rest
deriving DecidableEq, Repr

/-- The flag with a word. -/
def Flags.find? (flags : Flags) (word : List Nat) : Option Flag :=
  flags.all.find? fun flag => flag.words.contains word

/-- A text in lower case, if it has no surrogates. -/
def lowered (codes : List Nat) : List Nat :=
  if Text.areText codes then Text.codes (Text.lower (Text.ofCodes codes)) else codes

/-- The start of a word as a flag spells it: in lower case if this is the word of a flag, or else
    with its first letter so. -/
def Flags.respell (flags : Flags) (start : List Nat) : List Nat :=
  let short := lowered (start.take 2)
  if (flags.find? (lowered start)).isSome then lowered start
  else if (flags.find? short).isSome then short ++ start.drop 2
  else start

/-- A word with its flag as it is spelled. Where a sign has a meaning of its own, a word can have a
    flag without one of the two parts. -/
def Flags.readCased (flags : Flags) (sign : Sign) (word : List Nat) :
    Except MissingPart (List Nat) :=
  match sign.cut? word with
  | some ⟨some start, some rest⟩ => .ok (flags.respell start ++ rest)
  | some ⟨some _, none⟩ => .error .rest
  | some ⟨none, _⟩ => .error .start
  | none => .ok word

/-! ### What a word is -/

/-- What a word is: a flag, perhaps with a text in the same word; a word that starts like a flag
    but is none; or any other word. -/
inductive Word where
  | flag (flag : Flag) (spelling : List Nat) (attached : Option (List Nat))
  | unknown
  | plain

/-- Is the text a number below zero? -/
def isNegativeNumber : List Nat → Bool
  | 0x2D :: codes =>
    let whole := codes.takeWhile Text.isDecimalDigit
    match codes.drop whole.length with
    -- A line break at the end is no part of the number.
    | [] | [0x0A] => !whole.isEmpty
    | 0x2E :: rest =>
      match rest.dropWhile Text.isDecimalDigit with
      | [] | [0x0A] => rest.any Text.isDecimalDigit
      | _ => false
    | _ => false
  | _ => false

/-- Does a flag look like a number below zero? -/
def Flags.haveNumbers (flags : Flags) : Bool :=
  flags.all.any fun flag => flag.words.any isNegativeNumber

/-- The text before the first equality sign and the text after it, if there is one. -/
def cutAtSign (codes : List Nat) : List Nat × Option (List Nat) :=
  let name := codes.takeWhile (· != '='.toNat)
  match codes.drop name.length with
  | _ :: rest => (name, some rest)
  | [] => (name, none)

/-- The flag at the start of a word that goes on with its text after an equality sign. -/
def Flags.joined? (flags : Flags) (codes : List Nat) : Option Word :=
  match cutAtSign codes with
  | (name, some text) => (flags.find? name).map fun flag => .flag flag name (some text)
  | (_, none) => none

/-- The flag with one letter at the start of a word that goes on with its text at once. -/
def Flags.attached? (flags : Flags) : List Nat → Option Word
  | sign :: letter :: text =>
    if flags.signs.contains letter then none
    else (flags.find? [sign, letter]).map fun flag => .flag flag [sign, letter] (some text)
  | _ => none

/-- A word by what it looks like. -/
def Word.ofCodes (flags : Flags) : List Nat → Word
  | [] => .plain
  | sign :: codes =>
    let word := sign :: codes
    if !flags.signs.contains sign then .plain
    else match flags.find? word with
      | some known => .flag known word none
      | none =>
        if codes.isEmpty then .plain
        -- The text behind an equality sign comes before one that follows a letter at once.
        else match (flags.joined? word).or (flags.attached? word) with
          | some found => found
          | none =>
            if (isNegativeNumber word && !flags.haveNumbers) || codes.contains ' '.toNat then
              .plain
            else .unknown

/-- What a word of a command is. A value that is no text is no flag. -/
def Word.ofArgument (flags : Flags) : Argument → Word
  | .text codes => .ofCodes flags codes
  | .value _ => .plain

/-- The word behind which no word is a flag. -/
def flagsEnd : List Nat := Text.codes "--"

/-- Is this the word behind which no word is a flag? -/
def Argument.endsFlags : Argument → Bool
  | .text codes => codes == flagsEnd
  | .value _ => false

/-- Can the word be the text of a flag? -/
def Flags.allowText (flags : Flags) (word : Argument) : Bool :=
  !word.endsFlags && match Word.ofArgument flags word with
    | .plain => true
    | _ => false

/-! ### Reading -/

/-- What follows a flag: nothing; two hyphens in the same word, which stand for no text; or a
    text or another value. -/
inductive GivenText where
  | none
  | noText
  | argument (argument : Argument)

/-- A flag as it is given: with the spelling of its word and what follows it. -/
structure GivenFlag where
  flag : Flag
  spelling : List Nat
  text : GivenText

/-- What words give: flags, and the words that are not understood. -/
structure Reading where
  given : List GivenFlag
  unknown : List Argument

/-- What one word gives: flags, and a flag whose text is still to come. -/
structure WordReading where
  given : List GivenFlag
  unfinished : Option (Flag × List Nat)

/-- A text in the same word as its flag. -/
def GivenText.ofAttached (text : List Nat) : GivenText :=
  if text = flagsEnd then .noText else .argument (.text text)

/-- A flag with a text in the same word. A flag with one letter to which no text belongs may be
    followed by the letters of others. The last of them may want a text, which is still to come. -/
def readJoined (flags : Flags) :
    (flag : Flag) → (spelling : List Nat) → List Nat → Except WordProblem WordReading
  | flag, spelling, [] =>
    if flag.takesNoText then .error (flag.ignoresText [])
    else .ok ⟨[⟨flag, spelling, .ofAttached []⟩], none⟩
  | flag, spelling, letter :: text =>
    if !flag.takesNoText then
      .ok ⟨[⟨flag, spelling, .ofAttached (letter :: text)⟩], none⟩
    else
      match spelling with
      | sign :: second :: _ =>
        match if flags.signs.contains second then none else flags.find? [sign, letter] with
        | none => .error (flag.ignoresText (letter :: text))
        | some next =>
          let this : GivenFlag := ⟨flag, spelling, .none⟩
          match text with
          | [] => .ok ⟨[this], some (next, [sign, letter])⟩
          | code :: text =>
            (fun reading => { reading with given := this :: reading.given })
              <$> readJoined flags next [sign, letter] (code :: text)
      | _ => .error (flag.ignoresText (letter :: text))

/-- A flag whose text would be the next word, if there is one; is the next word used? -/
def readFollowed (flags : Flags) (flag : Flag) (spelling : List Nat) (next : Option Argument) :
    Except WordProblem (GivenFlag × Bool) :=
  match if flag.takesNoText then none else next.filter flags.allowText with
  | some word => .ok (⟨flag, spelling, .argument word⟩, true)
  | none =>
    if flag.takesNoText || flag.kind = .section then .ok (⟨flag, spelling, .none⟩, false)
    else .error flag.missesText

/-- What a word with a flag gives, and whether it uses the next one. A description that is asked
    for ends all. -/
def readWord (flags : Flags) (flag : Flag) (spelling : List Nat) (attached : Option (List Nat))
    (next : Option Argument) : Except WordProblem (List GivenFlag × Bool) := do
  let reading ← match attached with
    | none => pure ⟨[], some (flag, spelling)⟩
    | some text => readJoined flags flag spelling text
  let (last, used) ← match reading.unfinished with
    | none => pure ([], false)
    | some (flag, spelling) =>
      let (given, used) ← readFollowed flags flag spelling next
      pure ([given], used)
  let given := reading.given ++ last
  if given.any fun g => g.flag.kind = .help then throw .helpWanted
  return (given, used)

/-- Two readings, one after the other. -/
def Reading.append (first second : Reading) : Reading :=
  ⟨first.given ++ second.given, first.unknown ++ second.unknown⟩

/-- Reads words from left to right. After two hyphens no word is a flag. -/
def readWords (flags : Flags) : List Argument → Except WordProblem Reading
  | [] => .ok ⟨[], []⟩
  | [word] =>
    match if word.endsFlags then .plain else Word.ofArgument flags word with
    | .flag flag spelling attached =>
      (fun (given, _) => ⟨given, []⟩) <$> readWord flags flag spelling attached none
    | _ => .ok ⟨[], [word]⟩
  | word :: next :: words =>
    if word.endsFlags then .ok ⟨[], word :: next :: words⟩
    else match Word.ofArgument flags word with
      | .flag flag spelling attached =>
        match readWord flags flag spelling attached (some next) with
        | .error problem => .error problem
        | .ok (given, true) => (Reading.append ⟨given, []⟩) <$> readWords flags words
        | .ok (given, false) => (Reading.append ⟨given, []⟩) <$> readWords flags (next :: words)
      | _ => (Reading.append ⟨[], [word]⟩) <$> readWords flags (next :: words)

end RecordSearch
