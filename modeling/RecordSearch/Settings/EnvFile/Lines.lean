import RecordSearch.Settings.Variables
import RecordSearch.Text.Codes

namespace RecordSearch

/-!
# Lines of an environment file

Each line of an environment file sets a variable: `NAME=text`. The name may have `export` in front
of it, name and text may stand between quotes, and after a number sign there is a remark. A name
without an equality sign has no text. A line that is none of this is passed over. Names and texts
are given by their code points.

* `readLine`: the variable of the first line, and the text after it;
* `readLines`: the variables of all lines.
-/

/-- A variable of a file. One that is named alone has no text. -/
structure FileVariable where
  name : List Nat
  text : Option (List Nat)
deriving DecidableEq, Repr

/-! ### Starts of a text -/

/-- What is left of a text after a character, if it starts with it. -/
def afterChar? (c : Char) : List Nat → Option (List Nat)
  | code :: codes => if code = c.toNat then some codes else none
  | [] => none

/-- The text with one kind of line break. -/
def plainBreaks : List Nat → List Nat
  | 0x0D :: 0x0A :: codes => 0x0A :: plainBreaks codes
  | 0x0D :: codes => 0x0A :: plainBreaks codes
  | code :: codes => code :: plainBreaks codes
  | [] => []

/-- Is the code point that of a line break? -/
def isBreak (code : Nat) : Bool := code == 0x0A || code == 0x0D

/-- Is the code point that of a space, but of no line break? -/
def isLineSpace (code : Nat) : Bool := Text.isSpaceCode code && !isBreak code

/-- The text without the spaces at the start of its first line. -/
def dropLineSpaces (codes : List Nat) : List Nat := codes.dropWhile isLineSpace

/-- The text from the first line break on. -/
def fromBreak (codes : List Nat) : List Nat := codes.dropWhile (· != 0x0A)

/-- The text after the word `export` with a space, if it starts with them. -/
def afterExport (codes : List Nat) : List Nat :=
  match Text.afterStart? (Text.codes "export") codes with
  | some (code :: rest) => if isLineSpace code then dropLineSpaces rest else codes
  | _ => codes

/-! ### Quotes -/

/-- What stands before a quote, and the text after it. What comes behind a backslash belongs to it
    and ends nothing. -/
def untilQuote (quote : Nat) : List Nat → Option (List Nat × List Nat)
  | [] => none
  | 0x5C :: code :: codes =>
    (untilQuote quote codes).map fun (text, rest) => (0x5C :: code :: text, rest)
  | code :: codes =>
    if code = quote then some ([], codes)
    else (untilQuote quote codes).map fun (text, rest) => (code :: text, rest)

/-- The character that a letter behind a backslash stands for between double quotes; between
    single ones only the backslash and the quote stand for themselves. -/
def unescaped? (quote code : Nat) : Option Char :=
  match Char.ofNat code with
  | '\\' => some '\\'
  | '\'' => some '\''
  | c =>
    if quote = '\''.toNat then none
    else match c with
      | '"' => some '"'
      | 'a' => some '\x07'
      | 'b' => some '\x08'
      | 'f' => some '\x0c'
      | 'n' => some '\n'
      | 'r' => some '\r'
      | 't' => some '\t'
      | 'v' => some '\x0b'
      | _ => none

/-- A text with its escapes read. -/
def unescape (quote : Nat) : List Nat → List Nat
  | 0x5C :: code :: codes =>
    match unescaped? quote code with
    | some plain => plain.toNat :: unescape quote codes
    | none => 0x5C :: unescape quote (code :: codes)
  | code :: codes => code :: unescape quote codes
  | [] => []

/-- The text between quotes, and what comes after it. -/
def readQuoted (quote : Char) (codes : List Nat) : Option (List Nat × List Nat) :=
  (untilQuote quote.toNat codes).map fun (text, rest) => (unescape quote.toNat text, rest)

/-! ### Texts -/

/-- Does the text go on with spaces and a number sign? -/
def startsRemark (codes : List Nat) : Bool :=
  (codes.head?.map Text.isSpaceCode).getD false
    && (codes.dropWhile Text.isSpaceCode).head? == some '#'.toNat

/-- The text before a remark, which starts behind a space. -/
def beforeRemark : List Nat → List Nat
  | [] => []
  | code :: codes => if startsRemark (code :: codes) then [] else code :: beforeRemark codes

/-- The text of a variable, and what comes after it. Text without quotes goes on to the end of the
    line. -/
def readText (codes : List Nat) : Option (List Nat × List Nat) :=
  match afterChar? '\'' codes, afterChar? '"' codes with
  | some rest, _ => readQuoted '\'' rest
  | none, some rest => readQuoted '"' rest
  | none, none =>
    some (Text.trimEndCodes (beforeRemark (codes.takeWhile (· != 0x0A))), fromBreak codes)

/-- The text of a variable behind an equality sign, and what comes after it. Spaces are not part of
    it, and a remark can come at once after them. -/
def readTextAfterSign (codes : List Nat) : Option (List Nat × List Nat) :=
  let start := dropLineSpaces codes
  if start.length < codes.length && start.head? == some '#'.toNat then some ([], start)
  else readText start

/-- The name of a variable, and what comes after it. Before a remark there is none. -/
def readName (codes : List Nat) : Option (Option (List Nat) × List Nat) :=
  match afterChar? '#' codes, afterChar? '\'' codes with
  -- A remark takes the place of a name.
  | some _, _ => some (none, codes)
  | none, some rest =>
    let name := rest.takeWhile (· != '\''.toNat)
    match rest.drop name.length with
    | _ :: rest => if name.isEmpty then none else some (some name, rest)
    | [] => none
  | none, none =>
    let name := codes.takeWhile fun code =>
      code != '='.toNat && code != '#'.toNat && !Text.isSpaceCode code
    if name.isEmpty then none else some (some name, codes.drop name.length)

/-! ### Lines -/

/-- The text after a remark, if there is one. -/
def afterRemark (codes : List Nat) : List Nat :=
  match afterChar? '#' (dropLineSpaces codes) with
  | some rest => fromBreak rest
  | none => codes

/-- The text after the line break that comes first, but for spaces. -/
def afterLine? (codes : List Nat) : Option (List Nat) :=
  match dropLineSpaces codes with
  | 0x0A :: rest => some rest
  | [] => some []
  | _ :: _ => none

/-- The text of a variable after its name, and what comes after it. -/
def readTextAfterName (codes : List Nat) : Option (Option (List Nat) × List Nat) :=
  match afterChar? '=' (dropLineSpaces codes) with
  | some rest => (readTextAfterSign rest).map fun (text, rest) => (some text, rest)
  | none => some (none, dropLineSpaces codes)

/-- The rest of a text from a line on that is passed over from somewhere on. -/
def passOver (codes : List Nat) : Option FileVariable × List Nat :=
  (none, (fromBreak codes).drop 1)

/-- The variable of the first line that is not blank, if it has one, and the text after it. -/
def readLine (codes : List Nat) : Option FileVariable × List Nat :=
  match codes.dropWhile Text.isSpaceCode with
  | [] => (none, [])
  | start =>
    let start := afterExport start
    match readName start with
    | none => passOver start
    | some (name, rest) =>
      match readTextAfterName rest with
      | none =>
        -- What cannot be read starts with a quote behind the equality sign.
        passOver (dropLineSpaces ((dropLineSpaces rest).drop 1))
      | some (text, rest) =>
        let rest := afterRemark rest
        match afterLine? rest with
        | none => passOver rest
        | some after => (name.map fun name => ⟨name, text⟩, after)

/-- The variables of all lines. The first argument bounds their number. -/
def readLinesWithin : (fuel : Nat) → List Nat → List FileVariable
  | 0, _ => []
  | _, [] => []
  | fuel + 1, code :: codes =>
    let (line, rest) := readLine (code :: codes)
    line.toList ++ readLinesWithin fuel rest

/-- The variables of all lines. -/
def readLines (codes : List Nat) : List FileVariable :=
  readLinesWithin (codes.length + 1) (plainBreaks codes)

end RecordSearch
