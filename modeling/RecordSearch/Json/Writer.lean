import RecordSearch.Value.Text

namespace RecordSearch.Json

/-!
# Writing JSON texts

Values are written without spaces, with the keys of a mapping in rising order of code
points. Tuples and sets are written as lists, bytes as lists of integers, failures as their
literals.

* `write`: the text of a value without spaces;
* `keyText`: the text of a key of any type;
* `writeSpaced`: the text for a reader, with the keys in their own order, a space after each
  comma and colon, and letters for the usual control characters.
-/

/-- One character inside a string literal. -/
def writeChar (c : Char) : List Char :=
  if c = '"' then ['\\', '"']
  else if c = '\\' then ['\\', '\\']
  else if c.toNat < 0x20 then '\\' :: 'u' :: Text.hexDigits 4 c.toNat
  else [c]

/-- A string literal. -/
def writeString (s : String) : String :=
  String.ofList ('"' :: s.toList.flatMap writeChar ++ ['"'])

/-- A code point that may be a surrogate, inside a string literal. -/
def writeCode (code : Nat) : List Char :=
  if code.isValidChar then writeChar (Char.ofNat code)
  else '\\' :: 'u' :: Text.hexDigits 4 code

/-- A string literal for code points. -/
def writeCodes (codes : List Nat) : String :=
  String.ofList ('"' :: codes.flatMap writeCode ++ ['"'])

/-- A number, by the shortest decimal that reads back as it. -/
def writeFloat : Binary64 → String
  | .nan => "NaN"
  | .infinite negative => if negative then "-Infinity" else "Infinity"
  | x => x.text Binary64.plainLayout

mutual

/-- The JSON text of a value. -/
def write : Value → String
  | .null => "null"
  | .bool b => if b then "true" else "false"
  | .int n => toString n
  | .float x => writeFloat x
  | .str s => writeString s
  | .brokenStr codes => writeCodes codes
  | .bytes bs | .buffer bs => "[" ++ ",".intercalate (bs.map fun b => toString b.toNat) ++ "]"
  | .list items | .tuple items | .set items => "[" ++ ",".intercalate (writeAll items) ++ "]"
  | .mapping entries =>
    let written := (writeEntries entries).mergeSort fun a b => decide (a.1 ≤ b.1)
    "\x7b" ++ ",".intercalate (written.map Prod.snd) ++ "\x7d"
  | .brokenMapping entries => "\x7b" ++ ",".intercalate (writeBroken entries) ++ "\x7d"
  | .failure kind args files => writeString (Value.failure kind args files).literal

/-- The JSON texts of values. -/
def writeAll : List Value → List String
  | [] => []
  | v :: vs => write v :: writeAll vs

/-- The keys of entries and the JSON texts of the whole entries. -/
def writeEntries : List (String × Value) → List (String × String)
  | [] => []
  | (k, v) :: es => (k, writeString k ++ ":" ++ write v) :: writeEntries es

/-- The JSON texts of entries whose keys are given by code points. -/
def writeBroken : List (List Nat × Value) → List String
  | [] => []
  | (k, v) :: es => (writeCodes k ++ ":" ++ write v) :: writeBroken es

end

/-- The text of a key of any type. -/
def keyText : Value → String
  | .null => "null"
  | .bool b => if b then "true" else "false"
  | .float x => writeFloat x
  | v => v.text

/-! ### For a reader -/

/-- One character inside a string literal, by a letter after a backslash if it has one. -/
def writeLetter (c : Char) : List Char :=
  match c.toNat with
  | 0x08 => ['\\', 'b']
  | 0x09 => ['\\', 't']
  | 0x0A => ['\\', 'n']
  | 0x0C => ['\\', 'f']
  | 0x0D => ['\\', 'r']
  | _ => writeChar c

/-- A string literal with letters for control characters. -/
def writeLettered (s : String) : String :=
  String.ofList ('"' :: s.toList.flatMap writeLetter ++ ['"'])

mutual

/-- The JSON text of a value with spaces. -/
def writeSpaced : Value → String
  | .str s => writeLettered s
  | .list items | .tuple items | .set items =>
    "[" ++ ", ".intercalate (writeAllSpaced items) ++ "]"
  | .mapping entries => "\x7b" ++ ", ".intercalate (writeEntriesSpaced entries) ++ "\x7d"
  | v => write v

/-- The JSON texts of values with spaces. -/
def writeAllSpaced : List Value → List String
  | [] => []
  | v :: vs => writeSpaced v :: writeAllSpaced vs

/-- The JSON texts of entries with spaces. -/
def writeEntriesSpaced : List (String × Value) → List String
  | [] => []
  | (k, v) :: es => (writeLettered k ++ ": " ++ writeSpaced v) :: writeEntriesSpaced es

end

end RecordSearch.Json
