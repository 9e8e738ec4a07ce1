import RecordSearch.Text.Quoted

namespace RecordSearch.Yaml

/-!
# What is wrong with a YAML text

A place in a text is given by its line and its column. A text is refused for a character that
may not stand in it, or for what stands at a place inside something that started at another.

* `isBreak`: the characters that end a line;
* `Mark.after`: the place after some characters;
* `Problem.className` and `Problem.message`: the class and the text of a problem with a file.
-/

/-- The characters that end a line. -/
def isBreak (c : Char) : Bool :=
  c == '\n' || c == '\r' || c.toNat == 0x85 || c.toNat == 0x2028 || c.toNat == 0x2029

/-- A place in a text. The first line and the first column have the number zero. -/
structure Mark where
  line : Nat
  column : Nat
deriving DecidableEq, Repr

/-- The place after one more character. A mark of the order of bytes takes no column. -/
def Mark.next (mark : Mark) (c : Char) : Mark :=
  if isBreak c then ⟨mark.line + 1, 0⟩
  else if c.toNat = 0xFEFF then mark
  else ⟨mark.line, mark.column + 1⟩

/-- The place after the given characters from the start of a text. -/
def Mark.after (cs : List Char) : Mark := cs.foldl Mark.next ⟨0, 0⟩

/-- A place in words. -/
def Mark.words (name : String) (mark : Mark) : String :=
  "  in \"" ++ name ++ "\", line " ++ toString (mark.line + 1) ++ ", column "
    ++ toString (mark.column + 1)

/-- Why a text is not read. -/
inductive Problem where
  /-- A character may not stand in a text. -/
  | unprintable (code position : Nat)
  /-- A text in quotes that started at a place goes beyond a line that ends the document. -/
  | separator (start place : Mark)
  /-- In a mapping that started at a place there is a colon without a key. -/
  | looseColon (start place : Mark)
  /-- The text is no value in brackets and quotes. -/
  | notFlow
deriving DecidableEq, Repr

/-- The class of the error that a problem leads to. -/
def Problem.className : Problem → String
  | .unprintable .. => "ReaderError"
  | .separator .. => "ScannerError"
  | .looseColon .. | .notFlow => "ParserError"

/-- What a problem with a file says. -/
def Problem.message (name : String) : Problem → String
  | .unprintable code position =>
    "unacceptable character #x" ++ String.ofList (Text.hexDigits 4 code)
      ++ ": special characters are not allowed\n  in \"" ++ name ++ "\", position "
      ++ toString position
  | .separator start place =>
    "while scanning a quoted scalar\n" ++ start.words name
      ++ "\nfound unexpected document separator\n" ++ place.words name
  | .looseColon start place =>
    "while parsing a flow mapping\n" ++ start.words name
      ++ "\nexpected ',' or '\x7d', but got ':'\n" ++ place.words name
  | .notFlow => "expected a flow collection\n  in \"" ++ name ++ "\""

end RecordSearch.Yaml
