import RecordSearch.Text.Quoted

namespace RecordSearch

/-!
# Decoding

How bytes, which are given by their numbers, are read as text. An encoding says what the bytes at
the start of a text stand for; its text is what they stand for one after the other.

* `Flaw`, `DecodingFault`: why bytes stand for no text;
* `ByteStep`: what the bytes at the start of a text stand for;
* `decodeFrom`, `decodeBy`: the code points of bytes by an encoding with states or without.
-/

/-- What is wrong with bytes. -/
inductive Flaw where
  /-- A byte stands for no character of ASCII. -/
  | notAscii
  /-- A byte stands for no character of a code page. -/
  | unassigned
  /-- Bytes stand for no character together. -/
  | illegal
  /-- The text ends before a character does. -/
  | incomplete
  /-- The text ends within a number. -/
  | truncated
  /-- The text ends after the first half of a pair. -/
  | halfPair
  /-- The second half of a pair stands alone. -/
  | secondHalf
  /-- The first half of a pair stands alone. -/
  | firstHalf
  /-- A number belongs to a half of a pair. -/
  | surrogate
  /-- A number is too large for a character. -/
  | beyond
  /-- A byte is not allowed outside a shifted part. -/
  | special
  /-- A shifted part ends within a character. -/
  | partialCharacter
  /-- What fills up a shifted part is not zero. -/
  | padding
  /-- A shifted part does not begin. -/
  | illFormed
  /-- A shifted part does not end. -/
  | unterminated
  /-- An escape has too few digits. -/
  | shortEscape (letter : Char) (digits : Nat)
  /-- The number of an escape is too large for a character. -/
  | illegalEscape
  /-- The same, where other escapes are none. -/
  | escapeBeyond
  /-- A backslash stands at the end. -/
  | endsInBackslash
  /-- An escape by name has no name. -/
  | malformedName
  /-- No character has the name of an escape. -/
  | unknownName
deriving DecidableEq, Repr

/-- The text of a flaw. -/
def Flaw.text : Flaw → String
  | .notAscii => "ordinal not in range(128)"
  | .unassigned => "character maps to <undefined>"
  | .illegal => "illegal multibyte sequence"
  | .incomplete => "incomplete multibyte sequence"
  | .truncated => "truncated data"
  | .halfPair => "unexpected end of data"
  | .secondHalf => "illegal encoding"
  | .firstHalf => "illegal UTF-16 surrogate"
  | .surrogate => "code point in surrogate code point range(0xd800, 0xe000)"
  | .beyond => "code point not in range(0x110000)"
  | .special => "unexpected special character"
  | .partialCharacter => "partial character in shift sequence"
  | .padding => "non-zero padding bits in shift sequence"
  | .illFormed => "ill-formed sequence"
  | .unterminated => "unterminated shift sequence"
  | .shortEscape letter digits =>
    "truncated \\" ++ String.ofList (letter :: List.replicate digits 'X') ++ " escape"
  | .illegalEscape => "illegal Unicode character"
  | .escapeBeyond => "\\Uxxxxxxxx out of range"
  | .endsInBackslash => "\\ at end of string"
  | .malformedName => "malformed \\N character escape"
  | .unknownName => "unknown Unicode character name"

/-- Why bytes are not read. -/
inductive DecodingFault where
  /-- Bytes at a position have a flaw. -/
  | flawed (encoding : String) (position : Nat) (bytes : List Nat) (flaw : Flaw)
  /-- The order of the bytes is not said at the start. -/
  | noMark (bits : Nat)
  /-- The encoding is one that reads nothing. -/
  | nothingReadable
  /-- A character is no digit of a position. -/
  | notADigit (digit : Nat)
  /-- The text ends within a position. -/
  | positionCutOff
  /-- A code point lies beyond the last one. -/
  | codeBeyond (code : Nat)
  /-- A label of a domain name is not the short form of a text. -/
  | notPunycode (fault : DecodingFault)
  /-- A code point must not be in a domain name. -/
  | barred (code : Nat)
  /-- Characters of a label are written in both directions. -/
  | mixedDirections
  /-- A label is written from right to left, but not at both of its ends. -/
  | openDirection
  /-- A label has no characters or too many. -/
  | labelLength
  /-- A label starts like the short form of another one. -/
  | shortenedTwice
  /-- A label is not what its text is written as. -/
  | notReversible (label written : List Nat)
deriving DecidableEq, Repr

/-- The digits of a number to the base sixteen. -/
def hexText (n : Nat) : String := String.ofList (Nat.toDigits 16 n)

/-- Bytes between quotes. -/
def quotedBytes (bytes : List Nat) : String := Text.quoteBytes (bytes.map UInt8.ofNat)

/-- The text of a fault. -/
def DecodingFault.message : DecodingFault → String
  | .flawed encoding position [byte] flaw =>
    "'" ++ encoding ++ "' codec can't decode byte 0x" ++ String.ofList (Text.hexDigits 2 byte)
      ++ " in position " ++ toString position ++ ": " ++ flaw.text
  | .flawed encoding position bytes flaw =>
    "'" ++ encoding ++ "' codec can't decode bytes in position " ++ toString position ++ "-"
      ++ toString (position + bytes.length - 1) ++ ": " ++ flaw.text
  | .noMark bits => "UTF-" ++ toString bits ++ " stream does not start with BOM"
  | .nothingReadable => "undefined encoding"
  | .notADigit digit =>
    "Invalid extended code point '" ++ String.singleton (Char.ofNat digit) ++ "'"
  | .positionCutOff => "incomplete punicode string"
  | .codeBeyond code => "Invalid character U+" ++ hexText code
  | .notPunycode fault =>
    "decoding with 'punycode' codec failed (UnicodeError: " ++ fault.message ++ ")"
  | .barred code => "Invalid character " ++ Text.quoteCodes [code]
  | .mixedDirections => "Violation of BIDI requirement 2"
  | .openDirection => "Violation of BIDI requirement 3"
  | .labelLength => "label empty or too long"
  | .shortenedTwice => "Label starts with ACE prefix"
  | .notReversible label written =>
    "('IDNA does not round-trip', b" ++ quotedBytes label ++ ", b" ++ quotedBytes written ++ ")"

/-- What the bytes at the start of a text stand for: the first one with a number of further ones
    for code points, which can be surrogates, or for nothing. -/
inductive ByteStep where
  | take (codes : List Nat) (further : Nat)
  | flawed (further : Nat) (flaw : Flaw)

/-- The step for characters. -/
def ByteStep.chars (cs : List Char) (further : Nat) : ByteStep := .take (cs.map Char.toNat) further

/-- The step for one character and one byte. -/
def ByteStep.one (c : Char) : ByteStep := .take [c.toNat] 0

/-- The code points of bytes from a position on, by an encoding that says in each state what the
    bytes at the start of a text stand for, and which state comes after them. -/
def decodeFrom {σ : Type} (encoding : String) (step : σ → Nat → List Nat → ByteStep × σ) :
    (state : σ) → (position : Nat) → List Nat → Except DecodingFault (List Nat)
  | _, _, [] => .ok []
  | state, position, byte :: bytes =>
    match step state byte bytes with
    | (.take codes further, state) =>
      (codes ++ ·) <$>
        decodeFrom encoding step state (position + further + 1) (bytes.drop further)
    -- The first flaw ends the reading, and names the bytes that have it.
    | (.flawed further flaw, _) =>
      .error (.flawed encoding position (byte :: bytes.take further) flaw)
termination_by _ _ bytes => bytes.length
decreasing_by simp only [List.length_drop, List.length_cons]; omega

/-- The code points of bytes from a position on, by an encoding without states. -/
def decodeBy (encoding : String) (step : Nat → List Nat → ByteStep) :
    (position : Nat) → List Nat → Except DecodingFault (List Nat) :=
  decodeFrom encoding (fun _ byte bytes => (step byte bytes, ())) ()

/-- What a byte stands for if it is one of ASCII, and else with the bytes after it. -/
def asciiOr (otherwise : Nat → List Nat → ByteStep) (byte : Nat) (bytes : List Nat) : ByteStep :=
  if byte < 0x80 then .one (Char.ofNat byte) else otherwise byte bytes

/-- Characters of ASCII. -/
def asciiStep : Nat → List Nat → ByteStep := asciiOr fun _ _ => .flawed 0 .notAscii

/-- Characters by their code points. -/
def latinStep (byte : Nat) (_ : List Nat) : ByteStep := .one (Char.ofNat byte)

end RecordSearch
