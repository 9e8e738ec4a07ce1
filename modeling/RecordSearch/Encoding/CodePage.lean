import RecordSearch.Encoding.Decoding

namespace RecordSearch

/-!
# Code pages

Encodings in which each byte stands for one character or for none.

* `CodePage`: a code page with its names;
* `CodePage.step`: what a byte stands for.
-/

/-- A code page: its name, its further names, and the characters of the bytes from a first one on,
    row by row. Bytes below the first one stand for characters of ASCII, and the replacement
    character stands where there is none. -/
structure CodePage where
  name : String
  names : List String
  first : Nat
  rows : List String
deriving DecidableEq, Repr

/-- The character of a byte. -/
def CodePage.char? (page : CodePage) (byte : Nat) : Option Char :=
  if byte < page.first then some (Char.ofNat byte)
  else ((page.rows.flatMap String.toList)[byte - page.first]?).filter (· != '\ufffd')

/-- What a byte stands for. -/
def CodePage.step (page : CodePage) (byte : Nat) (_ : List Nat) : ByteStep :=
  match page.char? byte with
  | some c => .one c
  | none => .flawed 0 .unassigned

end RecordSearch
