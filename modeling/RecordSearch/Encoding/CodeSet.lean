import RecordSearch.Encoding.Decoding

namespace RecordSearch

/-!
# Code sets

Sets of characters that are found by two numbers each.

* `CodeRow`, `CodeSet`: a set, row by row;
* `CodeSet.char?`: the character at a place;
* `twoBytes`: what two bytes stand for.
-/

/-- Characters with the same first number, from a second number on. The replacement character
    stands where there is none. -/
structure CodeRow where
  first : Nat
  start : Nat
  characters : String
deriving DecidableEq, Repr

/-- A set of characters. -/
abbrev CodeSet := List CodeRow

/-- The character of a row at a place. -/
def CodeRow.char? (row : CodeRow) (first second : Nat) : Option Char :=
  if row.first = first && row.start ≤ second then
    (row.characters.toList[second - row.start]?).filter (· != '\ufffd')
  else none

/-- The character of a set at a place. -/
def CodeSet.char? (set : CodeSet) (first second : Nat) : Option Char :=
  set.findSome? fun row => row.char? first second

/-- The characters of one of several sets at a place: those of the first set that has any. -/
def charIn? (sets : List CodeSet) (first second : Nat) : Option (List Char) :=
  (sets.findSome? fun set => set.char? first second).map fun c => [c]

/-- The characters of a place that stands for several. -/
def joinedChars? (places : List (Nat × Nat × String)) (first second : Nat) :
    Option (List Char) :=
  (places.find? fun place => place.1 = first && place.2.1 = second).map fun place =>
    place.2.2.toList

/-- The step for bytes that a character does not end in. -/
def cutOffStep (bytes : List Nat) : ByteStep := .flawed bytes.length .incomplete

/-- What a byte and the next one stand for, if they are a place. -/
def twoBytes (chars? : Nat → Nat → Option (List Char)) (first : Nat) : List Nat → ByteStep
  | [] => cutOffStep []
  | second :: _ =>
    match chars? first second with
    | some cs => .chars cs 1
    | none => .flawed 0 .illegal

end RecordSearch
