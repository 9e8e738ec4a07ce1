import RecordSearch.Text.Parts

namespace RecordSearch.Text

/-!
# Families of names

Many names of characters start with the same words, and go on with others for characters that
follow each other. A family lists what the names with one start go on with.

* `NameFamily`: a start and the names that have it;
* `NameFamily.code?`: the code point of a name.
-/

/-- Names with the same start. A run gives what the names of characters from a code point on go on
    with, between commas; where nothing stands, the name of a character does not belong to it. -/
structure NameFamily where
  start : String
  runs : List (Nat × String)

/-- The code point of an entry in a run from a code point on. What is left to be found of the entry
    is nothing at all once it differs. -/
def codeInRun? (entry : List Char) : (code : Nat) → (left : Option (List Char)) → List Char →
    Option Nat
  | code, left, [] => if left = some [] then some code else none
  | code, left, c :: cs =>
    if c = ',' then
      if left = some [] then some code else codeInRun? entry (code + 1) (some entry) cs
    else codeInRun? entry code (left.bind (afterStart? [c])) cs

/-- The code point of the character with a name, if the family has the name. -/
def NameFamily.code? (family : NameFamily) (name : List Char) : Option Nat :=
  match afterStart? family.start.toList name with
  | none | some [] => none
  | some entry => family.runs.findSome? fun run =>
    codeInRun? entry run.1 (some entry) run.2.toList

end RecordSearch.Text
