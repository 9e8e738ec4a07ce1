import RecordSearch.Text.CharacterName.African
import RecordSearch.Text.CharacterName.Alias
import RecordSearch.Text.CharacterName.American
import RecordSearch.Text.CharacterName.Cuneiform
import RecordSearch.Text.CharacterName.EastAsian
import RecordSearch.Text.CharacterName.European
import RecordSearch.Text.CharacterName.Mathematics
import RecordSearch.Text.CharacterName.MiddleEastern
import RecordSearch.Text.CharacterName.Notation
import RecordSearch.Text.CharacterName.Pictograph
import RecordSearch.Text.CharacterName.Punctuation
import RecordSearch.Text.CharacterName.SouthAsian
import RecordSearch.Text.CharacterName.SoutheastAsian
import RecordSearch.Text.Codes
import RecordSearch.Text.Ranges

namespace RecordSearch.Text

/-!
# Names of characters

Every character of Unicode 14 has a name. Most names are listed; those of the syllables of Hangul
spell their letters, and those of ideographs end in their numbers. Names are found in any case,
but for those of syllables and of unified ideographs, which are written in capital letters.

* `codeOfName?`: the code point of the character with a name.
-/

/-! ### Numbers -/

/-- The value of a digit to the base sixteen, whose letters are capitals. -/
def capitalHexValue? (c : Char) : Option Nat :=
  if c.isDigit then some (c.toNat - 0x30)
  else if 'A' ≤ c && c ≤ 'F' then some (c.toNat - 0x37)
  else none

/-- The number with four or five digits. -/
def numberOfDigits? (digits : List Char) : Option Nat := do
  let values ← digits.mapM capitalHexValue?
  if values.length = 4 || values.length = 5 then
    return values.foldl (fun n digit => 16 * n + digit) 0
  else none

/-- First and last code points of the ranges of unified ideographs. -/
def ideographRanges : List (Nat × Nat) := [
  (0x3400, 0x4DBF), (0x4E00, 0x9FFF), (0x20000, 0x2A6DF), (0x2A700, 0x2B738), (0x2B740, 0x2B81D),
  (0x2B820, 0x2CEA1), (0x2CEB0, 0x2EBE0), (0x30000, 0x3134A)]

/-- The unified ideograph with a number. -/
def ideograph? (digits : List Char) : Option Nat :=
  (numberOfDigits? digits).filter (inRanges ideographRanges)

/-- Starts of names that end in the number of the character, and the ranges of the numbers. -/
def numberedNames : List (String × List (Nat × Nat)) := [
  ("CJK COMPATIBILITY IDEOGRAPH-", [(0xF900, 0xFA6D), (0xFA70, 0xFAD9), (0x2F800, 0x2FA1D)]),
  ("KHITAN SMALL SCRIPT CHARACTER-", [(0x18B00, 0x18CD5)]),
  ("NUSHU CHARACTER-", [(0x1B170, 0x1B2FB)])]

/-- The character whose name ends in its number, which is not filled up with zeros. -/
def numbered? (name : List Char) : Option Nat :=
  numberedNames.findSome? fun (start, ranges) =>
    ((afterStart? start.toList name).filter (·.head? != some '0')).bind fun digits =>
      (numberOfDigits? digits).filter (inRanges ranges)

/-! ### Syllables -/

/-- The first letters of syllables. -/
def firstLetters : List String :=
  ["G", "GG", "N", "D", "DD", "R", "M", "B", "BB", "S", "SS", "", "J", "JJ", "C", "K", "T", "P",
    "H"]

/-- The second letters of syllables. -/
def secondLetters : List String :=
  ["A", "AE", "YA", "YAE", "EO", "E", "YEO", "YE", "O", "WA", "WAE", "OE", "YO", "U", "WEO", "WE",
    "WI", "YU", "EU", "YI", "I"]

/-- The last letters of syllables, of which there may be none. -/
def lastLetters : List String :=
  ["", "G", "GG", "GS", "N", "NJ", "NH", "D", "L", "LG", "LM", "LB", "LS", "LT", "LP", "LH", "M",
    "B", "BS", "S", "SS", "NG", "J", "C", "K", "T", "P", "H"]

/-- The letter that a spelling starts with, by its number, and the spelling after it. Of several
    letters the longest one counts. -/
def readLetter? (letters : List String) (spelling : List Char) : Option (Nat × List Char) :=
  letters.zipIdx.foldl (fun found (letter, number) =>
    match afterStart? letter.toList spelling, found with
    | some rest, some (other, shortest) =>
      if rest.length < shortest.length then some (number, rest) else some (other, shortest)
    | some rest, none => some (number, rest)
    | none, found => found) none

/-- The syllable with a spelling. -/
def syllableOf? (spelling : List Char) : Option Nat := do
  let (first, spelling) ← readLetter? firstLetters spelling
  let (second, spelling) ← readLetter? secondLetters spelling
  let (last, spelling) ← readLetter? lastLetters spelling
  if spelling.isEmpty then
    return 0xAC00 + (first * secondLetters.length + second) * lastLetters.length + last
  else none

/-! ### All names -/

/-- All families of names. -/
def nameFamilies : List (List NameFamily) := [
  aliasNames, europeanNames, middleEasternNames, cuneiformNames, africanNames, southAsianNames,
  southeastAsianNames, eastAsianNames, americanNames, punctuationNames, mathematicsNames,
  notationNames, pictographNames]

/-- The code point of the character with a name. -/
def codeOfName? (name : String) : Option Nat :=
  match afterStart? "HANGUL SYLLABLE ".toList name.toList,
    afterStart? "CJK UNIFIED IDEOGRAPH-".toList name.toList with
  | some spelling, _ => syllableOf? spelling
  | none, some digits => ideograph? digits
  | none, none =>
    let capitals := name.toList.map Char.toUpper
    (nameFamilies.findSome? fun families => families.findSome? (·.code? capitals)).or
      (numbered? capitals)

end RecordSearch.Text
