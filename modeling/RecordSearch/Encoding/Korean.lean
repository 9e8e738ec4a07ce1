import RecordSearch.Encoding.CodeSet.Cp949
import RecordSearch.Encoding.CodeSet.KsX1001

namespace RecordSearch

/-!
# Korean encodings

A byte stands for a character of ASCII, or with the next one for another character. Syllables can
also be given by their letters: a first consonant, a vowel, and perhaps a last consonant.

* `eucKrStep`, `cp949Step`: encodings with the characters of KS X 1001;
* `johabStep`: the encoding with all syllables by their letters.
-/

/-- The letters that can come first in a syllable. -/
def firstLetters : List Char := "ㄱㄲㄴㄷㄸㄹㅁㅂㅃㅅㅆㅇㅈㅉㅊㅋㅌㅍㅎ".toList

/-- The letters that can come last in a syllable. -/
def lastLetters : List Char := "ㄱㄲㄳㄴㄵㄶㄷㄹㄺㄻㄼㄽㄾㄿㅀㅁㅂㅄㅅㅆㅇㅈㅊㅋㅌㅍㅎ".toList

/-- The number of vowels. -/
def vowelCount : Nat := 21

/-- The syllable of the given letters, where the last one counts from one, and zero is none. -/
def syllable (first vowel last : Nat) : Char :=
  Char.ofNat (0xAC00 + (first * vowelCount + vowel) * 28 + last)

/-- The letter that the second byte of a letter stands for. -/
def letterOf (byte : Nat) : Char := Char.ofNat (0x3131 + byte - 0xA1)

/-- The syllable that is given by four pairs of bytes, of which the first one announces it. -/
def madeUpSyllable? : List Nat → Option Char
  | [0xA4, first, 0xA4, vowel, 0xA4, last] => do
    let first ← if first < 0xA1 then none else firstLetters.idxOf? (letterOf first)
    let vowel ← if 0xBF ≤ vowel && vowel ≤ 0xD3 then some (vowel - 0xBF) else none
    let last ← if last = 0xD4 then some 0
      else if last < 0xA1 then none
      else (lastLetters.idxOf? (letterOf last)).map (· + 1)
    return syllable first vowel last
  | _ => none

/-- KS X 1001. -/
def eucKrStep : Nat → List Nat → ByteStep := asciiOr fun byte bytes =>
  match bytes with
  | 0xD4 :: more =>
    if byte = 0xA4 then
      if more.length < 6 then cutOffStep bytes
      else match madeUpSyllable? (more.take 6) with
        | some c => .chars [c] 7
        | none => .flawed 0 .illegal
    else twoBytes (charIn? [ksX1001]) byte bytes
  | _ => twoBytes (charIn? [ksX1001]) byte bytes

/-- Code page 949. -/
def cp949Step : Nat → List Nat → ByteStep := asciiOr (twoBytes (charIn? [ksX1001, cp949Further]))

/-! ### Syllables by their letters -/

/-- A part of a syllable: nothing, or a letter by its number. -/
inductive SyllablePart where
  | filler
  | letter (n : Nat)

/-- The first consonant with a number. -/
def firstPart? (n : Nat) : Option SyllablePart :=
  if n = 1 then some .filler
  else if 2 ≤ n && n ≤ 20 then some (.letter (n - 2))
  else none

/-- The vowel with a number. -/
def vowelPart? (n : Nat) : Option SyllablePart :=
  if n = 2 then some .filler
  else if 3 ≤ n && n ≤ 7 then some (.letter (n - 3))
  else if 10 ≤ n && n ≤ 15 then some (.letter (n - 5))
  else if 18 ≤ n && n ≤ 23 then some (.letter (n - 7))
  else if 26 ≤ n && n ≤ 29 then some (.letter (n - 9))
  else none

/-- The last consonant with a number. -/
def lastPart? (n : Nat) : Option SyllablePart :=
  if n = 1 then some .filler
  else if 2 ≤ n && n ≤ 17 then some (.letter (n - 1))
  else if 19 ≤ n && n ≤ 29 then some (.letter (n - 2))
  else none

/-- The character of the parts of a syllable: a syllable, a single letter, or a space. -/
def partsChar? : SyllablePart → SyllablePart → SyllablePart → Option Char
  | .filler, .filler, .filler => some '\u3000'
  | .filler, .filler, .letter last => lastLetters[last - 1]?
  | .filler, .letter vowel, .filler => some (Char.ofNat (0x314F + vowel))
  | .letter first, .filler, .filler => firstLetters[first]?
  | .letter first, .letter vowel, .filler => some (syllable first vowel 0)
  | .letter first, .letter vowel, .letter last => some (syllable first vowel last)
  | _, _, _ => none

/-- The character of two bytes by its letters, which have five bits each. -/
def lettersChar? (first second : Nat) : Option Char := do
  partsChar? (← firstPart? (first / 4 % 32)) (← vowelPart? ((first * 8 + second / 32) % 32))
    (← lastPart? (second % 32))

/-- The other characters of two bytes: those of KS X 1001 but for its letters and syllables. -/
def otherChar? (first second : Nat) : Option Char :=
  if first < 0xD9 || first = 0xDF || 0xF9 < first || second < 0x31
      || (0x80 ≤ second && second < 0x91) || second % 0x80 = 0x7F
      || (first = 0xDA && 0xA1 ≤ second && second ≤ 0xD3) then none
  else
    let row := if first < 0xE0 then 2 * (first - 0xD9) else 2 * first - 0x197
    let cell := if second < 0x91 then second - 0x31 else second - 0x43
    if cell < 94 then ksX1001.char? (row + 0xA1) (cell + 0xA1)
    else ksX1001.char? (row + 0xA2) (cell - 94 + 0xA1)

/-- The characters of two bytes. -/
def johabChars? (first second : Nat) : Option (List Char) :=
  (if first < 0xD8 then lettersChar? first second else otherChar? first second).map fun c => [c]

/-- All syllables by their letters, and the other characters of KS X 1001. -/
def johabStep : Nat → List Nat → ByteStep := asciiOr (twoBytes johabChars?)

end RecordSearch
