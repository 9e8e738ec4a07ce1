import RecordSearch.Text.Blank
import RecordSearch.Text.DecimalDigit
import RecordSearch.Text.LowerCase
import RecordSearch.Text.WordCharacter

namespace RecordSearch.Text

/-!
# Patterns

A pattern says what texts look like. It is a list of pieces that stand for parts of a text one
after the other: single characters, places between characters, repetitions, and groups, whose
parts can be asked for afterwards.

* `Member`: what a single character may be; `Member.holds`, `holdsOne` decide it;
* `Edge`: places between characters;
* `Pattern`: the pieces.
-/

/-- How the pieces of a pattern are meant. -/
structure PatternFlags where
  /-- Does the case of letters not count? -/
  ignoresCase : Bool
  /-- Do the edges of a text include those of its lines? -/
  hasLines : Bool
  /-- Does a point stand for line breaks too? -/
  pointIsAll : Bool
  /-- Are spaces and remarks no pieces? -/
  isSpaced : Bool
  /-- Are only the characters of ASCII letters, digits and spaces? -/
  isAscii : Bool
deriving DecidableEq, Repr

/-- No flags at all. -/
def PatternFlags.none : PatternFlags := ⟨false, false, false, false, false⟩

/-! ### Single characters -/

/-- Kinds of characters. -/
inductive CharacterKind where
  | digit
  | space
  | word
deriving DecidableEq, Repr

/-- Is a code point of a kind? -/
def CharacterKind.holds (kind : CharacterKind) (isAscii : Bool) (code : Nat) : Bool :=
  (!isAscii || code < 0x80) && match kind with
    | .digit => isDecimalDigit code
    | .space => isSpaceCode code && !(isAscii && 0x1C ≤ code && code ≤ 0x1F)
    | .word => isWordCode code

/-- What a character may be: a code point, one of several, or one that is of a kind or is not. -/
inductive Member where
  | code (code : Nat)
  | range (first last : Nat)
  | kind (kind : CharacterKind) (isOther : Bool)
deriving DecidableEq, Repr

/-- The small letter of a code point. -/
def smallCode (isAscii : Bool) (code : Nat) : Nat :=
  if isAscii then if 0x41 ≤ code && code ≤ 0x5A then code + 0x20 else code
  else if code = 0x130 then 0x69
  else if code.isValidChar then (lowerChar (Char.ofNat code)).toNat
  else code

/-- Small letters that differ by their form alone. -/
def sameLetters : List (List Nat) := [
  [0x69, 0x131], [0x73, 0x17F], [0xB5, 0x3BC], [0x345, 0x3B9, 0x1FBE], [0x390, 0x1FD3],
  [0x3B0, 0x1FE3], [0x3B2, 0x3D0], [0x3B5, 0x3F5], [0x3B8, 0x3D1], [0x3BA, 0x3F0],
  [0x3C0, 0x3D6], [0x3C1, 0x3F1], [0x3C2, 0x3C3], [0x3C6, 0x3D5], [0x432, 0x1C80],
  [0x434, 0x1C81], [0x43E, 0x1C82], [0x441, 0x1C83], [0x442, 0x1C84, 0x1C85], [0x44A, 0x1C86],
  [0x463, 0x1C87], [0x1C88, 0xA64B], [0x1E61, 0x1E9B], [0xFB05, 0xFB06]]

/-- Are two code points one letter, where the case does not count? -/
def isSameLetter (isAscii : Bool) (code other : Nat) : Bool :=
  let code := smallCode isAscii code
  let other := smallCode isAscii other
  code == other
    || !isAscii && sameLetters.any fun letters => letters.contains code && letters.contains other

/-- May the character be the code point? -/
def Member.holds (flags : PatternFlags) (code : Nat) : Member → Bool
  | .code c => if flags.ignoresCase then isSameLetter flags.isAscii c code else c == code
  | .range first last =>
    first ≤ code && code ≤ last
      || flags.ignoresCase
        && (List.range' first (last + 1 - first)).any (isSameLetter flags.isAscii code)
  | .kind k isOther => k.holds flags.isAscii code != isOther

/-- May the character be the code point, if it is to be one of the members, or none of them? -/
def holdsOne (isOther : Bool) (members : List Member) (flags : PatternFlags) (code : Nat) : Bool :=
  members.any (·.holds flags code) != isOther

/-! ### Places -/

/-- Places between the characters of a text. -/
inductive Edge where
  | start
  | stop
  | textStart
  | textStop
  | word (isOther : Bool)
deriving DecidableEq, Repr

/-- Is this a place of a text? It is given by what is before it, last character first, and what is
    behind it. A line break at the end of a text can stand behind its end. -/
def Edge.holds (flags : PatternFlags) (before after : List Nat) : Edge → Bool
  | .start => before.isEmpty || flags.hasLines && before.head? == some 0x0A
  | .stop =>
    after.isEmpty || after == [0x0A] || flags.hasLines && after.head? == some 0x0A
  | .textStart => before.isEmpty
  | .textStop => after.isEmpty
  | .word isOther =>
    let inWord (codes : List Nat) : Bool :=
      codes.head?.any (CharacterKind.word.holds flags.isAscii)
    !(before.isEmpty && after.isEmpty) && (inWord before != inWord after) != isOther

/-! ### Pieces -/

/-- How often a repeated part is tried: as often as possible first, as rarely as possible first,
    or as often as possible and not otherwise. -/
inductive Manner where
  | greedy
  | lazy
  | possessive
deriving DecidableEq, Repr

/-- A piece of a pattern. -/
inductive Pattern where
  /-- One character. -/
  | one (isOther : Bool) (members : List Member) (flags : PatternFlags)
  /-- A place. -/
  | edge (edge : Edge) (flags : PatternFlags)
  /-- The part of a group once more. -/
  | again (group : Nat) (flags : PatternFlags)
  /-- The first of several lists of pieces that will do. -/
  | either (branches : List (List Pattern))
  /-- Pieces several times. -/
  | repeated (least : Nat) (most : Option Nat) (manner : Manner) (body : List Pattern)
  /-- Pieces whose part has a number, if there is one. -/
  | group (number : Option Nat) (body : List Pattern)
  /-- Pieces whose first part stays, even if the rest does not go on from there. -/
  | fixed (body : List Pattern)
  /-- What comes next, or what came just before with the given length, without being a part. -/
  | look (length : Option Nat) (isNegated : Bool) (body : List Pattern)
  /-- Pieces that depend on whether a group has a part. -/
  | depending (group : Nat) (yes no : List Pattern)

/-- Is the piece a place? -/
def Pattern.isEdge : Pattern → Bool
  | .edge .. => true
  | _ => false

/-- Is the piece a repetition? -/
def Pattern.isRepeated : Pattern → Bool
  | .repeated .. => true
  | _ => false

end RecordSearch.Text
