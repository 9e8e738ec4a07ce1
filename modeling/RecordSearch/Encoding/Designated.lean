import RecordSearch.Encoding.CodePage.Regional
import RecordSearch.Encoding.Japanese
import RecordSearch.Encoding.CodeSet.Gb2312
import RecordSearch.Encoding.CodeSet.KsX1001

namespace RecordSearch

/-!
# Encodings with designated sets

Bytes below 128 stand for the characters of sets, which escapes designate for up to three places.
The first place counts where nothing else is said, the second one between two shifts, and the third
one for one character after a shift of its own. Before any escape all places hold ASCII.

* `Designation`, `DesignatingEncoding`: the sets that can be designated, and the encodings;
* `DesignatingEncoding.step`: what the bytes at the start of a text stand for in a state.
-/

/-- A set that can be designated: the letter at the end of its escape, whether two bytes stand for
    a character, and the characters that they stand for. -/
structure Designation where
  final : Nat
  isPaired : Bool
  chars? : (first second : Nat) → Option (List Char)

namespace Designation

/-- Roman letters with two characters that differ from ASCII. -/
def roman : Designation where
  final := 'J'.toNat
  isPaired := false
  chars? byte _ :=
    if byte = 0x5C then some ['¥'] else if byte = 0x7E then some ['‾'] else some [Char.ofNat byte]

/-- Narrow syllables. -/
def narrow : Designation where
  final := 'I'.toNat
  isPaired := false
  chars? byte _ := if isNarrow (byte + 0x80) then some [narrowChar (byte + 0x80)] else none

/-- JIS X 0208. -/
def japanese : Designation := ⟨'B'.toNat, true, charIn? [RecordSearch.jisX0208]⟩

/-- The first edition of JIS X 0208. -/
def oldJapanese : Designation := { japanese with final := '@'.toNat }

/-- JIS X 0212. -/
def furtherJapanese : Designation := ⟨'D'.toNat, true, charIn? [RecordSearch.jisX0212]⟩

/-- KS X 1001. -/
def korean : Designation where
  final := 'C'.toNat
  isPaired := true
  chars? first second := charIn? [ksX1001] (first + 0x80) (second + 0x80)

/-- GB 2312. -/
def chinese : Designation where
  final := 'A'.toNat
  isPaired := true
  chars? first second := charIn? [RecordSearch.gb2312] (first + 0x80) (second + 0x80)

/-- The first plane of JIS X 0213, of which the first edition lacks some places. -/
def firstPlane (secondEdition : Bool) (final : Char) : Designation where
  final := final.toNat
  isPaired := true
  chars? row cell :=
    if !secondEdition && secondEditionPlaces.contains (row, cell) then none
    else firstPlaneChars? row cell

/-- The second plane of JIS X 0213. -/
def secondPlane (secondEdition : Bool) : Designation :=
  ⟨'P'.toNat, true, secondPlaneChars? secondEdition⟩

/-- The upper half of ISO 8859-1, which stands for nothing outside the third place. -/
def latin : Designation := ⟨'A'.toNat, false, fun _ _ => none⟩

/-- The upper half of ISO 8859-7, which stands for nothing outside the third place. -/
def greek : Designation := ⟨'F'.toNat, false, fun _ _ => none⟩

end Designation

/-- An encoding with designated sets: its name and its further names, its sets, whether there are
    shifts to the second place, whether there is a third place, and whether a mark of a revision may
    stand in front of an escape. -/
structure DesignatingEncoding where
  name : String
  names : List String
  sets : List Designation
  hasShifts : Bool
  hasThird : Bool
  hasRevisions : Bool

/-- Which sets are at the places, whether the second place counts, and whether an escape of another
    kind goes on. No set is ASCII. -/
structure DesignatingState where
  first : Option Designation
  second : Option Designation
  third : Option Designation
  isShifted : Bool
  isInEscape : Bool

/-- The state at the start of a text. -/
def DesignatingState.start : DesignatingState := ⟨none, none, none, false, false⟩

/-! ### Escapes -/

/-- Does an escape end with the byte? -/
def endsEscape (byte : Nat) : Bool := 0x40 ≤ byte && byte ≤ 0x5A

/-- The most bytes of an escape. -/
def escapeBound : Nat := 16

/-- Where an escape ends: the text ends before it does, or it has too many bytes, or it has the
    given number of them. -/
inductive EscapeEnd where
  | cutOff
  | tooLong
  | after (count : Nat)

/-- Where an escape ends, given how many of its bytes come before those that follow. The mark of a
    revision does not end one, with the byte after it. -/
def escapeEnd (hasRevisions : Bool) : (count : Nat) → List Nat → EscapeEnd
  | count, [] => if escapeBound ≤ count then .tooLong else .cutOff
  | count, byte :: bytes =>
    if escapeBound ≤ count then .tooLong
    else if endsEscape byte then .after (count + 1)
    else
      match bytes with
      | next :: more =>
        -- The byte behind the mark starts the escape that it belongs to, and ends none.
        if hasRevisions && byte = 0x26 && next = 0x40 then
          escapeEnd hasRevisions (count + 3) (more.drop 1)
        else escapeEnd hasRevisions (count + 1) (next :: more)
      | [] => escapeEnd hasRevisions (count + 1) []
termination_by _ bytes => bytes.length
decreasing_by all_goals simp only [List.length_drop, List.length_cons]; omega

/-- A place for a set. -/
inductive SetPlace where
  | first
  | second
  | third
deriving DecidableEq, Repr

/-- What an escape asks for, by its bytes after the first one: a place, whether two bytes stand for
    a character of the set, and the letter of the set. -/
def DesignatingEncoding.designation? (encoding : DesignatingEncoding) :
    List Nat → Option (SetPlace × Bool × Nat)
  | [0x24, final] => some (.first, true, final)
  | [0x28, final] => some (.first, false, final)
  | [0x29, final] => some (.second, false, final)
  | [0x2E, final] => if encoding.hasThird then some (.third, false, final) else none
  | [0x24, 0x28, final] => some (.first, true, final)
  | [0x24, 0x29, final] => some (.second, true, final)
  | [_, _, 0x1B, 0x24, 0x42] => if encoding.hasRevisions then some (.first, true, 0x42) else none
  | _ => none

/-- The set of an encoding with a letter, where no set is ASCII. -/
def DesignatingEncoding.set? (encoding : DesignatingEncoding) (isPaired : Bool) (final : Nat) :
    Option (Option Designation) :=
  if !isPaired && final = 'B'.toNat then some none
  else (encoding.sets.find? fun set => set.isPaired == isPaired && set.final == final).map some

/-- The state with a set at a place. -/
def DesignatingState.designate (state : DesignatingState) (place : SetPlace)
    (set : Option Designation) : DesignatingState :=
  match place with
  | .first => { state with first := set }
  | .second => { state with second := set }
  | .third => { state with third := set }

/-- An escape that designates a set, by the bytes after its first one. -/
def DesignatingEncoding.escapeStep (encoding : DesignatingEncoding) (state : DesignatingState)
    (bytes : List Nat) : ByteStep × DesignatingState :=
  match escapeEnd encoding.hasRevisions 1 bytes with
  | .cutOff => (cutOffStep bytes, state)
  | .tooLong => (.flawed 0 .illegal, state)
  | .after count =>
    let set? := (encoding.designation? (bytes.take (count - 1))).bind
      fun (place, isPaired, final) => (encoding.set? isPaired final).map fun set => (place, set)
    match set? with
    | some (place, set) => (.take [] (count - 1), state.designate place set)
    | none => (.flawed (count - 1) .illegal, state)

/-! ### Characters -/

/-- The page of ISO 8859-7. -/
def greekPage? : Option CodePage := regionalPages.find? fun page => page.name == "iso8859_7"

/-- The places of ISO 8859-7 that had no character at first. -/
def laterGreek : List Nat := [0xA4, 0xA5, 0xAA]

/-- The character of a byte for the third place. -/
def thirdChar? (set : Option Designation) (byte : Nat) : Option Char :=
  match set with
  | none => if byte < 0x80 then some (Char.ofNat byte) else none
  | some set =>
    if set.final = Designation.latin.final then
      if byte < 0x80 then some (Char.ofNat (byte + 0x80)) else none
    else if 0x80 ≤ byte then some (Char.ofNat (byte - 0x80))
    else if laterGreek.contains (byte + 0x80) then none
    else greekPage?.bind fun page => page.char? (byte + 0x80)

/-- The step for a byte of a set, with the bytes after it. -/
def Designation.step (set : Designation) (byte : Nat) (bytes : List Nat) : ByteStep :=
  if set.isPaired then
    match bytes with
    | [] => cutOffStep []
    | second :: _ =>
      match set.chars? byte second with
      | some cs => .chars cs 1
      | none => .flawed 1 .illegal
  else
    match set.chars? byte 0 with
    | some cs => .chars cs 0
    | none => .flawed 0 .illegal

/-- The step for the first byte of an escape, with the bytes after it. What starts no escape of
    this kind is one of another kind, whose bytes stand for themselves. -/
def DesignatingEncoding.firstEscapeStep (encoding : DesignatingEncoding)
    (state : DesignatingState) : List Nat → ByteStep × DesignatingState
  | [] => (cutOffStep [], state)
  | second :: bytes =>
    if [0x24, 0x26, 0x28, 0x29, 0x2E].contains second then
      encoding.escapeStep state (second :: bytes)
    else if encoding.hasThird && second = 0x4E then
      match bytes with
      | [] => (cutOffStep [second], state)
      | byte :: _ =>
        match thirdChar? state.third byte with
        | some c => (.chars [c] 2, state)
        | none => (.flawed 2 .illegal, state)
    else (.take [0x1B] 0, { state with isInEscape := true })

/-- What the bytes at the start of a text stand for. A line break ends what is shifted. -/
def DesignatingEncoding.step (encoding : DesignatingEncoding) (state : DesignatingState)
    (byte : Nat) (bytes : List Nat) : ByteStep × DesignatingState :=
  if state.isInEscape then
    (.take [byte] 0, { state with isInEscape := !endsEscape byte })
  else if byte = 0x1B then encoding.firstEscapeStep state bytes
  else if byte = 0x0F && encoding.hasShifts then (.take [] 0, { state with isShifted := false })
  else if byte = 0x0E && encoding.hasShifts then (.take [] 0, { state with isShifted := true })
  else if byte = 0x0A then (.take [byte] 0, { state with isShifted := false })
  else if byte < 0x20 then (.take [byte] 0, state)
  else if 0x80 ≤ byte then (.flawed 0 .illegal, state)
  else match if state.isShifted then state.second else state.first with
    | none => (.take [byte] 0, state)
    | some set => (set.step byte bytes, state)

/-- The code points of bytes. -/
def DesignatingEncoding.decode (encoding : DesignatingEncoding) :
    List Nat → Except DecodingFault (List Nat) :=
  decodeFrom encoding.name encoding.step .start 0

/-! ### The encodings -/

/-- A Japanese encoding with the given sets. -/
def japaneseDesignating (name : String) (names : List String) (sets : List Designation) :
    DesignatingEncoding :=
  ⟨name, names, sets, false, false, true⟩

open Designation in
/-- All encodings with designated sets. -/
def designatingEncodings : List DesignatingEncoding := [
  japaneseDesignating "iso2022_jp" ["csiso2022jp", "iso2022jp", "iso_2022_jp"]
    [japanese, roman, oldJapanese],
  japaneseDesignating "iso2022_jp_1" ["iso2022jp_1", "iso_2022_jp_1"]
    [japanese, furtherJapanese, roman, oldJapanese],
  ⟨"iso2022_jp_2", ["iso2022jp_2", "iso_2022_jp_2"],
    [japanese, furtherJapanese, korean, chinese, roman, oldJapanese, latin, greek],
    false, true, true⟩,
  japaneseDesignating "iso2022_jp_2004" ["iso2022jp_2004", "iso_2022_jp_2004"]
    [japanese, firstPlane true 'Q', secondPlane true],
  japaneseDesignating "iso2022_jp_3" ["iso2022jp_3", "iso_2022_jp_3"]
    [japanese, firstPlane false 'O', secondPlane false],
  japaneseDesignating "iso2022_jp_ext" ["iso2022jp_ext", "iso_2022_jp_ext"]
    [japanese, furtherJapanese, roman, narrow, oldJapanese],
  ⟨"iso2022_kr", ["csiso2022kr", "iso2022kr", "iso_2022_kr"], [korean], true, false, false⟩]

end RecordSearch
