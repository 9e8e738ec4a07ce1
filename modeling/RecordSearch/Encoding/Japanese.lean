import RecordSearch.Encoding.CodeSet.Cp932
import RecordSearch.Encoding.CodeSet.JisX0208
import RecordSearch.Encoding.CodeSet.JisX0212
import RecordSearch.Encoding.CodeSet.JisX0213

namespace RecordSearch

/-!
# Japanese encodings

A byte stands for a character of ASCII or for a narrow syllable, or else it does so with the next
ones. In the shifted encodings two bytes hold a row and a cell with two rows to a first byte, in
the others they hold them as they are.

* `shiftJisStep`, `cp932Step`, `shiftJisX0213Step`: the shifted encodings;
* `eucJpStep`, `eucJisX0213Step`: the others.
-/

/-- Is the byte one of those that stand for narrow syllables in the shifted encodings? -/
def isNarrow (byte : Nat) : Bool := 0xA1 ≤ byte && byte ≤ 0xDF

/-- The narrow syllable of a byte. -/
def narrowChar (byte : Nat) : Char := Char.ofNat (0xFEC0 + byte)

/-- The position of a second byte in two rows. -/
def shiftedCell? (second : Nat) : Option Nat :=
  if second < 0x40 || second = 0x7F || 0xFC < second then none
  else some (if second < 0x80 then second - 0x40 else second - 0x41)

/-- The row and the cell that two bytes of a shifted encoding hold, each with 32 added. -/
def shiftedPlace? (first second : Nat) : Option (Nat × Nat) :=
  let row := 2 * (if first < 0xE0 then first - 0x81 else first - 0xC1)
  (shiftedCell? second).map fun cell =>
    if cell < 94 then (row + 0x21, cell + 0x21) else (row + 0x22, cell - 94 + 0x21)

/-- The character of two shifted bytes. -/
def shiftJisChars? (first second : Nat) : Option (List Char) := do
  let (row, cell) ← shiftedPlace? first second
  charIn? [jisX0208] row cell

/-- The shifted encoding of JIS X 0208. -/
def shiftJisStep : Nat → List Nat → ByteStep := asciiOr fun byte bytes =>
  if isNarrow byte then .one (narrowChar byte)
  else if (0x81 ≤ byte && byte ≤ 0x9F) || (0xE0 ≤ byte && byte ≤ 0xEA) then
    twoBytes shiftJisChars? byte bytes
  else .flawed 0 .illegal

/-- The character of two bytes of code page 932, which has places for private use. -/
def cp932Chars? (first second : Nat) : Option (List Char) :=
  match charIn? [cp932Further] first second with
  | some cs => some cs
  | none =>
    if 0xF0 ≤ first && first ≤ 0xF9 then
      (shiftedCell? second).map fun cell => [Char.ofNat (0xE000 + 188 * (first - 0xF0) + cell)]
    else shiftJisChars? first second

/-- Code page 932. -/
def cp932Step : Nat → List Nat → ByteStep := asciiOr fun byte bytes =>
  if byte = 0x80 then .one (Char.ofNat byte)
  else if byte = 0xA0 then .one '\uf8f0'
  else if isNarrow byte then .one (narrowChar byte)
  else if 0xFD ≤ byte then .one (Char.ofNat (0xF8F1 + (byte - 0xFD)))
  else twoBytes cp932Chars? byte bytes

/-- The places that JIS X 0213 has only since its second edition. -/
def secondEditionPlaces : List (Nat × Nat) :=
  [(0x2E, 0x21), (0x2F, 0x7E), (0x4F, 0x54), (0x4F, 0x7E), (0x74, 0x27), (0x7E, 0x7A),
    (0x7E, 0x7B), (0x7E, 0x7C), (0x7E, 0x7D), (0x7E, 0x7E)]

/-- The characters of a place of the first plane of JIS X 0213. -/
def firstPlaneChars? (row cell : Nat) : Option (List Char) :=
  match charIn? [jisX0208, jisX0213First] row cell with
  | some cs => some cs
  | none => joinedChars? jisX0213Joined row cell

/-- The character of a place of the second plane of JIS X 0213. -/
def secondPlaneChars? (secondEdition : Bool) (row cell : Nat) : Option (List Char) :=
  if !secondEdition && row = 0x7D && cell = 0x3B then some ['\u9b1d']
  else charIn? [jisX0213Second] row cell

/-- The row of the second plane for a number of rows after the first plane. -/
def secondPlaneRow (rows : Nat) : Nat :=
  if 9 ≤ rows then rows + 0x65
  else if 5 ≤ rows || rows = 1 then rows + 0x27
  else rows + 0x21

/-- The characters of two shifted bytes for JIS X 0213. Two wide signs stand for the characters of
    ASCII that no single byte stands for. -/
def shiftJisX0213Chars? (secondEdition : Bool) (first second : Nat) : Option (List Char) := do
  let (row, cell) ← shiftedPlace? first second
  if row = 0x21 && cell = 0x40 then return ['\\']
  if row = 0x22 && cell = 0x32 then return ['~']
  if row < 0x7F then firstPlaneChars? row cell
  else secondPlaneChars? secondEdition (secondPlaneRow (row - 0x7F)) cell

/-- The first edition of JIS X 0213 refuses the places of the second one as a whole. -/
def refusePlace (secondEdition : Bool) (place? : Nat → Nat → Option (Nat × Nat))
    (step : Nat → List Nat → ByteStep) (byte : Nat) (bytes : List Nat) : ByteStep :=
  match bytes with
  | second :: _ =>
    if !secondEdition && ((place? byte second).map secondEditionPlaces.contains).getD false then
      .flawed 1 .illegal
    else step byte bytes
  | [] => step byte bytes

/-- The shifted encoding of JIS X 0213, in which two characters of ASCII are others. -/
def shiftJisX0213Step (secondEdition : Bool) (byte : Nat) (bytes : List Nat) : ByteStep :=
  if byte = 0x5C then .one '¥'
  else if byte = 0x7E then .one '‾'
  else if byte < 0x80 then .one (Char.ofNat byte)
  else if isNarrow byte then .one (narrowChar byte)
  else if (0x81 ≤ byte && byte ≤ 0x9F) || (0xE0 ≤ byte && byte ≤ 0xFC) then
    refusePlace secondEdition shiftedPlace? (twoBytes (shiftJisX0213Chars? secondEdition))
      byte bytes
  else .flawed 0 .illegal

/-! ### Rows and cells as they are -/

/-- The characters of two bytes that hold a row and a cell, each with 160 added. -/
def highPair? (chars? : Nat → Nat → Option (List Char)) (first second : Nat) :
    Option (List Char) :=
  if 0x80 ≤ first && 0x80 ≤ second then chars? (first - 0x80) (second - 0x80) else none

/-- What bytes stand for where one byte announces a narrow syllable, and one a second plane. -/
def eucStep (first? second? : Nat → Nat → Option (List Char)) : Nat → List Nat → ByteStep :=
  asciiOr fun byte bytes =>
    if byte = 0x8E then
      twoBytes (fun _ second => if isNarrow second then some [narrowChar second] else none)
        byte bytes
    else if byte = 0x8F then
      match bytes with
      | row :: cell :: _ =>
        match highPair? second? row cell with
        | some cs => .chars cs 2
        | none => .flawed 0 .illegal
      | _ => cutOffStep bytes
    else twoBytes (highPair? first?) byte bytes

/-- The encoding of JIS X 0208 and JIS X 0212. -/
def eucJpStep : Nat → List Nat → ByteStep := eucStep (charIn? [jisX0208]) (charIn? [jisX0212])

/-- The encoding of JIS X 0213. -/
def eucJisX0213Step (secondEdition : Bool) : Nat → List Nat → ByteStep :=
  refusePlace secondEdition (fun row cell => some (row - 0x80, cell - 0x80))
    (eucStep firstPlaneChars? fun row cell =>
      match secondPlaneChars? secondEdition row cell with
      | some cs => some cs
      | none => charIn? [jisX0212] row cell)

end RecordSearch
