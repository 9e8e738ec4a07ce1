import RecordSearch.Json.Reader
import RecordSearch.Text.Codes

namespace RecordSearch.Json

/-!
# JSON texts with surrogates

A JSON text whose code points are given can hold surrogates in its string literals, where each of
them stands for itself. To read it, characters for private use that the text does without take their
places.

* `readCodes`: the value of a text that is given by code points.
-/

/-- The number of surrogates. -/
def surrogateCount : Nat := 0x800

/-- The first surrogate. -/
def firstSurrogate : Nat := 0xD800

/-- The first code points of blocks for private use, of which each has as many characters as there
    are surrogates. -/
def privateBlocks : List Nat := (List.range 64).map fun n => 0xF0000 + surrogateCount * n

/-- A block without any of the code points. -/
def freeBlock (codes : List Nat) : Nat :=
  (privateBlocks.find? fun block =>
    !codes.any fun code => block ≤ code && code < block + surrogateCount).getD 0xF0000

/-- The character that takes the place of a code point. -/
def placeholder (block code : Nat) : Char :=
  if code.isValidChar then Char.ofNat code else Char.ofNat (code - firstSurrogate + block)

/-- The code point whose place a character has taken. -/
def replaced (block code : Nat) : Nat :=
  if block ≤ code && code < block + surrogateCount then code - block + firstSurrogate else code

mutual

/-- A value with the code points in place of which its characters stand. -/
def restore (block : Nat) : Value → Value
  | .str s => .ofCodes ((Text.codes s).map (replaced block))
  | .brokenStr codes => .ofCodes (codes.map (replaced block))
  | .list items => .list (restoreAll block items)
  | .mapping entries => mappingOf (restoreEntries block entries)
  | .brokenMapping entries => mappingOf (restoreBroken block entries)
  | v => v

/-- The values with their code points. -/
def restoreAll (block : Nat) : List Value → List Value
  | [] => []
  | v :: vs => restore block v :: restoreAll block vs

/-- The entries with their code points. -/
def restoreEntries (block : Nat) : List (String × Value) → List (List Nat × Value)
  | [] => []
  | (k, v) :: es =>
    ((Text.codes k).map (replaced block), restore block v) :: restoreEntries block es

/-- The entries whose keys are given by code points, with the right ones. -/
def restoreBroken (block : Nat) : List (List Nat × Value) → List (List Nat × Value)
  | [] => []
  | (k, v) :: es => (k.map (replaced block), restore block v) :: restoreBroken block es

end

/-- The value of a whole text that is given by code points, with at most `depth` levels. -/
def readCodes (depth : Nat) (codes : List Nat) : Except Problem Value :=
  let block := freeBlock codes
  restore block <$> readChars depth (codes.map (placeholder block))

end RecordSearch.Json
