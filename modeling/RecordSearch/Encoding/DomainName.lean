import RecordSearch.Encoding.Punycode
import RecordSearch.Text.Codes
import RecordSearch.Text.Composed
import RecordSearch.Text.Direction
import RecordSearch.Text.Folded
import RecordSearch.Text.Parts

namespace RecordSearch

/-!
# Domain names

The labels of a domain name stand between points. A label of characters of ASCII stands for
itself, unless it starts with a sign that it is the short form of a text with others. Such a text
must be written as that label again: first its characters are folded, some are not allowed, and
those that are written from right to left are not mixed with others.

* `preparedLabel`: a label as it is written;
* `shortLabel`: the short form of a label;
* `decodeDomainName`: the text of bytes.
-/

/-- First and last code points of the ranges that must not be in a domain name. -/
def barredRanges : List (Nat × Nat) := [
  (0x80, 0xA0), (0x340, 0x341), (0x6DD, 0x6DD), (0x70F, 0x70F), (0x1680, 0x1680), (0x180E, 0x180E),
  (0x2000, 0x200F), (0x2028, 0x202F), (0x205F, 0x2063), (0x206A, 0x206F), (0x2FF0, 0x2FFB),
  (0x3000, 0x3000), (0xD800, 0xF8FF), (0xFDD0, 0xFDEF), (0xFEFF, 0xFEFF), (0xFFF9, 0xFFFF),
  (0x1D173, 0x1D17A), (0x1FFFE, 0x1FFFF), (0x2FFFE, 0x2FFFF), (0x3FFFE, 0x3FFFF),
  (0x4FFFE, 0x4FFFF), (0x5FFFE, 0x5FFFF), (0x6FFFE, 0x6FFFF), (0x7FFFE, 0x7FFFF),
  (0x8FFFE, 0x8FFFF), (0x9FFFE, 0x9FFFF), (0xAFFFE, 0xAFFFF), (0xBFFFE, 0xBFFFF),
  (0xCFFFE, 0xCFFFF), (0xDFFFE, 0xDFFFF), (0xE0001, 0xE0001), (0xE0020, 0xE007F),
  (0xEFFFE, 0x10FFFF)]

/-- A label must be written in one direction, and from right to left at both ends or nowhere. -/
def checkDirection (label : List Nat) : Except DecodingFault Unit := do
  if label.any Text.isLeftward then
    if label.any Text.isRightward then throw .mixedDirections
    if !(label.head?.any Text.isLeftward && label.getLast?.any Text.isLeftward) then
      throw .openDirection

/-- A label as it is written: with its characters folded. -/
def preparedLabel (label : List Nat) : Except DecodingFault (List Nat) := do
  let label := Text.composed (Text.ordered (label.flatMap Text.folded))
  match label.find? (Text.inRanges barredRanges) with
  | some code => throw (.barred code)
  | none => checkDirection label
  return label

/-- What starts a short form. -/
def shortMark : List Nat := Text.codes "xn--"

/-- A label with at most 63 characters, and at least one. -/
def sizedLabel (label : List Nat) : Except DecodingFault (List Nat) :=
  if label.isEmpty || 64 ≤ label.length then .error .labelLength else .ok label

/-- Are all characters those of ASCII? -/
def isPlainLabel (label : List Nat) : Bool := label.all (· < 0x80)

/-- The short form of a label. One with characters of ASCII alone has no other form. -/
def shortLabel (label : List Nat) : Except DecodingFault (List Nat) := do
  if isPlainLabel label then sizedLabel label
  else
    let label ← preparedLabel label
    if isPlainLabel label then sizedLabel label
    else if (Text.afterStart? shortMark label).isSome then throw .shortenedTwice
    else sizedLabel (shortMark ++ encodePunycode label)

/-- A byte of a capital letter as that of the small one. -/
def smallByte (byte : Nat) : Nat := if 0x41 ≤ byte && byte ≤ 0x5A then byte + 0x20 else byte

/-- The text that a label of characters of ASCII stands for. -/
def decodeLabel (label : List Nat) : Except DecodingFault (List Nat) := do
  match Text.afterStart? shortMark label with
  | none => return label
  | some short =>
    let text ← (decodePunycode short).mapError .notPunycode
    let written ← shortLabel text
    -- Apart from capitals the label must be the one form of its text.
    if written = label.map smallByte then return text
    else throw (.notReversible label written)

/-- The labels between points. -/
def labelsOf (bytes : List Nat) : List (List Nat) :=
  bytes.foldr (fun byte labels =>
    match byte, labels with
    | 0x2E, labels => [] :: labels
    | byte, label :: labels => (byte :: label) :: labels
    | byte, [] => [[byte]]) [[]]

/-- The text of bytes. A point at the end is kept. -/
def decodeDomainName (bytes : List Nat) : Except DecodingFault (List Nat) := do
  let _ ← decodeBy "ascii" asciiStep 0 bytes
  if bytes.isEmpty then return []
  let labels := labelsOf bytes
  -- The empty label after a point at the end is not one.
  let (labels, ending) := match labels.getLast? with
    | some [] => (labels.dropLast, [0x2E])
    | _ => (labels, [])
  return [0x2E].intercalate (← labels.mapM decodeLabel) ++ ending

end RecordSearch
