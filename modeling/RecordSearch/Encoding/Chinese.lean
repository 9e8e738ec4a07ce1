import RecordSearch.Encoding.CodeSet.Big5
import RecordSearch.Encoding.CodeSet.Gb2312
import RecordSearch.Encoding.CodeSet.Gbk
import RecordSearch.Encoding.CodeSet.Hkscs

namespace RecordSearch

/-!
# Chinese encodings

A byte stands for a character of ASCII, or with the next one for another character.

* `gb2312Step`, `gbkStep`, `gb18030Step`, `decodeHz`: encodings of the simplified characters;
* `big5Step`, `cp950Step`, `hkscsStep`: encodings of the traditional ones.
-/

/-- GB 2312. -/
def gb2312Step : Nat → List Nat → ByteStep := asciiOr (twoBytes (charIn? [gb2312]))

/-- GBK. -/
def gbkStep : Nat → List Nat → ByteStep := asciiOr (twoBytes (charIn? [gbkFurther, gb2312]))

/-- The character for private use that two bytes of GB 18030 stand for. -/
def privateChar? (first second : Nat) : Option (List Char) :=
  let upper := 0xA1 ≤ second && second ≤ 0xFE
  if 0xAA ≤ first && first ≤ 0xAF && upper then
    some [Char.ofNat (0xE000 + (first - 0xAA) * 94 + (second - 0xA1))]
  else if 0xF8 ≤ first && first ≤ 0xFE && upper then
    some [Char.ofNat (0xE234 + (first - 0xF8) * 94 + (second - 0xA1))]
  else if 0xA1 ≤ first && first ≤ 0xA7 && 0x40 ≤ second && second ≤ 0xA0 && second != 0x7F then
    some [Char.ofNat (0xE4C6 + (first - 0xA1) * 96
      + (if second < 0x7F then second - 0x40 else second - 0x41))]
  else none

/-- The character of two bytes of GB 18030. -/
def gb18030Chars? (first second : Nat) : Option (List Char) :=
  match charIn? [gbkFurther, gb2312, gb18030Further] first second with
  | some cs => some cs
  | none => privateChar? first second

/-- GB 18030. A byte with a digit after it starts a character with four bytes, the last of which is
    a digit too; in bytes that are well-formed UTF-8 as well there are no such characters. -/
def gb18030Step : Nat → List Nat → ByteStep := asciiOr fun byte bytes =>
  match bytes with
  | second :: _ =>
    if 0x30 ≤ second && second ≤ 0x39 then
      if bytes.length < 3 then cutOffStep bytes else .flawed 0 .illegal
    else twoBytes gb18030Chars? byte bytes
  | [] => cutOffStep bytes

/-- GB 2312 in bytes of ASCII from a position on: a tilde changes between single characters of
    ASCII and pairs of them for Chinese ones. -/
def decodeHz : (paired : Bool) → (position : Nat) → List Nat →
    Except DecodingFault (List Nat)
  | _, _, [] => .ok []
  | _, position, [byte] =>
    if byte = 0x7E then .error (.flawed "hz" position [byte] .incomplete)
    else if 0x80 ≤ byte then .error (.flawed "hz" position [byte] .illegal)
    else .ok [byte]
  | paired, position, byte :: second :: bytes =>
    let illegal : Except DecodingFault (List Nat) :=
      .error (.flawed "hz" position [byte] .illegal)
    if byte = 0x7E then
      match paired, Char.ofNat second with
      | false, '~' => (byte :: ·) <$> decodeHz paired (position + 2) bytes
      | false, '\x7b' => decodeHz true (position + 2) bytes
      | false, '\n' => decodeHz paired (position + 2) bytes
      | true, '\x7d' => decodeHz false (position + 2) bytes
      | _, _ => illegal
    else if 0x80 ≤ byte then illegal
    else if paired then
      match gb2312.char? (byte + 0x80) (second + 0x80) with
      | some c => (c.toNat :: ·) <$> decodeHz paired (position + 2) bytes
      | none => illegal
    else (byte :: ·) <$> decodeHz paired (position + 1) (second :: bytes)

/-! ### Traditional characters -/

/-- Big5. -/
def big5Step : Nat → List Nat → ByteStep := asciiOr (twoBytes (charIn? [big5]))

/-- Code page 950. -/
def cp950Step : Nat → List Nat → ByteStep := asciiOr (twoBytes (charIn? [cp950Further, big5]))

/-- The places of Big5 that the supplement for Hong Kong does without. -/
def placesWithoutSupplement : List (Nat × Nat) :=
  [(0xC6, 0xCF), (0xC6, 0xD3), (0xC6, 0xD5), (0xC6, 0xD7), (0xC6, 0xDE), (0xC6, 0xDF)]

/-- The characters of two bytes of Big5 with the supplement for Hong Kong. -/
def hkscsChars? (first second : Nat) : Option (List Char) :=
  if placesWithoutSupplement.contains (first, second) then none
  else match charIn? [hkscsFurther, big5] first second with
    | some cs => some cs
    | none => joinedChars? hkscsJoined first second

/-- Big5 with the supplement for Hong Kong. -/
def hkscsStep : Nat → List Nat → ByteStep := asciiOr (twoBytes hkscsChars?)

end RecordSearch
