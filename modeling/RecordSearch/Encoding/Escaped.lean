import RecordSearch.Encoding.Wide
import RecordSearch.Text.CharacterName

namespace RecordSearch

/-!
# Encodings with escapes

Encodings in which most bytes stand for the characters with their numbers, and some of them start
an escape for other characters.

* `escapedStep`: the escapes of text literals, which start with a backslash;
* `rawEscapedStep`: only those by code points;
* `utf7Step`: parts in which letters and digits hold the bits of wide units.
-/

/-- The value of a digit to the base sixteen. -/
def hexValue? (byte : Nat) : Option Nat :=
  if 0x30 ≤ byte && byte ≤ 0x39 then some (byte - 0x30)
  else if 0x41 ≤ byte && byte ≤ 0x46 then some (byte - 0x37)
  else if 0x61 ≤ byte && byte ≤ 0x66 then some (byte - 0x57)
  else none

/-- The value of digits. -/
def baseValue (base : Nat) (digits : List Nat) : Nat :=
  digits.foldl (fun n digit => n * base + digit) 0

/-- The escape by a code point with a number of digits after a letter. -/
def codeEscape (letter : Char) (count : Nat) (tooLarge : Flaw) (bytes : List Nat) : ByteStep :=
  let digits := ((bytes.take count).map hexValue?).takeWhile Option.isSome
  if digits.length < count then .flawed (digits.length + 1) (.shortEscape letter count)
  else
    let code := baseValue 16 (digits.filterMap id)
    if 0x110000 ≤ code then .flawed (count + 1) tooLarge
    else .take [code] (count + 1)

/-- The escape by the name of a character between braces. -/
def nameEscape : List Nat → ByteStep
  | 0x7B :: bytes =>
    let name := bytes.takeWhile (· != 0x7D)
    if name.length = bytes.length then .flawed (bytes.length + 2) .malformedName
    else if name.isEmpty then .flawed 2 .malformedName
    else
      match Text.codeOfName? (String.ofList (name.map Char.ofNat)) with
      | some code => .take [code] (name.length + 3)
      | none => .flawed (name.length + 3) .unknownName
  | _ => .flawed 1 .malformedName

/-- The character that a letter after a backslash stands for. -/
def escapedLetter? (byte : Nat) : Option Char :=
  match Char.ofNat byte with
  | '\\' => some '\\'
  | '\'' => some '\''
  | '"' => some '"'
  | 'b' => some '\x08'
  | 'f' => some '\x0c'
  | 't' => some '\t'
  | 'n' => some '\n'
  | 'r' => some '\r'
  | 'v' => some '\x0b'
  | 'a' => some '\x07'
  | _ => none

/-- Is the byte a digit to the base eight? -/
def isOctal (byte : Nat) : Bool := 0x30 ≤ byte && byte ≤ 0x37

/-- The escapes of text literals. A backslash before a line break stands for nothing with it, and
    one before any other character for itself. -/
def escapedStep (byte : Nat) (bytes : List Nat) : ByteStep :=
  if byte != 0x5C then .one (Char.ofNat byte)
  else match bytes with
    | [] => .flawed 0 .endsInBackslash
    | second :: rest =>
      match Char.ofNat second, escapedLetter? second with
      | '\n', _ => .take [] 1
      | _, some c => .chars [c] 1
      | 'x', _ => codeEscape 'x' 2 .illegalEscape rest
      | 'u', _ => codeEscape 'u' 4 .illegalEscape rest
      | 'U', _ => codeEscape 'U' 8 .illegalEscape rest
      | 'N', _ => nameEscape rest
      | _, _ =>
        -- Up to three digits to the base eight are an escape without a letter.
        let digits := (bytes.take 3).takeWhile isOctal
        if digits.isEmpty then .take [0x5C, second] 1
        else .take [baseValue 8 (digits.map (· - 0x30))] digits.length

/-- The escapes by code points alone. -/
def rawEscapedStep (byte : Nat) (bytes : List Nat) : ByteStep :=
  match byte, bytes with
  | 0x5C, second :: rest =>
    match Char.ofNat second with
    | 'u' => codeEscape 'u' 4 .escapeBeyond rest
    | 'U' => codeEscape 'U' 8 .escapeBeyond rest
    | _ => .take [0x5C, second] 1
  | _, _ => .one (Char.ofNat byte)

/-! ### Shifted parts -/

/-- The six bits that a letter or a digit holds. -/
def sixBits? (byte : Nat) : Option Nat :=
  if 0x41 ≤ byte && byte ≤ 0x5A then some (byte - 0x41)
  else if 0x61 ≤ byte && byte ≤ 0x7A then some (byte - 0x61 + 26)
  else if 0x30 ≤ byte && byte ≤ 0x39 then some (byte - 0x30 + 52)
  else if byte = 0x2B then some 62
  else if byte = 0x2F then some 63
  else none

/-- The given number of wide units at the start of a number with further bits after them. -/
def unitsOf (value : Nat) : (count : Nat) → (further : Nat) → List Nat
  | 0, _ => []
  | count + 1, further =>
    value / Nat.pow 2 (16 * count + further) % 0x10000 :: unitsOf value count further

/-- The code points of wide units. A half of a pair that stands alone is one too. -/
def codesOfUnits : List Nat → List Nat
  | [] => []
  | [unit] => [unit]
  | first :: second :: units =>
    if isFirstHalf first && isSecondHalf second then
      joinHalves first second :: codesOfUnits units
    else first :: codesOfUnits (second :: units)

/-- A shifted part: what comes after the sign that starts it. A hyphen at its end belongs to it. -/
def shiftedStep (bytes : List Nat) : ByteStep :=
  let bits := (bytes.map sixBits?).takeWhile Option.isSome
  let value := baseValue 64 (bits.filterMap id)
  let left := 6 * bits.length % 16
  let units := unitsOf value (6 * bits.length / 16) left
  let isLeft := value % Nat.pow 2 left != 0
  match bytes.drop bits.length with
  | [] =>
    if 6 ≤ left || isLeft || (units.getLast?.map isFirstHalf).getD false then
      .flawed bytes.length .unterminated
    else .take (codesOfUnits units) bits.length
  | next :: _ =>
    -- What fills up the last of the six bits is less than six of them, and zero.
    if 6 ≤ left then .flawed (bits.length + 1) .partialCharacter
    else if isLeft then .flawed (bits.length + 1) .padding
    else .take (codesOfUnits units) (if next = 0x2D then bits.length + 1 else bits.length)

/-- Characters of ASCII with shifted parts. -/
def utf7Step (byte : Nat) (bytes : List Nat) : ByteStep :=
  if byte = 0x2B then
    match bytes with
    | [] => .take [] 0
    | second :: _ =>
      -- With a hyphen behind it the sign stands for itself.
      if second = 0x2D then .chars ['+'] 1
      else if (sixBits? second).isNone then .flawed 1 .illFormed
      else shiftedStep bytes
  else if byte < 0x80 then .one (Char.ofNat byte)
  else .flawed 0 .special

end RecordSearch
