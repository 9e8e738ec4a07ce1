import RecordSearch.Encoding.Decoding

namespace RecordSearch

/-!
# Punycode

The characters of ASCII in a text come first, and after the last hyphen numbers say where the
others stand between them.

* `decodePunycode`: the text of bytes;
* `encodePunycode`: the bytes of a text.
-/

/-- The least digit value that ends a number, at a position in it. -/
def punycodeThreshold (bias position : Nat) : Nat :=
  Nat.min 26 (Nat.max 1 (36 * (position + 1) - bias))

/-- The value of a digit. -/
def punycodeDigit? (byte : Nat) : Option Nat :=
  if 0x41 ≤ byte && byte ≤ 0x5A then some (byte - 0x41)
  else if 0x30 ≤ byte && byte ≤ 0x39 then some (byte - 0x30 + 26)
  else none

/-- The number at the start of bytes, added to a number so far, and the bytes after it. -/
def readPunycodeNumber (bias : Nat) : (position weight result : Nat) → List Nat →
    Except DecodingFault (Nat × List Nat)
  | _, _, _, [] => .error .positionCutOff
  | position, weight, result, byte :: bytes =>
    match punycodeDigit? byte with
    | none => .error (.notADigit byte)
    | some digit =>
      let threshold := punycodeThreshold bias position
      let result := result + digit * weight
      if digit < threshold then .ok (result, bytes)
      else readPunycodeNumber bias (position + 1) (weight * (36 - threshold)) result bytes

/-- The bias for a damped number. -/
def punycodeBias (n : Nat) : Nat :=
  if h : 455 < n then punycodeBias (n / 35) + 36 else 36 * n / (n + 38)
termination_by n
decreasing_by omega

/-- The bias after a number, given how many characters there are. -/
def nextPunycodeBias (isFirst : Bool) (n count : Nat) : Nat :=
  let damped := if isFirst then n / 700 else n / 2
  punycodeBias (damped + damped / count)

/-- Sets the characters that the bytes place between others. The first argument bounds their
    number. -/
def placeCharacters : (fuel : Nat) → (code place bias : Nat) → (isFirst : Bool) →
    (codes : List Nat) →
    List Nat → Except DecodingFault (List Nat)
  | 0, _, _, _, _, codes, _ => .ok codes
  | _, _, _, _, _, codes, [] => .ok codes
  | fuel + 1, code, place, bias, isFirst, codes, byte :: bytes => do
    let (n, rest) ← readPunycodeNumber bias 0 1 0 (byte :: bytes)
    let count := codes.length + 1
    -- The number counts the places that are passed, through all code points on the way.
    let code := code + (place + n) / count
    let place := (place + n) % count
    if 0x110000 ≤ code then throw (.codeBeyond code)
    placeCharacters fuel code (place + 1) (nextPunycodeBias isFirst n count) false
      (codes.insertIdx place code) rest

/-- A byte of a small letter as that of the capital. -/
def capitalByte (byte : Nat) : Nat := if 0x61 ≤ byte && byte ≤ 0x7A then byte - 0x20 else byte

/-- The text of bytes. -/
def decodePunycode (bytes : List Nat) : Except DecodingFault (List Nat) := do
  -- The last hyphen ends the characters of ASCII; the numbers come after it.
  let isDigit (byte : Nat) : Bool := byte != 0x2D
  let numbers := (bytes.reverse.takeWhile isDigit).reverse
  let start := bytes.take (bytes.length - numbers.length - 1)
  let codes ← decodeBy "ascii" asciiStep 0 start
  let _ ← decodeBy "ascii" asciiStep 0 numbers
  placeCharacters numbers.length 0x80 0 72 true codes (numbers.map capitalByte)

/-! ### Writing -/

theorem one_le_punycodeThreshold (bias position : Nat) : 1 ≤ punycodeThreshold bias position :=
  Nat.le_min.2 ⟨by decide, Nat.le_max_left ..⟩

/-- The digit with a value. -/
def punycodeDigit (value : Nat) : Nat := if value < 26 then value + 0x61 else value - 26 + 0x30

/-- The digits of a number from a position on. -/
def writePunycodeNumber (bias position n : Nat) : List Nat :=
  let threshold := punycodeThreshold bias position
  if n < threshold then [punycodeDigit n]
  else
    punycodeDigit (threshold + (n - threshold) % (36 - threshold)) ::
      writePunycodeNumber bias (position + 1) ((n - threshold) / (36 - threshold))
termination_by n
decreasing_by
  have := one_le_punycodeThreshold bias position
  have := Nat.div_le_self (n - punycodeThreshold bias position)
    (36 - punycodeThreshold bias position)
  omega

/-- Places that are written so far: their digits, the last code point, how many places were passed
    since, and how many characters there are. -/
structure PlaceWriting where
  digits : List Nat
  code : Nat
  passed : Nat
  bias : Nat
  isFirst : Bool
  count : Nat

/-- Writes the place of a character if it is the one that is looked for, and passes it if its place
    is written already. -/
def PlaceWriting.pass (writing : PlaceWriting) (code : Nat) : PlaceWriting :=
  -- A smaller code point stands there already, so that its place is passed.
  if code < writing.code then { writing with passed := writing.passed + 1 }
  else if code = writing.code then
    { writing with
      digits := writing.digits ++ writePunycodeNumber writing.bias 0 writing.passed
      passed := 0
      bias := nextPunycodeBias writing.isFirst writing.passed (writing.count + 1)
      isFirst := false
      count := writing.count + 1 }
  else writing

/-- Writes the places of a code point among others. -/
def PlaceWriting.write (codes : List Nat) (writing : PlaceWriting) (code : Nat) : PlaceWriting :=
  let start := { writing with
    code := code
    passed := writing.passed + (code - writing.code) * (writing.count + 1) }
  let done := codes.foldl PlaceWriting.pass start
  { done with code := code + 1, passed := done.passed + 1 }

/-- The bytes of a text. -/
def encodePunycode (codes : List Nat) : List Nat :=
  let plain := codes.filter (· < 0x80)
  let others := ((codes.filter (0x80 ≤ ·)).mergeSort (· ≤ ·)).eraseDups
  let start : PlaceWriting := ⟨[], 0x80, 0, 72, true, plain.length⟩
  (if plain.isEmpty then [] else plain ++ [0x2D])
    ++ (others.foldl (PlaceWriting.write codes) start).digits

end RecordSearch
