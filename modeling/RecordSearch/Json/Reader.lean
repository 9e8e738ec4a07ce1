import RecordSearch.Value
import RecordSearch.Decimal
import RecordSearch.Text.Quoted

namespace RecordSearch.Json

/-!
# Reading JSON texts

`read` takes a whole text: one value with blanks around it. Beyond the standard it accepts
the three numbers `NaN`, `Infinity` and `-Infinity`. Of a repeated key the last value counts,
at the place of the first. A surrogate may stand alone in a string or a key. An integer of
more than 4300 digits is refused, and so are values inside values at more than a given number
of levels, which are problems of their own.

* `readString` reads the rest of a string literal, as code points, so that a surrogate may
  stand alone;
* `readNumber` reads a number, an integer unless it has a fraction or a power of ten;
* `readValue`, `readItems` and `readEntries` are the three symbols of the grammar. Their first
  argument bounds the depth of the calls; each call but every second one takes a character. The
  second one counts the levels of lists and mappings that may still be opened.
-/

/-- What holds other values. -/
inductive Nesting where
  | list
  | mapping
deriving DecidableEq, Repr

/-- The word for what holds other values. -/
def Nesting.word : Nesting → String
  | .list => "array"
  | .mapping => "object"

/-- What is wrong at a place of a text. -/
inductive Fault where
  | noName
  | noColon
  | noComma
  | noValue
  | controlCharacter
  | unterminated
  | badEscape
  | badUnit
  | extraData
deriving DecidableEq, Repr

/-- A fault in words. -/
def Fault.words : Fault → String
  | .noName => "Expecting property name enclosed in double quotes"
  | .noColon => "Expecting ':' delimiter"
  | .noComma => "Expecting ',' delimiter"
  | .noValue => "Expecting value"
  | .controlCharacter => "Invalid control character at"
  | .unterminated => "Unterminated string starting at"
  | .badEscape => "Invalid \\escape"
  | .badUnit => "Invalid \\uXXXX escape"
  | .extraData => "Extra data"

/-- Why a text is not read: it is no JSON text, with the number of characters from the fault to
    the end, or it goes beyond a limit. -/
inductive Problem where
  | malformed (fault : Fault) (left : Nat)
  | tooManyDigits (digits : Nat)
  | tooDeep (nesting : Nesting)
deriving DecidableEq, Repr

/-- A place in a text by its line, its column and its position: lines and columns are counted
    from one, positions from zero. -/
def placeWords (cs : List Char) (left : Nat) : String :=
  let before := cs.take (cs.length - left)
  let line := before.count '\n' + 1
  let column := (before.reverse.takeWhile (· != '\n')).length + 1
  "line " ++ toString line ++ " column " ++ toString column ++ " (char "
    ++ toString before.length ++ ")"

/-- The message of a problem with a text. -/
def Problem.message (cs : List Char) : Problem → String
  | .malformed fault left => fault.words ++ ": " ++ placeWords cs left
  | .tooManyDigits digits =>
    "Exceeds the limit (4300 digits) for integer string conversion: value has "
      ++ toString digits
      ++ " digits; use sys.set_int_max_str_digits() to increase the limit"
  | .tooDeep nesting =>
    "maximum recursion depth exceeded while decoding a JSON " ++ nesting.word
      ++ " from a unicode string"

/-- The four characters that may stand between the parts of a text. -/
def isSpace (c : Char) : Bool := c == ' ' || c == '\t' || c == '\n' || c == '\r'

/-- Without the spaces at the start. -/
def skipSpace (cs : List Char) : List Char := cs.dropWhile isSpace

/-! ### Strings -/

/-- The value of a digit to the base sixteen. -/
def hexValue? (c : Char) : Option Nat :=
  if c.isDigit then some (c.toNat - '0'.toNat)
  else if 'a' ≤ c ∧ c ≤ 'f' then some (c.toNat - 'a'.toNat + 10)
  else if 'A' ≤ c ∧ c ≤ 'F' then some (c.toNat - 'A'.toNat + 10)
  else none

/-- The number that four digits to the base sixteen stand for. -/
def hexValue4? (a b c d : Char) : Option Nat := do
  let a ← hexValue? a
  let b ← hexValue? b
  let c ← hexValue? c
  let d ← hexValue? d
  return ((a * 16 + b) * 16 + c) * 16 + d

/-- The character that a letter after a backslash stands for. -/
def escape? : Char → Option Char
  | '"' => some '"'
  | '\\' => some '\\'
  | '/' => some '/'
  | 'b' => some (Char.ofNat 0x08)
  | 'f' => some (Char.ofNat 0x0C)
  | 'n' => some '\n'
  | 'r' => some '\r'
  | 't' => some '\t'
  | _ => none

/-- A code unit in front of those that are read. -/
def inFront (unit : Nat) :
    Except Problem (List Nat × List Char) → Except Problem (List Nat × List Char)
  | .ok (units, rest) => .ok (unit :: units, rest)
  | .error problem => .error problem

/-- The code units of a string literal after its opening quote, and the text after the
    closing one. Control characters must be escaped. -/
def readUnits : List Char → Except Problem (List Nat × List Char)
  | [] | ['\\'] => .error (.malformed .unterminated 0)
  | '"' :: cs => .ok ([], cs)
  | '\\' :: 'u' :: a :: b :: c :: d :: cs =>
    match hexValue4? a b c d, cs with
    -- Behind the four digits there must be more text, or else they are not read at all.
    | some unit, _ :: _ => inFront unit (readUnits cs)
    | _, _ => .error (.malformed .badUnit (cs.length + 5))
  | '\\' :: 'u' :: cs => .error (.malformed .badUnit (cs.length + 1))
  | '\\' :: e :: cs =>
    match escape? e with
    | some c => inFront c.toNat (readUnits cs)
    | none => .error (.malformed .badEscape (cs.length + 2))
  | c :: cs =>
    if c.toNat < 0x20 then .error (.malformed .controlCharacter (cs.length + 1))
    else inFront c.toNat (readUnits cs)

/-- The first half of a pair of surrogates. -/
def isHighSurrogate (unit : Nat) : Bool := decide (0xD800 ≤ unit) && decide (unit < 0xDC00)

/-- The second half of a pair of surrogates. -/
def isLowSurrogate (unit : Nat) : Bool := decide (0xDC00 ≤ unit) && decide (unit < 0xE000)

/-- Code points from code units: a pair of surrogates is one code point. -/
def joinSurrogates : List Nat → List Nat
  | high :: low :: units =>
    if isHighSurrogate high && isLowSurrogate low then
      (0x10000 + (high - 0xD800) * 0x400 + (low - 0xDC00)) :: joinSurrogates units
    else high :: joinSurrogates (low :: units)
  | units => units

/-- The code points of a string literal after its opening quote, and the text after it. A literal
    without an end is a fault at its opening quote. -/
def readString (cs : List Char) : Except Problem (List Nat × List Char) :=
  match readUnits cs with
  | .ok (units, rest) => .ok (joinSurrogates units, rest)
  | .error (.malformed .unterminated _) => .error (.malformed .unterminated (cs.length + 1))
  | .error problem => .error problem

/-! ### Numbers -/

/-- The digits before the point: one zero, or digits that start with none. -/
def spanWhole (cs : List Char) : List Char × List Char :=
  match cs with
  | '0' :: rest => (['0'], rest)
  | _ => Decimal.spanDigits cs

/-- The digits after the point, if a point with digits after it follows. -/
def spanFraction (cs : List Char) : Option (List Char) × List Char :=
  match cs with
  | '.' :: rest =>
    match Decimal.spanDigits rest with
    -- A point without digits after it is no part of the number.
    | ([], _) => (none, cs)
    | (ds, rest) => (some ds, rest)
  | _ => (none, cs)

/-- A number after its sign. A sign without a number is a fault at the sign. -/
def readUnsigned (negative : Bool) (cs : List Char) : Except Problem (Value × List Char) :=
  let (whole, rest) := spanWhole cs
  if whole.isEmpty then
    .error (.malformed .noValue (if negative then cs.length + 1 else cs.length))
  else
    let (fraction, rest) := spanFraction rest
    let (power, rest) := Decimal.spanPower rest
    match fraction, power with
    | none, none =>
      if Decimal.digitLimit < whole.length then .error (.tooManyDigits whole.length)
      else
        let n : Int := Decimal.ofDigits whole
        .ok (.int (if negative then -n else n), rest)
    | _, _ =>
      let numeral : Decimal.Numeral := ⟨whole, fraction.isSome, fraction.getD [], power⟩
      .ok (.float (numeral.toBinary64 negative), rest)

/-- A number. -/
def readNumber : List Char → Except Problem (Value × List Char)
  | '-' :: cs => readUnsigned true cs
  | cs => readUnsigned false cs

/-! ### Values -/

/-- Sets the entry of a key: in place if the key is there, else at the end. -/
def insertEntry : List (List Nat × Value) → List Nat → Value → List (List Nat × Value)
  | [], key, v => [(key, v)]
  | (k, w) :: es, key, v =>
    if k = key then (key, v) :: es else (k, w) :: insertEntry es key v

/-- The mapping that results from setting the entries one after the other. -/
def mappingOf (entries : List (List Nat × Value)) : Value :=
  if entries.all fun e => Text.areText e.1 then
    .mapping (Document.ofEntries (entries.map fun e => (Text.ofCodes e.1, e.2)))
  else .brokenMapping (entries.foldl (fun es e => insertEntry es e.1 e.2) [])

/-- The values that are written as words, and the text after them. -/
def readWord? (cs : List Char) : Option (Value × List Char) :=
  match cs with
  | 'n' :: 'u' :: 'l' :: 'l' :: rest => some (.null, rest)
  | 't' :: 'r' :: 'u' :: 'e' :: rest => some (.bool true, rest)
  | 'f' :: 'a' :: 'l' :: 's' :: 'e' :: rest => some (.bool false, rest)
  | 'N' :: 'a' :: 'N' :: rest => some (.float .nan, rest)
  | 'I' :: 'n' :: 'f' :: 'i' :: 'n' :: 'i' :: 't' :: 'y' :: rest =>
    some (.float (.infinite false), rest)
  | '-' :: 'I' :: 'n' :: 'f' :: 'i' :: 'n' :: 'i' :: 't' :: 'y' :: rest =>
    some (.float (.infinite true), rest)
  | _ => none

mutual

/-- A value at the start of a text. -/
def readValue : (fuel depth : Nat) → List Char → Except Problem (Value × List Char)
  | 0, _, cs => .error (.malformed .noValue cs.length)
  | _ + 1, _, '"' :: cs => do
    let (codes, rest) ← readString cs
    return (Value.ofCodes codes, rest)
  | _ + 1, 0, '[' :: _ => .error (.tooDeep .list)
  | fuel + 1, depth + 1, '[' :: cs =>
    match skipSpace cs with
    | ']' :: rest => .ok (.list [], rest)
    | start => do
      let (items, rest) ← readItems fuel depth start
      return (.list items, rest)
  | _ + 1, 0, '{' :: _ => .error (.tooDeep .mapping)
  | fuel + 1, depth + 1, '{' :: cs =>
    match skipSpace cs with
    | '}' :: rest => .ok (.mapping [], rest)
    | start => do
      let (entries, rest) ← readEntries fuel depth start
      return (mappingOf entries, rest)
  | _ + 1, _, cs =>
    match readWord? cs with
    | some reading => .ok reading
    | none => readNumber cs

/-- The items of a list up to its closing bracket. -/
def readItems : (fuel depth : Nat) → List Char → Except Problem (List Value × List Char)
  | 0, _, cs => .error (.malformed .noValue cs.length)
  | fuel + 1, depth, cs => do
    let (item, rest) ← readValue fuel depth cs
    match skipSpace rest with
    | ']' :: rest => return ([item], rest)
    | ',' :: rest =>
      let (items, rest) ← readItems fuel depth (skipSpace rest)
      return (item :: items, rest)
    | rest => .error (.malformed .noComma rest.length)

/-- The entries of a mapping up to its closing brace. -/
def readEntries : (fuel depth : Nat) → List Char →
    Except Problem (List (List Nat × Value) × List Char)
  | 0, _, cs => .error (.malformed .noValue cs.length)
  | fuel + 1, depth, '"' :: cs => do
    let (codes, rest) ← readString cs
    match skipSpace rest with
    | ':' :: rest =>
      let (value, rest) ← readValue fuel depth (skipSpace rest)
      match skipSpace rest with
      | '}' :: rest => return ([(codes, value)], rest)
      | ',' :: rest =>
        let (entries, rest) ← readEntries fuel depth (skipSpace rest)
        return ((codes, value) :: entries, rest)
      | rest => .error (.malformed .noComma rest.length)
    | rest => .error (.malformed .noColon rest.length)
  | _ + 1, _, cs => .error (.malformed .noName cs.length)

end

/-- The value of a whole text, given as characters, with at most `depth` levels. -/
def readChars (depth : Nat) (cs : List Char) : Except Problem Value := do
  -- Two calls for each character are enough for any text.
  let (value, rest) ← readValue (2 * cs.length + 2) depth (skipSpace cs)
  if (skipSpace rest).isEmpty then return value
  else .error (.malformed .extraData (skipSpace rest).length)

/-- The value of a whole text with at most `depth` levels. -/
def read (depth : Nat) (text : String) : Except Problem Value := readChars depth text.toList

/-- The value of a whole text with at most `depth` levels, with text as the keys of its
    mappings. -/
def readTextKeyed (depth : Nat) (text : String) : Except Problem Value :=
  Value.withTextKeys <$> readChars depth text.toList

end RecordSearch.Json
