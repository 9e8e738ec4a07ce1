import RecordSearch.Checked
import RecordSearch.Decimal
import RecordSearch.Text.Blank

namespace RecordSearch.Checked

/-!
# Numbers given as text

A field for a number takes a text that writes one, with blanks around it and with single
underscores that group its digits.

* `integerOfText`: integers. A text is tidied first (`tidied?`): the blanks, a plus sign, zeros
  at the front, a fraction of zeros and the underscores are taken away, and what is left must be
  a plain numeral (`plainInteger?`);
* `numberOfText`: binary64 numbers. Blanks and underscores exclude each other here.
-/

/-- A sign at the start of a numeral, minus being `true`, and the numeral after it. -/
def splitSign : List Char → Bool × List Char
  | '-' :: cs => (true, cs)
  | '+' :: cs => (false, cs)
  | cs => (false, cs)

/-- Two underscores side by side. -/
def hasDoubleUnderscore : List Char → Bool
  | '_' :: '_' :: _ => true
  | _ :: cs => hasDoubleUnderscore cs
  | [] => false

/-- The text without its underscores; each must stand alone between other characters. -/
def ungrouped? (cs : List Char) : Option (List Char) :=
  if cs.head? == some '_' || cs.getLast? == some '_' || hasDoubleUnderscore cs then none
  else some (cs.filter (· != '_'))

/-! ### Integers -/

/-- A minus sign at the start of a text, if there is one, and the text after it. -/
def splitMinus : List Char → Bool × List Char
  | '-' :: cs => (true, cs)
  | cs => (false, cs)

/-- Digits of which the first is no zero, or a zero alone. -/
def isWhole : List Char → Bool
  | [] => false
  | ['0'] => true
  | d :: ds => d != '0' && (d :: ds).all Char.isDigit

/-- The integer of a plain numeral: not too many digits after a minus sign or none. -/
def plainInteger? (cs : List Char) : Option Int :=
  let (negative, digits) := splitMinus cs
  if isWhole digits && digits.length ≤ Decimal.digitLimit then
    let n : Int := Decimal.ofDigits digits
    some (if negative then -n else n)
  else none

/-- Too many digits at the start of a text, after a minus sign or none, the first being no
    zero. -/
def startsTooLong (cs : List Char) : Bool :=
  let (digits, _) := Decimal.spanDigits (splitMinus cs).2
  digits.head? != some '0' && Decimal.digitLimit < digits.length

/-- What follows zeros and underscores: digits, or a minus sign and digits. Before a point or
    the end the last one of them stays, which is `last` if none is left to pass. -/
def afterZeros? (last : Char) : List Char → Option (List Char)
  | [] => some [last]
  | c :: cs =>
    if c = '0' ∨ c = '_' then afterZeros? c cs
    else if c = '.' then some (last :: c :: cs)
    else if c = '-' ∨ c.isDigit then some (c :: cs)
    else none

/-- A text that starts with a digit, without zeros at its front. -/
def withoutZeros? : List Char → Option (List Char)
  | [] => none
  | c :: cs =>
    if c = '0' then afterZeros? c cs
    else if c.isDigit then some (c :: cs)
    else none

/-- A text without its fraction, if that is a point and one or more zeros. -/
def withoutFraction (cs : List Char) : List Char :=
  let whole := cs.takeWhile (· != '.')
  match cs.drop whole.length with
  | _ :: '0' :: zeros => if zeros.all (· == '0') then whole else cs
  | _ => cs

/-- The text of an integer made plain. -/
def tidied? (cs : List Char) : Option (List Char) := do
  let (negative, unsigned) := splitSign (Text.trimBlank cs)
  let digits ← withoutZeros? unsigned
  let digits ← ungrouped? (withoutFraction digits)
  return if negative then '-' :: digits else digits

/-- The integer that a text stands for. -/
def integerOfText (cs : List Char) : Checked Int :=
  if startsTooLong cs then fail .integerTooLarge
  else match (tidied? cs).bind plainInteger? with
    | some n => .valid n
    | none => fail .unreadableInteger

/-! ### Binary64 numbers -/

/-- A letter of ASCII in lower case. -/
def asciiLower (cs : List Char) : List Char := cs.map Char.toLower

/-- A numeral: digits, a fraction after a point, a power of ten; with a digit before or
    after the point. -/
def numeralOfText (cs : List Char) : Option Decimal.Numeral :=
  let (whole, rest) := Decimal.spanDigits cs
  let (hasPoint, fraction, rest) := match rest with
    | '.' :: rest => let (ds, rest) := Decimal.spanDigits rest; (true, ds, rest)
    | rest => (false, [], rest)
  let (power, rest) := Decimal.spanPower rest
  if rest.isEmpty && !(whole.isEmpty && fraction.isEmpty) then
    some ⟨whole, hasPoint, fraction, power⟩
  else none

/-- The number that a text without blanks around it stands for. -/
def binary64OfText (cs : List Char) : Option Binary64 :=
  let (negative, unsigned) := splitSign cs
  let word := String.ofList (asciiLower unsigned)
  if word == "inf" || word == "infinity" then some (.infinite negative)
  else if word == "nan" then some .nan
  else (numeralOfText unsigned).map fun numeral => numeral.toBinary64 negative

/-- The number that a text stands for: a numeral with blanks around it, or one that is grouped
    by underscores. -/
def numberOfText (cs : List Char) : Checked Binary64 :=
  -- Blanks and underscores are not taken together.
  match (binary64OfText (Text.trimBlank cs)).or ((ungrouped? cs).bind binary64OfText) with
  | some x => .valid x
  | none => fail .unreadableNumber

end RecordSearch.Checked
