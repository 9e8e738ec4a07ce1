import RecordSearch.Json.Reader
import RecordSearch.Yaml.Problem

namespace RecordSearch.Yaml

/-!
# Scalars of YAML texts

A text in double quotes may go over several lines. The blanks around the ends of its lines do
not count, and one end of a line alone stands for a blank, unless it is one of the two special
separators, which stand for themselves. A plain word stands for a number or a truth value if it
looks like one, and for itself otherwise.

* `foldLines`: what a run of blanks and ends of lines stands for;
* `readQuoted`: the rest of a text in double quotes, as code points;
* `ofWord`: the value of a plain word.
-/

/-- The characters between the words of a line. -/
def isBlank (c : Char) : Bool := c == ' ' || c == '\t'

/-- Does the character keep two words apart, on one line or on two? -/
def isApart (c : Char) : Bool := isBlank c || isBreak c

/-- What an end of a line stands for where it counts. -/
def breakCode (c : Char) : Nat :=
  if c.toNat == 0x2028 || c.toNat == 0x2029 then c.toNat else '\n'.toNat

/-- The ends of lines in a run of characters; two characters that together end one line count
    once. -/
def breaksOf : List Char → List Nat
  | '\r' :: '\n' :: cs => '\n'.toNat :: breaksOf cs
  | c :: cs => if isBreak c then breakCode c :: breaksOf cs else breaksOf cs
  | [] => []

/-- What a run of blanks and ends of lines stands for. -/
def foldLines (run : List Char) : List Nat :=
  match breaksOf run with
  | [] => run.map Char.toNat
  | first :: breaks =>
    if first != '\n'.toNat then first :: breaks
    else if breaks.isEmpty then [' '.toNat]
    else breaks

/-- Does a text start with three hyphens or points that stand alone? -/
def startsSeparator : List Char → Bool
  | a :: b :: c :: cs =>
    ([a, b, c] == ['-', '-', '-'] || [a, b, c] == ['.', '.', '.'])
      && match cs with
        | [] => true
        | d :: _ => isApart d
  | _ => false

/-- The code point that a letter after a backslash stands for. -/
def escape? : Char → Option Nat
  | '0' => some 0x00
  | 'a' => some 0x07
  | 'b' => some 0x08
  | 't' | '\t' => some 0x09
  | 'n' => some 0x0A
  | 'v' => some 0x0B
  | 'f' => some 0x0C
  | 'r' => some 0x0D
  | 'e' => some 0x1B
  | ' ' => some 0x20
  | '"' => some 0x22
  | '/' => some 0x2F
  | '\\' => some 0x5C
  | 'N' => some 0x85
  | '_' => some 0xA0
  | 'L' => some 0x2028
  | 'P' => some 0x2029
  | _ => none

/-- Why a text in quotes is not read, with the number of characters from there to the end. -/
inductive QuotedFault where
  | separator (left : Nat)
  | malformed

/-- Code points in front of what is read. -/
def inFront (codes : List Nat) :
    Except QuotedFault (List Nat × List Char) → Except QuotedFault (List Nat × List Char)
  | .ok (read, rest) => .ok (codes ++ read, rest)
  | .error fault => .error fault

/-- The code points of a text after its opening quote, and the text after the closing one. The
    first argument holds the blanks and ends of lines that were met last. -/
def readQuoted : (run : List Char) → List Char → Except QuotedFault (List Nat × List Char)
  | _, [] => .error .malformed
  | run, '"' :: cs => .ok (foldLines run, cs)
  | run, '\\' :: 'x' :: a :: b :: cs =>
    match Json.hexValue4? '0' '0' a b with
    | some code => inFront (foldLines run ++ [code]) (readQuoted [] cs)
    | none => .error .malformed
  | run, '\\' :: 'u' :: a :: b :: c :: d :: cs =>
    match Json.hexValue4? a b c d with
    | some code => inFront (foldLines run ++ [code]) (readQuoted [] cs)
    | none => .error .malformed
  | run, '\\' :: e :: cs =>
    match escape? e with
    | some code => inFront (foldLines run ++ [code]) (readQuoted [] cs)
    | none => .error .malformed
  | run, c :: cs =>
    if isApart c then readQuoted (run ++ [c]) cs
    -- A line that starts like a new document ends the text, though a quote is open.
    else if run.getLast?.any isBreak && startsSeparator (c :: cs) then
      .error (.separator (cs.length + 1))
    else inFront (foldLines run ++ [c.toNat]) (readQuoted [] cs)

/-! ### Words -/

/-- The number that an unsigned word stands for: an integer without zeros at its front, or digits
    with a point among them or after them and perhaps a power of ten with a sign. -/
def unsigned? (negative : Bool) (cs : List Char) : Option Value :=
  match Decimal.spanDigits cs with
  | ([], _) => none
  | (whole, []) =>
    if whole.length > 1 && whole.head? == some '0' then none
    else
      let n : Int := Decimal.ofDigits whole
      some (.int (if negative then -n else n))
  | (whole, '.' :: cs) =>
    let (fraction, rest) := Decimal.spanDigits cs
    let value (power : Option Int) : Value :=
      .float ((⟨whole, true, fraction, power⟩ : Decimal.Numeral).toBinary64 negative)
    match rest with
    | [] => some (value none)
    | _ :: sign :: _ =>
      match Decimal.spanPower rest with
      | (some power, []) => if sign.isDigit then none else some (value (some power))
      | _ => none
    | _ => none
  | _ => none

/-- The number that a word stands for. -/
def number? : List Char → Option Value
  | '-' :: cs => unsigned? true cs
  | '+' :: cs => unsigned? false cs
  | cs => unsigned? false cs

/-- The words for nothing and for truth values. -/
def namedValue? : String → Option Value
  | "null" | "Null" | "NULL" | "~" => some .null
  | "true" | "True" | "TRUE" | "yes" | "Yes" | "YES" | "on" | "On" | "ON" => some (.bool true)
  | "false" | "False" | "FALSE" | "no" | "No" | "NO" | "off" | "Off" | "OFF" => some (.bool false)
  | _ => none

/-- The value that a plain word stands for. -/
def ofWord (cs : List Char) : Value :=
  match namedValue? (String.ofList cs) with
  | some v => v
  | none => (number? cs).getD (.str (String.ofList cs))

end RecordSearch.Yaml
