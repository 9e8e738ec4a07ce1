import RecordSearch.Value
import RecordSearch.Binary64.Shortest
import RecordSearch.Decimal
import RecordSearch.Text.Quoted

namespace RecordSearch

/-- Why a value has no text. -/
inductive Unprintable where
  | wrongType
  | missingArgument
  | tooManyDigits
deriving DecidableEq, Repr

/-- What is said of an integer with too many digits. -/
def Unprintable.digitsMessage : String :=
  "Exceeds the limit (" ++ toString Decimal.digitLimit ++ " digits) for integer string conversion; "
    ++ "use sys.set_int_max_str_digits() to increase the limit"

namespace Value

/-!
# The text of a value

Identities become document ids, and values appear in messages, through their text: text
stands for itself, the other values for a literal in which texts are quoted. An integer with too
many digits is not written, and neither is a value that holds one.

* `literal v`: the literal of a value, quoted if it is text;
* `literal? v`: the literal, if all integers in it can be written;
* `text v`, `text? v`: the value as text;
* `typeName v`: the name of the value's type, which some messages give.
-/

/-- The literals one after the other, separated by commas. -/
def commaSeparated (literals : List String) : String := ", ".intercalate literals

mutual

/-- The literal of a value. -/
def literal : Value → String
  | .null => "None"
  | .bool b => if b then "True" else "False"
  | .int n => toString n
  | .float x => x.text Binary64.plainLayout
  | .str s => Text.quote s
  | .brokenStr codes => Text.quoteCodes codes
  | .bytes bs => "b" ++ Text.quoteBytes bs
  | .buffer bs => "bytearray(b" ++ Text.quoteBuffer bs ++ ")"
  | .list items => "[" ++ commaSeparated (literals items) ++ "]"
  | .tuple [item] => "(" ++ item.literal ++ ",)"
  | .tuple items => "(" ++ commaSeparated (literals items) ++ ")"
  | .set [] => "set()"
  | .set items => "\x7b" ++ commaSeparated (literals items) ++ "\x7d"
  | .mapping entries => "\x7b" ++ commaSeparated (entryLiterals entries) ++ "\x7d"
  | .brokenMapping entries => "\x7b" ++ commaSeparated (brokenLiterals entries) ++ "\x7d"
  | .failure kind args _ => kind.name ++ "(" ++ commaSeparated (literals args) ++ ")"

/-- The literals of the members. -/
def literals : List Value → List String
  | [] => []
  | v :: vs => v.literal :: literals vs

/-- The literals of the entries, each a key, a colon and a value. -/
def entryLiterals : List (String × Value) → List String
  | [] => []
  | (k, v) :: es => (Text.quote k ++ ": " ++ v.literal) :: entryLiterals es

/-- The literals of the entries whose keys are given by code points. -/
def brokenLiterals : List (List Nat × Value) → List String
  | [] => []
  | (k, v) :: es => (Text.quoteCodes k ++ ": " ++ v.literal) :: brokenLiterals es

end

/-- Has an integer so few digits that it is written? The sign does not count. -/
def isWritten (n : Int) : Bool :=
  decide ((Nat.toDigits 10 n.natAbs).length ≤ Decimal.digitLimit)

mutual

/-- Are all integers in a value written? -/
def hasLiteral : Value → Bool
  | .int n => isWritten n
  | .list items | .tuple items | .set items => allHaveLiterals items
  | .mapping entries => entriesHaveLiterals entries
  | .brokenMapping entries => brokenHaveLiterals entries
  | .failure _ args _ => allHaveLiterals args
  | _ => true

/-- Are all integers in the members written? -/
def allHaveLiterals : List Value → Bool
  | [] => true
  | v :: vs => v.hasLiteral && allHaveLiterals vs

/-- Are all integers in the entries written? -/
def entriesHaveLiterals : List (String × Value) → Bool
  | [] => true
  | (_, v) :: es => v.hasLiteral && entriesHaveLiterals es

/-- Are all integers in the entries written whose keys are given by code points? -/
def brokenHaveLiterals : List (List Nat × Value) → Bool
  | [] => true
  | (_, v) :: es => v.hasLiteral && brokenHaveLiterals es

end

/-- The literal of a value, if all integers in it are written. -/
def literal? (v : Value) : Except Unprintable String :=
  if v.hasLiteral then .ok v.literal else .error .tooManyDigits

/-- The value as text. A failure is written as its literal here; what it says is
    `Failure.textOf`. -/
def text : Value → String
  | .str s => s
  | .brokenStr codes => Text.ofCodes codes
  | v => v.literal

@[simp] theorem text_str (s : String) : text (.str s) = s := rfl

@[simp] theorem text_int (n : Int) : text (.int n) = toString n := by
  simp [text, literal]

/-- The value as text, if all integers in it are written. A text stands for itself. -/
def text? : Value → Except Unprintable String
  | .str s => .ok s
  | .brokenStr codes => .ok (Text.ofCodes codes)
  | v => v.literal?

/-- An integer has a text if it is written, and that is its digits. -/
theorem text?_int (n : Int) :
    text? (.int n) = if isWritten n then .ok (toString n) else .error .tooManyDigits := by
  have hwritten : hasLiteral (.int n) = isWritten n := by rw [hasLiteral]
  have hdigits : literal (.int n) = toString n := by rw [literal]
  rw [← hdigits, ← hwritten]
  rfl

/-- The name of the value's type. -/
def typeName : Value → String
  | .null => "NoneType"
  | .bool _ => "bool"
  | .int _ => "int"
  | .float _ => "float"
  | .str _ | .brokenStr _ => "str"
  | .bytes _ => "bytes"
  | .buffer _ => "bytearray"
  | .list _ => "list"
  | .tuple _ => "tuple"
  | .set _ => "set"
  | .mapping _ | .brokenMapping _ => "dict"
  | .failure kind .. => kind.name

end Value

end RecordSearch
