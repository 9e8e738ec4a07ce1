import RecordSearch.Binary64.Arithmetic
import RecordSearch.Search.Results

namespace RecordSearch

/-!
# Pages

Hits are handed out page by page. The hits of a page and the number of a page are integers as
a rule, but any number will do; where one of them is a binary64 number so is what is computed
from it.

* `Amount`: a number of either kind, with `mul` and `sub`;
* `pageOffset`: the position of the first hit of a page;
* `pageCount`: the number of pages that hold a number of hits, not rounded.
-/

/-- A number to count with. -/
inductive Amount where
  | int (n : Int)
  | float (x : Binary64)
deriving DecidableEq, Repr

namespace Amount

/-- The number that a value is. A truth value counts as zero or one. -/
def ofValue? : Value → Option Amount
  | .bool b => some (.int (if b then 1 else 0))
  | .int n => some (.int n)
  | .float x => some (.float x)
  | _ => none

/-- The number as a value. -/
def toValue : Amount → Value
  | .int n => .int n
  | .float x => .float x

/-- The number in the format of binary64; an integer must lie within its range. -/
def toBinary64 : Amount → Except Error Binary64
  | .int n =>
    match Binary64.ofInt? n with
    | some x => .ok x
    | none => .error .integerTooLarge
  | .float x => .ok x

/-- An operation on two numbers, one for integers and one for all others. -/
def combine (onInts : Int → Int → Int) (onFloats : Binary64 → Binary64 → Binary64) :
    Amount → Amount → Except Error Amount
  | .int m, .int n => .ok (.int (onInts m n))
  | a, b => do
    let x ← a.toBinary64
    let y ← b.toBinary64
    return .float (onFloats x y)

/-- The product of two numbers. -/
def mul : Amount → Amount → Except Error Amount := combine (· * ·) Binary64.mul

/-- The difference of two numbers. -/
def sub : Amount → Amount → Except Error Amount := combine (· - ·) Binary64.sub

@[simp] theorem mul_int (m n : Int) : mul (.int m) (.int n) = .ok (.int (m * n)) := rfl

@[simp] theorem sub_int (m n : Int) : sub (.int m) (.int n) = .ok (.int (m - n)) := rfl

/-- Is the number less than one? What is not a number is not. -/
def isBelowOne : Amount → Bool
  | .int n => decide (n < 1)
  | .float x =>
    match (Value.float x).quotient? with
    | some q => Value.isBelow q (1, 1)
    | none => false

end Amount

/-- The position of the first hit of a page, where the first page has the number one. -/
def pageOffset (perPage page : Amount) : Except Error Amount := do
  let last ← page.mul perPage
  last.sub perPage

@[simp] theorem pageOffset_int (perPage page : Int) :
    pageOffset (.int perPage) (.int page) = .ok (.int (page * perPage - perPage)) := rfl

/-- More bytes than a value may take. -/
def memoryBound : Nat := 0x4000000000

/-- The error that the attempt to repeat a text or a list leads to, given the number of its
    members and how many bytes each of them takes: the times may lie beyond the positions of a
    sequence, and so may the members of the result, which may also take too many bytes. A result
    that could be made is still no number. -/
def repeatError (isText : Bool) (size width : Nat) (times : Int) : Error :=
  if Value.int64Bound ≤ times then .notAPosition
  else if size == 0 then .wrongType
  else if isText && 1 < size && Value.int64Bound ≤ size * times then .repeatedTooLong
  else if isText && times == 1 then .wrongType
  else if (memoryBound : Int) ≤ size * width * times then .outOfMemory
  else .wrongType

/-- The bytes that each character of a text takes: as many as the largest one needs. -/
def characterWidth (s : String) : Nat :=
  if s.toList.any fun c => 0x10000 ≤ c.toNat then 4
  else if s.toList.any fun c => 0x100 ≤ c.toNat then 2
  else 1

/-- The number that a page is given by. A text or a list is none, and is repeated instead. -/
def pageNumber (perPage : Amount) (page : Value) : Except Error Amount :=
  match Amount.ofValue? page with
  | some number => .ok number
  | none =>
    match page, perPage with
    | .str s, .int n => .error (repeatError true s.length (characterWidth s) n)
    | .list items, .int n => .error (repeatError false items.length 8 n)
    | _, _ => .error .wrongType

/-- The number of pages that hold the given number of hits, not rounded. -/
def pageCount (total : Nat) : (perPage : Amount) → Except Error Binary64
  | .int perPage =>
    match Binary64.divide? total perPage with
    | some pages => .ok pages
    | none => .error .quotientTooLarge
  | .float perPage => do
    let total ← (Amount.int total).toBinary64
    return total.div perPage

end RecordSearch
