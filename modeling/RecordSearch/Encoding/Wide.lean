import RecordSearch.Encoding.Decoding

namespace RecordSearch

/-!
# Encodings with wide units

Characters in units of two or of four bytes, whose order is one of two. Characters beyond the
first 65536 are pairs of units of two bytes.

* `utf16Step`, `utf32Step`: what bytes stand for in either order.
-/

/-- The order of the bytes of a unit: the one that counts least comes first, or the one that
    counts most. -/
inductive ByteOrder where
  | little
  | big
deriving DecidableEq, Repr

/-- The end of the names of encodings with an order. -/
def ByteOrder.suffix : ByteOrder → String
  | .little => "-le"
  | .big => "-be"

/-- The number of a unit of two bytes. -/
def ByteOrder.pair (order : ByteOrder) (a b : Nat) : Nat :=
  match order with
  | .little => a + 0x100 * b
  | .big => 0x100 * a + b

/-- Is the unit the first half of a pair? -/
def isFirstHalf (unit : Nat) : Bool := 0xD800 ≤ unit && unit < 0xDC00

/-- Is the unit the second half of a pair? -/
def isSecondHalf (unit : Nat) : Bool := 0xDC00 ≤ unit && unit < 0xE000

/-- The code point of a pair of units. -/
def joinHalves (first second : Nat) : Nat :=
  0x10000 + 0x400 * (first - 0xD800) + (second - 0xDC00)

/-- Characters in units of two bytes. -/
def utf16Step (order : ByteOrder) (byte : Nat) : List Nat → ByteStep
  | [] => .flawed 0 .truncated
  | second :: bytes =>
    let unit := order.pair byte second
    if isSecondHalf unit then .flawed 1 .secondHalf
    else if isFirstHalf unit then
      match bytes with
      | a :: b :: _ =>
        if isSecondHalf (order.pair a b) then
          .take [joinHalves unit (order.pair a b)] 3
        else .flawed 1 .firstHalf
      | _ => .flawed (bytes.length + 1) .halfPair
    else .take [unit] 1

/-- Characters in units of four bytes. -/
def utf32Step (order : ByteOrder) (byte : Nat) : List Nat → ByteStep
  | b :: c :: d :: _ =>
    let code := match order with
      | .little => order.pair byte b + 0x10000 * order.pair c d
      | .big => 0x10000 * order.pair byte b + order.pair c d
    if 0x110000 ≤ code then .flawed 3 .beyond
    else if isFirstHalf code || isSecondHalf code then .flawed 3 .surrogate
    else .take [code] 3
  | bytes => .flawed bytes.length .truncated

end RecordSearch
