import RecordSearch.Binary64

namespace RecordSearch.Decimal

/-!
# Decimal numerals

Numerals of ASCII digits, with an optional fraction and an optional power of ten, and the
numbers they stand for.
-/

/-- The number that a row of digits stands for. -/
def ofDigits (ds : List Char) : Nat := ds.foldl (fun n d => 10 * n + (d.toNat - '0'.toNat)) 0

/-- The most digits that an integer may have. -/
def digitLimit : Nat := 4300

/-- A row of digits at the start of a text, and the text after it. -/
def spanDigits (cs : List Char) : List Char × List Char :=
  (cs.takeWhile Char.isDigit, cs.dropWhile Char.isDigit)

/-- An unsigned numeral: the digits before the point, the digits after it and the power of
    ten. `hasPoint` tells `5.` from `5`. -/
structure Numeral where
  whole : List Char
  hasPoint : Bool
  fraction : List Char
  power : Option Int
deriving DecidableEq, Repr

/-- The power of ten at the start of a text: a letter, an optional sign and digits. Without
    digits there is no power, and the text is left as it was. -/
def spanPower : List Char → Option Int × List Char
  | [] => (none, [])
  | e :: cs =>
    if e = 'e' ∨ e = 'E' then
      let (negative, unsigned) := match cs with
        | '-' :: rest => (true, rest)
        | '+' :: rest => (false, rest)
        | rest => (false, rest)
      match spanDigits unsigned with
      | ([], _) => (none, e :: cs)
      | (ds, rest) =>
        (some (if negative then -(ofDigits ds : Int) else (ofDigits ds : Int)), rest)
    else (none, e :: cs)

/-- The number that a numeral stands for, with a sign. -/
def Numeral.toBinary64 (numeral : Numeral) (negative : Bool) : Binary64 :=
  Binary64.ofDecimal negative (ofDigits (numeral.whole ++ numeral.fraction))
    (numeral.power.getD 0 - numeral.fraction.length)

end RecordSearch.Decimal
