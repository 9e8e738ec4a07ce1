namespace RecordSearch

/-!
# Numbers of the binary64 format

A number is held exactly, as a sign, a mantissa and a power of two, so that every
question about it is one about natural numbers:

* `Binary64.ofRatio` rounds a quotient to the nearest number, a tie to the even mantissa;
* `Binary64.toInt?` is the integer a number stands for, if it stands for one;
* `Binary64.ofInt?` refuses the integers beyond the range of the format.
-/

/-- A binary64 number. `finite negative m e` stands for `± m · 2 ^ e`; numbers made by
    `Binary64.ofRatio` have `m < 2 ^ 53` and the least exponent that allows it. -/
inductive Binary64 where
  | nan
  | infinite (negative : Bool)
  | finite (negative : Bool) (mantissa : Nat) (exponent : Int)
deriving DecidableEq, Repr

namespace Binary64

/-- Mantissas lie below `2 ^ 53`. -/
def mantissaBound : Nat := 0x20000000000000

/-- Zero without a sign. -/
def zero : Binary64 := .finite false 0 0

/-- `num / den` rounded to the nearest natural number, a tie to the even one. -/
def roundQuotient (num den : Nat) : Nat :=
  let quotient := num / den
  let twice := 2 * (num % den)
  if twice < den then quotient
  else if den < twice then quotient + 1
  else quotient + quotient % 2

/-- `num / den / 2 ^ e` as a quotient of natural numbers. -/
def scaled (num den : Nat) : Int → Nat × Nat
  | .ofNat e => (num, den * Nat.pow 2 e)
  | .negSucc e => (num * Nat.pow 2 (e + 1), den)

/-- The exponent of the grid on which `num / den` has at most 53 binary digits before the
    point, and never a finer grid than the least numbers of the format lie on. -/
def gridExponent (num den : Nat) : Int :=
  let guess : Int := max ((num.log2 : Int) - (den.log2 : Int) - 53) (-1074)
  let (n, d) := scaled num den guess
  if n / d < mantissaBound then guess else guess + 1

/-- The number nearest to `num / den`, a tie going to the even mantissa; beyond the largest
    finite number it is infinite. -/
def ofRatio (negative : Bool) (num den : Nat) : Binary64 :=
  if num = 0 then .finite negative 0 0
  else
    let e := gridExponent num den
    let (n, d) := scaled num den e
    let m := roundQuotient n d
    if m = 0 then .finite negative 0 0
    else
      let (m, e) := if m = mantissaBound then (mantissaBound / 2, e + 1) else (m, e)
      if 971 < e then .infinite negative else .finite negative m e

/-- The number nearest to `coefficient · 10 ^ exponent`. Exponents so large that the result
    is infinite or zero for certain are not computed with. -/
def ofDecimal (negative : Bool) (coefficient : Nat) (exponent : Int) : Binary64 :=
  let magnitude : Int := (Nat.toDigits 10 coefficient).length + exponent
  if coefficient = 0 then .finite negative 0 0
  else if 400 < magnitude then .infinite negative
  else if magnitude < -400 then .finite negative 0 0
  else match exponent with
    | .ofNat e => ofRatio negative (coefficient * Nat.pow 10 e) 1
    | .negSucc e => ofRatio negative coefficient (Nat.pow 10 (e + 1))

/-- The number nearest to an integer, or `none` beyond the range of the format. -/
def ofInt? (n : Int) : Option Binary64 :=
  match ofRatio (decide (n < 0)) n.natAbs 1 with
  | .infinite _ => none
  | x => some x

/-- The quotient of two integers rounded once, or `none` beyond the range of the format. -/
def divide? (num den : Int) : Option Binary64 :=
  match ofRatio (decide (num < 0) != decide (den < 0)) num.natAbs den.natAbs with
  | .infinite _ => none
  | x => some x

/-- The magnitude of a finite number as a quotient of natural numbers. -/
def ratio (mantissa : Nat) : Int → Nat × Nat
  | .ofNat e => (mantissa * Nat.pow 2 e, 1)
  | .negSucc e => (mantissa, Nat.pow 2 (e + 1))

/-- The integer that a number equals, if there is one. -/
def toInt? : Binary64 → Option Int
  | .finite negative m e =>
    let (num, den) := ratio m e
    if num % den = 0 then
      some (if negative then -(num / den : Nat) else (num / den : Nat))
    else none
  | _ => none

/-- Not a number and infinity excluded. -/
def isFinite : Binary64 → Bool
  | .finite .. => true
  | _ => false

/-- Zero of either sign. -/
def isZero : Binary64 → Bool
  | .finite _ m _ => m == 0
  | _ => false

/-- Greater than zero; not a number is not. -/
def isPositive : Binary64 → Bool
  | .nan => false
  | .infinite negative => !negative
  | .finite negative m _ => !negative && m != 0

end Binary64

end RecordSearch
