import RecordSearch.Binary64

namespace RecordSearch.Binary64

/-!
# Arithmetic of binary64 numbers

Each operation computes the exact result as a quotient of natural numbers and rounds it once
with `ofRatio`; what has no exact result is not a number.

* `mul`, `sub`, `div`: product, difference and quotient;
* `signed`: a magnitude with its sign, for the difference.
-/

/-- Is the number below zero, or zero with a minus sign? -/
def isNegative : Binary64 → Bool
  | .nan => false
  | .infinite negative | .finite negative .. => negative

/-- The number with the other sign. -/
def neg : Binary64 → Binary64
  | .nan => .nan
  | .infinite negative => .infinite !negative
  | .finite negative m e => .finite (!negative) m e

/-- A magnitude with a sign. -/
def signed (negative : Bool) (n : Nat) : Int := if negative then -n else n

/-- The product. That of zero and an infinity is not a number. -/
def mul : Binary64 → Binary64 → Binary64
  | .finite s m e, .finite t n f =>
    let (a, b) := ratio m e
    let (c, d) := ratio n f
    ofRatio (s != t) (a * c) (b * d)
  | .nan, _ | _, .nan => .nan
  | x, y => if x.isZero || y.isZero then .nan else .infinite (x.isNegative != y.isNegative)

/-- The difference. That of two infinities with one sign is not a number; zero is negative only
    if positive zero is taken from negative zero. -/
def sub : Binary64 → Binary64 → Binary64
  | .finite s m e, .finite t n f =>
    let (a, b) := ratio m e
    let (c, d) := ratio n f
    let difference := signed s (a * d) - signed t (c * b)
    if difference = 0 then .finite (s && !t) 0 0
    else ofRatio (decide (difference < 0)) difference.natAbs (b * d)
  | .nan, _ | _, .nan => .nan
  | .infinite s, .infinite t => if s = t then .nan else .infinite s
  | .infinite s, .finite .. => .infinite s
  | .finite .., y => y.neg

/-- The quotient. That of two zeros or of two infinities is not a number, and any other number
    by zero is infinite. -/
def div : Binary64 → Binary64 → Binary64
  | .finite s m e, .finite t n f =>
    let (a, b) := ratio m e
    let (c, d) := ratio n f
    if c = 0 then if a = 0 then .nan else .infinite (s != t)
    else ofRatio (s != t) (a * d) (b * c)
  | .nan, _ | _, .nan => .nan
  | .infinite _, .infinite _ => .nan
  | .infinite s, .finite t .. => .infinite (s != t)
  | .finite s .., .infinite t => .finite (s != t) 0 0

end RecordSearch.Binary64
