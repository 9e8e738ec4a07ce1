import RecordSearch.Binary64

namespace RecordSearch.Binary64

/-!
# The shortest decimal that reads back

`shortest` finds, for a finite number, the decimal with the fewest digits that
`ofDecimal` reads back as that number, and of those the one nearest to it. `text` writes
it in a `DecimalLayout`, which says which magnitudes get an exponent.

For each count of digits the number lies between two neighbours on the grid of decimals
with that many digits; a decimal of the grid reads back only if one of the two does.
-/

/-- `10 ^ k ≤ num / den`. -/
def powerAtMost (k : Int) (num den : Nat) : Bool :=
  match k with
  | .ofNat k => decide (den * Nat.pow 10 k ≤ num)
  | .negSucc k => decide (den ≤ num * Nat.pow 10 (k + 1))

/-- The place of the decimal point: the `k` with `10 ^ (k - 1) ≤ num / den < 10 ^ k`. The
    estimate from the binary exponent is at most one off. -/
def pointPlace (num den : Nat) : Int :=
  let binary : Int := (num.log2 : Int) - (den.log2 : Int)
  let guess := (binary * 30103).fdiv 100000
  if powerAtMost (guess + 1) num den then guess + 2
  else if powerAtMost guess num den then guess + 1
  else if powerAtMost (guess - 1) num den then guess
  else guess - 1

/-- `num / den / 10 ^ k` as a quotient of natural numbers. -/
def scaledDecimal (num den : Nat) : Int → Nat × Nat
  | .ofNat k => (num, den * Nat.pow 10 k)
  | .negSucc k => (num * Nat.pow 10 (k + 1), den)

/-- The coefficient on the grid of multiples of `10 ^ k` that reads back as `± m · 2 ^ e`,
    the nearer of the two neighbours first; a tie goes to the even one. -/
def readsBackOnGrid (m : Nat) (e : Int) (num den : Nat) (k : Int) : Option Nat :=
  let (n, d) := scaledDecimal num den k
  let below := n / d
  let nearest := roundQuotient n d
  let other := if nearest = below then below + 1 else below
  [nearest, other].find? fun c => ofDecimal false c k == .finite false m e

/-- Tries grids with `count`, `count + 1`, … digits, `fuel` of them. -/
def firstGrid (m : Nat) (e : Int) (num den : Nat) (place : Int) :
    (fuel count : Nat) → Option (Nat × Int)
  | 0, _ => none
  | fuel + 1, count =>
    match readsBackOnGrid m e num den (place - count) with
    | some c => some (c, place - count)
    | none => firstGrid m e num den place fuel (count + 1)

/-- Coefficient and decimal exponent of the shortest decimal that reads back as
    `m · 2 ^ e`; 17 digits always suffice. -/
def shortest (m : Nat) (e : Int) : Nat × Int :=
  let (num, den) := ratio m e
  (firstGrid m e num den (pointPlace num den) 17 1).getD (0, 0)

/-- A coefficient without its trailing zeros, which move into the exponent. -/
def dropZeros : (fuel : Nat) → Nat × Int → Nat × Int
  | 0, d => d
  | fuel + 1, (c, k) => if c ≠ 0 ∧ c % 10 = 0 then dropZeros fuel (c / 10, k + 1) else (c, k)

/-- How a decimal is written: numbers whose leading digit stands for `10 ^ p` with
    `least ≤ p < most` are written out, the others get an exponent. -/
structure DecimalLayout where
  least : Int
  most : Int
  exponentDigits : Nat

/-- Written out from `10 ^ -4` up to below `10 ^ 16`, with exponents of two digits. -/
def plainLayout : DecimalLayout := ⟨-4, 16, 2⟩

/-- `count` zeros. -/
def zeros (count : Nat) : String := String.ofList (List.replicate count '0')

/-- Digits written out around the point, always with a digit on each side of it. -/
def positional (digits : List Char) (point : Int) : String :=
  if point ≤ 0 then "0." ++ zeros (-point).toNat ++ String.ofList digits
  else
    let whole := digits.take point.toNat
    let rest := digits.drop point.toNat
    String.ofList whole ++ zeros (point.toNat - whole.length) ++ "."
      ++ (if rest.isEmpty then "0" else String.ofList rest)

/-- Digits with an exponent: the first digit, the others after a point, the sign and the
    padded exponent. -/
def scientific (layout : DecimalLayout) (digits : List Char) (power : Int) : String :=
  let written := toString power.natAbs
  let mantissa := match digits with
    | [] => "0"
    | [d] => String.ofList [d]
    | d :: rest => String.ofList (d :: '.' :: rest)
  mantissa ++ (if power < 0 then "e-" else "e+")
    ++ zeros (layout.exponentDigits - written.length) ++ written

/-- The text of a magnitude `m · 2 ^ e`. -/
def magnitudeText (layout : DecimalLayout) (m : Nat) (e : Int) : String :=
  if m = 0 then "0.0"
  else
    let (c, k) := dropZeros 17 (shortest m e)
    let digits := Nat.toDigits 10 c
    let point : Int := digits.length + k
    let power := point - 1
    if layout.least ≤ power ∧ power < layout.most then positional digits point
    else scientific layout digits power

/-- The text of a number, with a sign for negative zero too. -/
def text (layout : DecimalLayout) : Binary64 → String
  | .nan => "nan"
  | .infinite negative => if negative then "-inf" else "inf"
  | .finite negative m e => (if negative then "-" else "") ++ magnitudeText layout m e

end RecordSearch.Binary64
