namespace RecordSearch.Text

/-!
# Blank characters

The characters with Unicode's property `White_Space`, and texts without those at their
ends. Where parts of files are taken apart, four controls count as well.
-/

/-- Has the code point the property `White_Space`? -/
def isBlankCode (n : Nat) : Bool :=
  (decide (0x09 ≤ n) && decide (n ≤ 0x0D)) || n == 0x20 || n == 0x85 || n == 0xA0
    || n == 0x1680 || (decide (0x2000 ≤ n) && decide (n ≤ 0x200A)) || n == 0x2028
    || n == 0x2029 || n == 0x202F || n == 0x205F || n == 0x3000

/-- Has the character the property `White_Space`? -/
def isBlank (c : Char) : Bool := isBlankCode c.toNat

/-- The characters without the blank ones at both ends. -/
def trimBlank (cs : List Char) : List Char :=
  ((cs.dropWhile isBlank).reverse.dropWhile isBlank).reverse

/-- Is the code point that of a blank character, or of one of the four controls that separate parts
    of a file? -/
def isSpaceCode (n : Nat) : Bool := isBlankCode n || (decide (0x1C ≤ n) && decide (n ≤ 0x1F))

/-- Is the character blank, or one of the four controls that separate parts of a file? -/
def isSpace (c : Char) : Bool := isSpaceCode c.toNat

/-- The characters without spaces at the end. -/
def trimEnd (cs : List Char) : List Char := (cs.reverse.dropWhile isSpace).reverse

/-- The characters without spaces at both ends. -/
def trimSpace (cs : List Char) : List Char := trimEnd (cs.dropWhile isSpace)

end RecordSearch.Text
