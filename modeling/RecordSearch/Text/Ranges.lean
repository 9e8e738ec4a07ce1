namespace RecordSearch.Text

/-!
# Ranges of code points

Classes of characters are tables of ranges, each given by its first and its last code point.
-/

/-- Does one of the ranges hold the code point? -/
def inRanges (ranges : List (Nat × Nat)) (code : Nat) : Bool :=
  ranges.any fun range => decide (range.1 ≤ code) && decide (code ≤ range.2)

end RecordSearch.Text
