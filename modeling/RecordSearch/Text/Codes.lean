import RecordSearch.Text.Blank

namespace RecordSearch.Text

/-!
# Texts by their code points

A text can be given by its code points, where beside characters surrogates can stand alone. Texts
that are taken apart before they are known to have none are given so.

* `codes`: the code points of a text;
* `areText`, `ofCodes`: the text with code points, which are those of any text (`ofCodes_codes`);
* `withoutMark`: a text without the mark at its start.
-/

/-- The code points of a text. -/
def codes (s : String) : List Nat := s.toList.map Char.toNat

/-- Are the code points those of a text? -/
def areText (codes : List Nat) : Bool := codes.all fun c => decide c.isValidChar

/-- The text with the given code points. A surrogate that stands alone has no character and is
    replaced. -/
def ofCodes (codes : List Nat) : String :=
  String.ofList (codes.map fun c => if c.isValidChar then Char.ofNat c else Char.ofNat 0xFFFD)

theorem areText_codes (s : String) : areText (codes s) = true := by
  rw [areText, List.all_eq_true]
  intro code hcode
  obtain ⟨c, -, rfl⟩ := List.mem_map.1 hcode
  exact decide_eq_true c.valid

theorem ofCodes_codes (s : String) : ofCodes (codes s) = s := by
  have hchar : ∀ c ∈ s.toList, ((fun code => if code.isValidChar then Char.ofNat code
      else Char.ofNat 0xFFFD) ∘ Char.toNat) c = id c := by
    intro c _
    have hvalid : c.toNat.isValidChar := c.valid
    rw [Function.comp_apply, if_pos hvalid, Char.ofNat_toNat, id]
  rw [ofCodes, codes, List.map_map, List.map_congr_left hchar, List.map_id, String.ofList_toList]

/-- The code points without a mark of the order of bytes in front. -/
def withoutMark : List Nat → List Nat
  | 0xFEFF :: codes => codes
  | codes => codes

/-- The code points without spaces at the end. -/
def trimEndCodes (codes : List Nat) : List Nat := (codes.reverse.dropWhile isSpaceCode).reverse

end RecordSearch.Text
