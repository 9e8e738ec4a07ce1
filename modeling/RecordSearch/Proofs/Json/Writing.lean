import RecordSearch.Json.Writer
import RecordSearch.Proofs.Json.Grammar

namespace RecordSearch.Json

/-!
# Written texts are read

What is written for a list of texts is a JSON text of it: each character inside a string literal
is spelled by itself, by a letter after a backslash or by four digits.

* `isLiteral_writeChar`: the inside of a written string literal;
* `isText_write_texts`: the written list.
-/

/-- The digit to the base sixteen that is written for a number. -/
theorem isHexDigit_digitChar {n : Nat} (h : n < 16) : IsHexDigit (Nat.digitChar n) n := by
  interval_cases n <;> exact .inl rfl

/-- Four digits that are written for a code unit spell it. -/
theorem spellsUnit_hexDigits {unit : Nat} (h : unit < 0x10000) :
    SpellsUnit ('\\' :: 'u' :: Text.hexDigits 4 unit) unit := by
  have hdigit : ∀ n, IsHexDigit (Nat.digitChar (n % 16)) (n % 16) := fun n =>
    isHexDigit_digitChar (Nat.mod_lt n (by decide))
  have hspells := SpellsUnit.digits (hdigit (unit / 16 / 16 / 16)) (hdigit (unit / 16 / 16))
    (hdigit (unit / 16)) (hdigit unit)
  have hvalue : ((unit / 16 / 16 / 16 % 16 * 16 + unit / 16 / 16 % 16) * 16 + unit / 16 % 16) * 16
      + unit % 16 = unit := by omega
  rw [hvalue] at hspells
  exact hspells

/-- What is written for a character spells it. -/
theorem spellsCode_writeChar (c : Char) : SpellsCode (writeChar c) c.toNat := by
  refine .unit ?_
  rw [writeChar]
  by_cases hquote : c = '"'
  · rw [if_pos hquote, hquote]
    exact .letter (by decide)
  · rw [if_neg hquote]
    by_cases hbackslash : c = '\\'
    · rw [if_pos hbackslash, hbackslash]
      exact .letter (by decide)
    · rw [if_neg hbackslash]
      by_cases hcontrol : c.toNat < 0x20
      · rw [if_pos hcontrol]
        exact spellsUnit_hexDigits (Nat.lt_trans hcontrol (by decide))
      · rw [if_neg hcontrol]
        exact .plain (Nat.not_lt.1 hcontrol) hquote hbackslash

/-- What is written between the quotes is the inside of a literal. -/
theorem isLiteral_writeChar (s : String) :
    IsLiteral (s.toList.flatMap writeChar) (Text.codes s) := by
  refine isLiteral_codes ?_
  rw [Text.codes]
  induction s.toList with
  | nil => exact .nil
  | cons c cs ih => exact .cons (spellsCode_writeChar c) ih

/-- The code points of a text are those of that text as a value. -/
theorem ofCodes_codes (s : String) : Value.ofCodes (Text.codes s) = .str s := by
  rw [Value.ofCodes, if_pos (Text.areText_codes s), Text.ofCodes_codes]

/-- A written text is a value of the grammar. -/
theorem denotes_writeString (depth : Nat) (s : String) :
    Denotes depth (writeString s).toList (.value (.str s)) := by
  rw [writeString, String.toList_ofList, ← ofCodes_codes]
  exact .string (isLiteral_writeChar s)

/-- Written texts with commas between them and a bracket at the end are items. -/
theorem denotes_intercalate (depth : Nat) (first : String) (rest : List String) :
    Denotes depth
      ([','].intercalate ((first :: rest).map fun s => (writeString s).toList) ++ [']'])
      (.items ((first :: rest).map .str)) := by
  have hnone : IsSpaces [] := nofun
  induction rest generalizing first with
  | nil =>
    have hlast := Denotes.lastItem (denotes_writeString depth first) hnone
    rw [List.nil_append] at hlast
    rw [List.map_cons, List.map_nil, List.intercalate_singleton]
    exact hlast
  | cons second rest ih =>
    have hitems := Denotes.item (denotes_writeString depth first) hnone hnone (ih second)
    simp only [List.map_cons, List.nil_append] at hitems ⊢
    rw [List.intercalate_cons_cons, List.append_assoc, List.append_assoc]
    exact hitems

/-- Texts are written one by one. -/
theorem writeAll_map_str (texts : List String) :
    writeAll (texts.map .str) = texts.map writeString := by
  induction texts with
  | nil => rfl
  | cons first texts ih => rw [List.map_cons, writeAll, ih, write, List.map_cons]

/-- **Written lists of texts.** What is written for a list of texts is a JSON text of it. -/
theorem isText_write_texts (depth : Nat) (texts : List String) :
    IsText (depth + 1) (write (.list (texts.map .str))).toList (.list (texts.map .str)) := by
  have hnone : IsSpaces [] := nofun
  have hwritten : (write (.list (texts.map .str))).toList
      = '[' :: ([','].intercalate (texts.map fun s => (writeString s).toList) ++ [']']) := by
    rw [write, writeAll_map_str]
    simp only [String.toList_append, String.toList_intercalate, List.map_map]
    rfl
  refine ⟨[], _, [], hnone, ?_, hnone, (List.append_nil _).symm⟩
  rw [hwritten]
  cases texts with
  | nil => exact .noItems hnone
  | cons first rest =>
    rw [← List.nil_append (List.intercalate _ _ ++ _)]
    exact .list hnone (denotes_intercalate depth first rest)

end RecordSearch.Json
