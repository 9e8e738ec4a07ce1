import Mathlib.Data.List.Chain
import Mathlib.Tactic.IntervalCases
import RecordSearch.Json.Reader

namespace RecordSearch.Json

/-!
# String literals of JSON texts

The inside of a string literal is a row of spellings. A code point is spelled by a code unit, which
is a character, a letter after a backslash or four digits to the base sixteen, or else by a pair of
surrogates. Of two code points next to each other that would make such a pair there is no spelling,
since it is read as the pair.

* `Spelled`: a row of spellings, one after the other;
* `SpellsUnit`, `SpellsCode`: the spellings of code units and of code points;
* `IsLiteral`: what stands between the quotes, with its code points.

`readString_eq_ok_iff` says that these are what is read.
-/

/-! ### Rows of spellings -/

section

variable {α : Type} {spells : List Char → α → Prop}

/-- A text that is made of spellings, one for each member of a list. -/
inductive Spelled (spells : List Char → α → Prop) : List Char → List α → Prop where
  | nil : Spelled spells [] []
  | cons {text texts : List Char} {a : α} {as : List α} (hfirst : spells text a)
      (hrest : Spelled spells texts as) : Spelled spells (text ++ texts) (a :: as)

/-- A row is put in front of another. -/
theorem Spelled.append {text texts : List Char} {as bs : List α} (h : Spelled spells text as)
    (hs : Spelled spells texts bs) : Spelled spells (text ++ texts) (as ++ bs) := by
  induction h with
  | nil => exact hs
  | cons hfirst _ ih =>
    rw [List.append_assoc]
    exact .cons hfirst ih

/-- A row of one spelling. -/
theorem Spelled.singleton {text : List Char} {a : α} (h : spells text a) :
    Spelled spells text [a] := by
  simpa using Spelled.cons h .nil

end

/-! ### Code units -/

/-- A digit to the base sixteen, small or large, with its value. -/
def IsHexDigit (c : Char) (n : Nat) : Prop :=
  "0123456789abcdef".toList[n]? = some c ∨ "0123456789ABCDEF".toList[n]? = some c

/-- A digit has the value that is read. -/
theorem hexValue?_of_isHexDigit {c : Char} {n : Nat} (h : IsHexDigit c n) :
    hexValue? c = some n := by
  have hlt : n < 16 := by
    rcases h with h | h
    · exact (List.getElem?_eq_some_iff.1 h).1
    · exact (List.getElem?_eq_some_iff.1 h).1
  unfold IsHexDigit at h
  interval_cases n <;> rcases h with h | h <;> cases h <;> rfl

/-- A character of a range is so many places after its first. -/
theorem exists_eq_ofNat_add {first last c : Char} (hfirst : first ≤ c) (hlast : c ≤ last) :
    ∃ k, first.toNat + k ≤ last.toNat ∧ c = Char.ofNat (first.toNat + k) := by
  have hle : first.toNat ≤ c.toNat := hfirst
  have hge : c.toNat ≤ last.toNat := hlast
  refine ⟨c.toNat - first.toNat, by omega, ?_⟩
  rw [Nat.add_sub_cancel' hle, Char.ofNat_toNat]

/-- What is read as a digit is one. -/
theorem isHexDigit_of_hexValue? {c : Char} {n : Nat} (h : hexValue? c = some n) :
    IsHexDigit c n := by
  unfold hexValue? at h
  split at h
  · rename_i hdigit
    have hrange : '0' ≤ c ∧ c ≤ '9' := by simpa [Char.isDigit, Char.le_def] using hdigit
    obtain ⟨k, hk, rfl⟩ := exists_eq_ofNat_add hrange.1 hrange.2
    have hsmall : k ≤ 9 := Nat.le_of_add_le_add_left hk
    interval_cases k <;> cases h <;> exact .inl rfl
  · split at h
    · rename_i hletter
      obtain ⟨k, hk, rfl⟩ := exists_eq_ofNat_add hletter.1 hletter.2
      have hsmall : k ≤ 5 := Nat.le_of_add_le_add_left hk
      interval_cases k <;> cases h <;> exact .inl rfl
    · split at h
      · rename_i hletter
        obtain ⟨k, hk, rfl⟩ := exists_eq_ofNat_add hletter.1 hletter.2
        have hsmall : k ≤ 5 := Nat.le_of_add_le_add_left hk
        interval_cases k <;> cases h <;> exact .inr rfl
      · cases h

/-- Digits are read with their values. -/
theorem hexValue?_eq_some_iff {c : Char} {n : Nat} : hexValue? c = some n ↔ IsHexDigit c n :=
  ⟨isHexDigit_of_hexValue?, hexValue?_of_isHexDigit⟩

/-- Four digits are read with the number that they stand for. -/
theorem hexValue4?_eq_some_iff {a b c d : Char} {unit : Nat} :
    hexValue4? a b c d = some unit ↔ ∃ w x y z, IsHexDigit a w ∧ IsHexDigit b x ∧ IsHexDigit c y
      ∧ IsHexDigit d z ∧ unit = ((w * 16 + x) * 16 + y) * 16 + z := by
  simp only [hexValue4?, Option.bind_eq_bind, Option.bind_eq_some_iff, hexValue?_eq_some_iff,
    Option.pure_def, Option.some.injEq]
  constructor
  · rintro ⟨w, hw, x, hx, y, hy, z, hz, rfl⟩
    exact ⟨w, x, y, z, hw, hx, hy, hz, rfl⟩
  · rintro ⟨w, x, y, z, hw, hx, hy, hz, rfl⟩
    exact ⟨w, hw, x, hx, y, hy, z, hz, rfl⟩

/-- The characters after a backslash, with what they stand for. -/
def letterEscapes : List (Char × Char) :=
  [('"', '"'), ('\\', '\\'), ('/', '/'), ('b', Char.ofNat 0x08), ('f', Char.ofNat 0x0C),
    ('n', '\n'), ('r', '\r'), ('t', '\t')]

/-- The characters after a backslash are read as what they stand for. -/
theorem escape?_eq_some_iff {e c : Char} : escape? e = some c ↔ (e, c) ∈ letterEscapes := by
  constructor
  · intro h
    unfold escape? at h
    split at h <;> cases h <;> decide
  · intro h
    simp only [letterEscapes, List.mem_cons, Prod.mk.injEq, List.not_mem_nil, or_false] at h
    rcases h with ⟨rfl, rfl⟩ | ⟨rfl, rfl⟩ | ⟨rfl, rfl⟩ | ⟨rfl, rfl⟩ | ⟨rfl, rfl⟩ | ⟨rfl, rfl⟩
      | ⟨rfl, rfl⟩ | ⟨rfl, rfl⟩ <;> rfl

/-- **The spellings of a code unit**: as a character that is no control character, by a letter
    after a backslash, or by four digits to the base sixteen. -/
inductive SpellsUnit : List Char → Nat → Prop where
  | plain {c : Char} (hcontrol : 0x20 ≤ c.toNat) (hquote : c ≠ '"') (hbackslash : c ≠ '\\') :
      SpellsUnit [c] c.toNat
  | letter {e c : Char} (h : (e, c) ∈ letterEscapes) : SpellsUnit ['\\', e] c.toNat
  | digits {a b c d : Char} {w x y z : Nat} (ha : IsHexDigit a w) (hb : IsHexDigit b x)
      (hc : IsHexDigit c y) (hd : IsHexDigit d z) :
      SpellsUnit ['\\', 'u', a, b, c, d] (((w * 16 + x) * 16 + y) * 16 + z)

/-- A unit is read off the start of a literal, of which at least the closing quote is left. -/
theorem readUnits_append_cons {text : List Char} {unit : Nat} (h : SpellsUnit text unit)
    (c : Char) (cs : List Char) :
    readUnits (text ++ c :: cs) = inFront unit (readUnits (c :: cs)) := by
  cases h with
  | @plain e hcontrol hquote hbackslash =>
    have hnot : ¬ e.toNat < 0x20 := Nat.not_lt.2 hcontrol
    rw [List.singleton_append, readUnits.eq_def]
    split <;> simp_all
  -- The letter u stands for four digits, and so is no escape of its own.
  | @letter e d h =>
    have hu : e ≠ 'u' := by
      rintro rfl
      exact absurd (escape?_eq_some_iff.2 h) (by simp [escape?])
    rw [← escape?_eq_some_iff] at h
    simp only [List.cons_append, List.nil_append]
    rw [readUnits.eq_7 _ _ (fun _ _ _ _ _ heq _ => hu heq) hu, h]
  | @digits a b c' d w x y z ha hb hc hd =>
    have hread : hexValue4? a b c' d = some (((w * 16 + x) * 16 + y) * 16 + z) :=
      hexValue4?_eq_some_iff.2 ⟨w, x, y, z, ha, hb, hc, hd, rfl⟩
    simp only [List.cons_append, List.nil_append]
    rw [readUnits.eq_4 _ _ _ _ _ _ _ hread]

/-- A row of units is read up to the closing quote. -/
theorem readUnits_append_quote {text : List Char} {units : List Nat}
    (h : Spelled SpellsUnit text units) (rest : List Char) :
    readUnits (text ++ '"' :: rest) = .ok (units, rest) := by
  induction h with
  | nil => rw [List.nil_append, readUnits]
  | @cons text texts unit units hfirst hrest ih =>
    -- Whatever follows the first unit, there is at least the quote.
    obtain ⟨c, cs, hcons⟩ : ∃ c cs, texts ++ '"' :: rest = c :: cs := by
      cases texts with
      | nil => exact ⟨_, _, rfl⟩
      | cons c cs => exact ⟨_, _, rfl⟩
    rw [List.append_assoc, hcons, readUnits_append_cons hfirst, ← hcons, ih]
    rfl

/-- A reading with a unit in front comes from one without. -/
theorem inFront_eq_ok {unit : Nat} {reading : Except Problem (List Nat × List Char)}
    {units : List Nat} {rest : List Char} (h : inFront unit reading = .ok (units, rest)) :
    ∃ others, reading = .ok (others, rest) ∧ units = unit :: others := by
  cases reading with
  | error problem => cases h
  | ok reading =>
    obtain ⟨others, left⟩ := reading
    cases h
    exact ⟨others, rfl, rfl⟩

/-- A unit is put in front of a row of units that is read. -/
theorem exists_text_of_inFront {first cs rest : List Char} {unit : Nat} {units : List Nat}
    (hfirst : SpellsUnit first unit)
    (hcs : ∀ units, readUnits cs = .ok (units, rest) →
      ∃ text, cs = text ++ '"' :: rest ∧ Spelled SpellsUnit text units)
    (h : inFront unit (readUnits cs) = .ok (units, rest)) :
    ∃ text, first ++ cs = text ++ '"' :: rest ∧ Spelled SpellsUnit text units := by
  obtain ⟨others, hothers, rfl⟩ := inFront_eq_ok h
  obtain ⟨text, rfl, hspelled⟩ := hcs others hothers
  exact ⟨first ++ text, (List.append_assoc _ _ _).symm, .cons hfirst hspelled⟩

/-- What is read up to the closing quote is a row of units. -/
theorem spelled_of_readUnits {cs rest : List Char} {units : List Nat}
    (h : readUnits cs = .ok (units, rest)) :
    ∃ text, cs = text ++ '"' :: rest ∧ Spelled SpellsUnit text units := by
  -- Along the calls of the reader: one unit after the other, each by its own spelling.
  induction cs using readUnits.induct generalizing units with
  | case1 => cases h
  | case2 => cases h
  | case3 cs =>
    rw [readUnits] at h
    cases h
    exact ⟨[], rfl, .nil⟩
  | case4 a b c d unit head tail hunit ih =>
    rw [readUnits.eq_4 _ _ _ _ _ _ _ hunit] at h
    obtain ⟨w, x, y, z, ha, hb, hc, hd, rfl⟩ := hexValue4?_eq_some_iff.1 hunit
    exact exists_text_of_inFront (.digits ha hb hc hd) (fun units => ih) h
  | case5 a b c d cs hno =>
    rw [readUnits.eq_5 _ _ _ _ _ hno] at h
    cases h
  | case6 cs hno =>
    rw [readUnits.eq_6 _ hno] at h
    cases h
  | case7 e cs hno hu c hescape ih =>
    rw [readUnits.eq_7 _ _ hno hu, hescape] at h
    exact exists_text_of_inFront (.letter (escape?_eq_some_iff.1 hescape)) (fun units => ih) h
  | case8 e cs hno hu hescape =>
    rw [readUnits.eq_7 _ _ hno hu, hescape] at h
    cases h
  | case9 c cs hlast hquote hdigits hu hletter hcontrol =>
    rw [readUnits.eq_8 _ _ hlast hquote hdigits hu hletter, if_pos hcontrol] at h
    cases h
  | case10 c cs hlast hquote hdigits hu hletter hcontrol ih =>
    rw [readUnits.eq_8 _ _ hlast hquote hdigits hu hletter, if_neg hcontrol] at h
    have hbackslash : c ≠ '\\' := by
      intro heq
      cases cs with
      | nil => exact hlast heq rfl
      | cons e cs => exact hletter e cs heq rfl
    have hplain := SpellsUnit.plain (Nat.not_lt.1 hcontrol) hquote hbackslash
    exact exists_text_of_inFront hplain (fun units => ih) h

/-! ### Code points -/

/-- **The spellings of a code point**: as a code unit, or as a pair of surrogates. -/
inductive SpellsCode : List Char → Nat → Prop where
  | unit {text : List Char} {code : Nat} (h : SpellsUnit text code) : SpellsCode text code
  | pair {first second : List Char} {high low : Nat} (hfirst : SpellsUnit first high)
      (hsecond : SpellsUnit second low) (hhigh : isHighSurrogate high = true)
      (hlow : isLowSurrogate low = true) :
      SpellsCode (first ++ second) (0x10000 + (high - 0xD800) * 0x400 + (low - 0xDC00))

/-- Two code points that would be read as a pair of surrogates. -/
def ArePair (high low : Nat) : Prop := isHighSurrogate high = true ∧ isLowSurrogate low = true

/-- **The inside of a string literal**, with its code points. No two of them are a pair of
    surrogates, since that would be one code point. -/
def IsLiteral (text : List Char) (codes : List Nat) : Prop :=
  Spelled SpellsCode text codes ∧ codes.IsChain fun a b => ¬ ArePair a b

/-- The second half of a pair is no first half of one. -/
theorem not_isHighSurrogate_of_low {unit : Nat} (h : isLowSurrogate unit = true) :
    ¬ isHighSurrogate unit = true := by
  simp only [isLowSurrogate, isHighSurrogate, Bool.and_eq_true, decide_eq_true_eq] at h ⊢
  omega

/-- Joining starts with the first unit, unless that is the first half of a pair. -/
theorem joinSurrogates_cons {unit : Nat} {units : List Nat}
    (h : ∀ low, units.head? = some low → ¬ ArePair unit low) :
    joinSurrogates (unit :: units) = unit :: joinSurrogates units := by
  cases units with
  | nil => rfl
  | cons low units =>
    have hpair : ¬ (isHighSurrogate unit && isLowSurrogate low) = true := by
      rw [Bool.and_eq_true]
      exact h low rfl
    rw [joinSurrogates, if_neg hpair]

/-- A code point that comes from a pair is no second half of one. -/
theorem isLowSurrogate_joined (high low : Nat) :
    isLowSurrogate (0x10000 + (high - 0xD800) * 0x400 + (low - 0xDC00)) = false := by
  simp only [isLowSurrogate, Bool.and_eq_false_iff, decide_eq_false_iff_not]
  omega

/-- A code point that comes from a pair is no first half of one. -/
theorem isHighSurrogate_joined (high low : Nat) :
    isHighSurrogate (0x10000 + (high - 0xD800) * 0x400 + (low - 0xDC00)) = false := by
  simp only [isHighSurrogate, Bool.and_eq_false_iff, decide_eq_false_iff_not]
  omega

/-- The first code point of joined units, if it is the second half of a pair, is the first unit. -/
theorem head?_joinSurrogates {units : List Nat} {low : Nat}
    (h : (joinSurrogates units).head? = some low) (hlow : isLowSurrogate low = true) :
    units.head? = some low := by
  cases units with
  | nil => exact h
  | cons unit units =>
    cases units with
    | nil => exact h
    | cons next units =>
      rw [joinSurrogates] at h
      split at h
      · obtain rfl := Option.some.inj h
        rw [isLowSurrogate_joined] at hlow
        exact absurd hlow Bool.false_ne_true
      · exact h

/-- A row of code units is the inside of a literal, with the code points that they join to. -/
theorem isLiteral_joinSurrogates {text : List Char} {units : List Nat}
    (h : Spelled SpellsUnit text units) : IsLiteral text (joinSurrogates units) := by
  induction units using joinSurrogates.induct generalizing text with
  | case1 high low units hpair ih =>
    rw [joinSurrogates, if_pos hpair]
    rw [Bool.and_eq_true] at hpair
    cases h with
    | cons hfirst hrest =>
      cases hrest with
      | cons hsecond hrest =>
        obtain ⟨hspelled, hchain⟩ := ih hrest
        rw [← List.append_assoc]
        refine ⟨.cons (.pair hfirst hsecond hpair.1 hpair.2) hspelled, hchain.cons ?_⟩
        rintro next - ⟨hhigh, -⟩
        rw [isHighSurrogate_joined] at hhigh
        exact Bool.false_ne_true hhigh
  | case2 high low units hpair ih =>
    rw [joinSurrogates, if_neg hpair]
    rw [Bool.and_eq_true] at hpair
    cases h with
    | cons hfirst hrest =>
      obtain ⟨hspelled, hchain⟩ := ih hrest
      refine ⟨.cons (.unit hfirst) hspelled, hchain.cons ?_⟩
      intro next hnext hboth
      -- The second half of a pair that comes next would be the unit `low` itself.
      obtain rfl := Option.some.inj (head?_joinSurrogates hnext hboth.2)
      exact hpair hboth
  | case3 units hshort =>
    cases h with
    | nil => exact ⟨.nil, .nil⟩
    | cons hfirst hrest =>
      cases hrest with
      | nil => exact ⟨.cons (.unit hfirst) .nil, .singleton _⟩
      | cons hsecond hrest => exact absurd rfl (hshort _ _ _)

/-- The inside of a literal is a row of code units that join to its code points. -/
theorem exists_units_of_isLiteral {text : List Char} {codes : List Nat}
    (h : IsLiteral text codes) :
    ∃ units, Spelled SpellsUnit text units ∧ joinSurrogates units = codes := by
  obtain ⟨hspelled, hchain⟩ := h
  induction hspelled with
  | nil => exact ⟨[], .nil, rfl⟩
  | @cons first texts code codes hfirst hrest ih =>
    obtain ⟨units, hunits, rfl⟩ := ih hchain.of_cons
    cases hfirst with
    | unit hunit =>
      refine ⟨code :: units, .cons hunit hunits, joinSurrogates_cons ?_⟩
      intro low hlow hpair
      -- The second half of a pair stays the first when units are joined.
      obtain ⟨others, rfl⟩ := List.head?_eq_some_iff.1 hlow
      have hkeeps : joinSurrogates (low :: others) = low :: joinSurrogates others :=
        joinSurrogates_cons fun next _ hboth => not_isHighSurrogate_of_low hpair.2 hboth.1
      rw [hkeeps] at hchain
      exact (List.isChain_cons_cons.1 hchain).1 hpair
    | @pair first second high low hhigh hlow hishigh hislow =>
      refine ⟨high :: low :: units, ?_, ?_⟩
      · rw [List.append_assoc]
        exact .cons hhigh (.cons hlow hunits)
      · rw [joinSurrogates, if_pos (by rw [hishigh, hislow]; rfl)]

/-- **String literals.** What is read up to the closing quote is the inside of a literal. -/
theorem readString_eq_ok_iff {cs rest : List Char} {codes : List Nat} :
    readString cs = .ok (codes, rest)
      ↔ ∃ text, cs = text ++ '"' :: rest ∧ IsLiteral text codes := by
  constructor
  · intro h
    unfold readString at h
    split at h
    · rename_i hunits
      cases h
      obtain ⟨text, rfl, hspelled⟩ := spelled_of_readUnits hunits
      exact ⟨text, rfl, isLiteral_joinSurrogates hspelled⟩
    · cases h
    · cases h
  · rintro ⟨text, rfl, hliteral⟩
    obtain ⟨units, hunits, rfl⟩ := exists_units_of_isLiteral hliteral
    rw [readString, readUnits_append_quote hunits]

/-! ### Texts -/

/-- The code points of a text are no surrogates, so that no two of them are a pair. -/
theorem isLiteral_codes {text : List Char} {s : String}
    (h : Spelled SpellsCode text (Text.codes s)) : IsLiteral text (Text.codes s) := by
  refine ⟨h, List.Pairwise.isChain (List.pairwise_iff_forall_sublist.2 ?_)⟩
  intro a b hsublist hpair
  have hmem : a ∈ Text.codes s := hsublist.subset List.mem_cons_self
  obtain ⟨c, -, rfl⟩ := List.mem_map.1 hmem
  obtain ⟨hhigh, -⟩ := hpair
  have hvalid : c.toNat.isValidChar := c.valid
  simp only [isHighSurrogate, Bool.and_eq_true, decide_eq_true_eq] at hhigh
  unfold Nat.isValidChar at hvalid
  omega

/-- The inside of a string literal is what is read up to the closing quote. -/
theorem isLiteral_of_readString {text : List Char} {codes : List Nat}
    (h : readString (text ++ ['"']) = .ok (codes, [])) : IsLiteral text codes := by
  obtain ⟨read, heq, hliteral⟩ := readString_eq_ok_iff.1 h
  rw [List.append_cancel_right heq]
  exact hliteral

end RecordSearch.Json
