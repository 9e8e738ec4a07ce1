import Mathlib.Data.List.TakeWhile
import RecordSearch.Json.Reader

namespace RecordSearch.Json

/-!
# Spaces, words and numbers of JSON texts

The parts of a JSON text that are no string literals and hold no other values. A number is read as
far as it goes, so what comes after it must not go on with it.

* `IsSpaces`: what may stand between the parts of a text;
* `words`: the values that are written as words;
* `IsNumber`: numbers, by their sign, their digits, their fraction and their power of ten;
* `EndsPart`: what may come after a number.

`readNumber_append` and `exists_number_of_readNumber` say that numbers are what is read.
-/

/-! ### Spaces -/

/-- The four spaces. -/
def spaceSigns : List Char := [' ', '\t', '\n', '\r']

/-- A row of spaces. -/
def IsSpaces (cs : List Char) : Prop := ∀ c ∈ cs, c ∈ spaceSigns

/-- The spaces are those that are skipped. -/
theorem isSpace_iff {c : Char} : isSpace c = true ↔ c ∈ spaceSigns := by
  simp [isSpace, spaceSigns, or_assoc]

/-- A text is what is left of it without the spaces at its start, after these. -/
theorem exists_spaces (cs : List Char) :
    ∃ spaces, IsSpaces spaces ∧ cs = spaces ++ skipSpace cs := by
  refine ⟨cs.takeWhile isSpace, fun c hc => ?_, List.takeWhile_append_dropWhile.symm⟩
  exact isSpace_iff.1 (List.mem_takeWhile_imp hc)

/-- Spaces are skipped. -/
theorem skipSpace_append {spaces : List Char} (h : IsSpaces spaces) (cs : List Char) :
    skipSpace (spaces ++ cs) = skipSpace cs :=
  List.dropWhile_append_of_pos fun c hc => isSpace_iff.2 (h c hc)

/-- A text that does not start with a space is left as it is. -/
theorem skipSpace_cons {c : Char} (h : c ∉ spaceSigns) (cs : List Char) :
    skipSpace (c :: cs) = c :: cs :=
  List.dropWhile_cons_of_neg fun hspace => h (isSpace_iff.1 hspace)

/-! ### Words -/

/-- The values that are written as words. -/
def words : List (List Char × Value) :=
  [(['n', 'u', 'l', 'l'], .null), (['t', 'r', 'u', 'e'], .bool true),
    (['f', 'a', 'l', 's', 'e'], .bool false), (['N', 'a', 'N'], .float .nan),
    (['I', 'n', 'f', 'i', 'n', 'i', 't', 'y'], .float (.infinite false)),
    (['-', 'I', 'n', 'f', 'i', 'n', 'i', 't', 'y'], .float (.infinite true))]

/-- Words are read as their values. -/
theorem readWord?_append {word : List Char} {v : Value} (h : (word, v) ∈ words)
    (rest : List Char) : readWord? (word ++ rest) = some (v, rest) := by
  simp only [words, List.mem_cons, Prod.mk.injEq, List.not_mem_nil, or_false] at h
  rcases h with ⟨rfl, rfl⟩ | ⟨rfl, rfl⟩ | ⟨rfl, rfl⟩ | ⟨rfl, rfl⟩ | ⟨rfl, rfl⟩ | ⟨rfl, rfl⟩
  all_goals rfl

/-- What is read as a word is one. -/
theorem exists_word_of_readWord? {cs rest : List Char} {v : Value}
    (h : readWord? cs = some (v, rest)) : ∃ word, (word, v) ∈ words ∧ cs = word ++ rest := by
  unfold readWord? at h
  split at h <;> cases h
  · exact ⟨_, .head _, rfl⟩
  · exact ⟨_, .tail _ (.head _), rfl⟩
  · exact ⟨_, .tail _ (.tail _ (.head _)), rfl⟩
  · exact ⟨_, .tail _ (.tail _ (.tail _ (.head _))), rfl⟩
  · exact ⟨_, .tail _ (.tail _ (.tail _ (.tail _ (.head _)))), rfl⟩
  · exact ⟨_, .tail _ (.tail _ (.tail _ (.tail _ (.tail _ (.head _))))), rfl⟩

/-! ### Digits -/

/-- A row of digits, with at least one. -/
def IsDigits (ds : List Char) : Prop := ds ≠ [] ∧ ∀ d ∈ ds, d.isDigit = true

/-- The first character, if there is one, has a property. -/
def StartsWith (p : Char → Prop) (cs : List Char) : Prop := ∀ c, cs.head? = some c → p c

/-- A row of digits is read as far as it goes. -/
theorem spanDigits_append {ds rest : List Char} (hds : ∀ d ∈ ds, d.isDigit = true)
    (hrest : StartsWith (fun c => c.isDigit = false) rest) :
    Decimal.spanDigits (ds ++ rest) = (ds, rest) := by
  have hnone : rest.takeWhile Char.isDigit = [] ∧ rest.dropWhile Char.isDigit = rest := by
    cases rest with
    | nil => exact ⟨rfl, rfl⟩
    | cons c rest =>
      have hc : ¬ c.isDigit = true := by simp [hrest c rfl]
      exact ⟨List.takeWhile_cons_of_neg hc, List.dropWhile_cons_of_neg hc⟩
  rw [Decimal.spanDigits, List.takeWhile_append_of_pos hds, List.dropWhile_append_of_pos hds,
    hnone.1, hnone.2, List.append_nil]

/-- What is read as digits are digits. -/
theorem of_spanDigits_eq {cs ds rest : List Char} (h : Decimal.spanDigits cs = (ds, rest)) :
    cs = ds ++ rest ∧ ∀ d ∈ ds, d.isDigit = true := by
  cases h
  exact ⟨List.takeWhile_append_dropWhile.symm, fun d hd => List.mem_takeWhile_imp hd⟩

/-- The digits before the point: one zero, or digits that start with none. -/
inductive IsWhole : List Char → Prop where
  | zero : IsWhole ['0']
  | digits {ds : List Char} (h : IsDigits ds) (hzero : ds.head? ≠ some '0') : IsWhole ds

/-- The digits before the point are read. -/
theorem spanWhole_append {whole rest : List Char} (h : IsWhole whole)
    (hrest : StartsWith (fun c => c.isDigit = false) rest) :
    spanWhole (whole ++ rest) = (whole, rest) := by
  cases h with
  | zero => rfl
  | digits h hzero =>
    obtain ⟨hne, hdigits⟩ := h
    obtain ⟨d, ds, rfl⟩ := List.exists_cons_of_ne_nil hne
    have hd : d ≠ '0' := fun heq => hzero (by rw [heq]; rfl)
    rw [← spanDigits_append hdigits hrest, List.cons_append, spanWhole]
    intro rest heq
    exact hd (List.cons.inj heq).1

/-- What is read as the digits before the point are such digits, if there are any. -/
theorem of_spanWhole_eq {cs whole rest : List Char} (h : spanWhole cs = (whole, rest))
    (hne : whole ≠ []) : cs = whole ++ rest ∧ IsWhole whole := by
  unfold spanWhole at h
  split at h
  · cases h
    exact ⟨rfl, .zero⟩
  · rename_i hzero
    obtain ⟨rfl, hdigits⟩ := of_spanDigits_eq h
    refine ⟨rfl, .digits ⟨hne, hdigits⟩ fun hhead => ?_⟩
    obtain ⟨ds, rfl⟩ := List.head?_eq_some_iff.1 hhead
    exact hzero _ rfl

/-- A fraction: nothing, or a point with digits. -/
inductive IsFraction : List Char → Option (List Char) → Prop where
  | none : IsFraction [] none
  | some {ds : List Char} (h : IsDigits ds) : IsFraction ('.' :: ds) (some ds)

/-- A fraction is read, where what comes after it does not go on with it. -/
theorem spanFraction_append {text rest : List Char} {fraction : Option (List Char)}
    (h : IsFraction text fraction)
    (hrest : StartsWith (fun c => c.isDigit = false ∧ c ≠ '.') rest) :
    spanFraction (text ++ rest) = (fraction, rest) := by
  cases h with
  | none =>
    rw [List.nil_append]
    unfold spanFraction
    split
    · exact absurd rfl (hrest '.' rfl).2
    · rfl
  | @some ds h =>
    obtain ⟨hne, hdigits⟩ := h
    obtain ⟨d, ds, rfl⟩ := List.exists_cons_of_ne_nil hne
    rw [List.cons_append, spanFraction, spanDigits_append hdigits fun c hc => (hrest c hc).1]

/-- What is read as a fraction is one. -/
theorem of_spanFraction_eq {cs rest : List Char} {fraction : Option (List Char)}
    (h : spanFraction cs = (fraction, rest)) :
    ∃ text, cs = text ++ rest ∧ IsFraction text fraction := by
  unfold spanFraction at h
  split at h
  · split at h
    · cases h
      exact ⟨[], rfl, .none⟩
    · rename_i ds after hne hspan
      cases h
      obtain ⟨rfl, hdigits⟩ := of_spanDigits_eq hspan
      exact ⟨_, rfl, .some ⟨fun hnil => hne hnil, hdigits⟩⟩
  · cases h
    exact ⟨[], rfl, .none⟩

/-- A sign: nothing, or a minus. -/
inductive IsSign : List Char → Bool → Prop where
  | none : IsSign [] false
  | minus : IsSign ['-'] true

/-- A power of ten: nothing, or a letter, a sign that may also be a plus, and digits. -/
inductive IsPower : List Char → Option Int → Prop where
  | none : IsPower [] none
  | some {e : Char} {sign ds : List Char} {negative : Bool} (he : e = 'e' ∨ e = 'E')
      (hsign : IsSign sign negative ∨ sign = ['+'] ∧ negative = false) (h : IsDigits ds) :
      IsPower (e :: (sign ++ ds))
        (some (if negative then -(Decimal.ofDigits ds : Int) else Decimal.ofDigits ds))

/-- A letter without a sign after it is followed by the digits of a power, if by any. -/
theorem spanPower_bare {e : Char} {cs : List Char}
    (hcs : StartsWith (fun c => c ≠ '-' ∧ c ≠ '+') cs) :
    Decimal.spanPower (e :: cs) = if e = 'e' ∨ e = 'E' then
      match Decimal.spanDigits cs with
      | ([], _) => (none, e :: cs)
      | (ds, rest) => (some (Decimal.ofDigits ds : Int), rest)
    else (none, e :: cs) := by
  rw [Decimal.spanPower.eq_4]
  · rfl
  · rintro rest rfl
    exact (hcs '-' rfl).1 rfl
  · rintro rest rfl
    exact (hcs '+' rfl).2 rfl

/-- A power of ten is read, where what comes after it does not go on with it. -/
theorem spanPower_append {text rest : List Char} {power : Option Int} (h : IsPower text power)
    (hrest : StartsWith (fun c => c.isDigit = false ∧ c ≠ 'e' ∧ c ≠ 'E') rest) :
    Decimal.spanPower (text ++ rest) = (power, rest) := by
  cases h with
  | none =>
    cases rest with
    | nil => rfl
    | cons c rest =>
      -- Without a power the rest must not start like one.
      have hletter : ¬ (c = 'e' ∨ c = 'E') := not_or.2 (hrest c rfl).2
      change Decimal.spanPower (c :: rest) = (none, c :: rest)
      unfold Decimal.spanPower
      exact if_neg hletter
  | @some e sign ds negative he hsign h =>
    obtain ⟨hne, hdigits⟩ := h
    have hspan := spanDigits_append hdigits fun c hc => (hrest c hc).1
    obtain ⟨d, ds, rfl⟩ := List.exists_cons_of_ne_nil hne
    rcases hsign with hsign | ⟨rfl, rfl⟩
    · cases hsign with
      | none =>
        have hstart : StartsWith (fun c => c ≠ '-' ∧ c ≠ '+') (d :: ds ++ rest) := by
          rintro c hc
          obtain rfl := Option.some.inj hc
          have hd := hdigits d List.mem_cons_self
          constructor
          · rintro rfl
            cases hd
          · rintro rfl
            cases hd
        change Decimal.spanPower (e :: (d :: ds ++ rest)) = _
        rw [spanPower_bare hstart, if_pos he, hspan]
        rfl
      | minus =>
        change Decimal.spanPower (e :: '-' :: (d :: ds ++ rest)) = _
        rw [Decimal.spanPower, if_pos he, hspan]
    · change Decimal.spanPower (e :: '+' :: (d :: ds ++ rest)) = _
      rw [Decimal.spanPower, if_pos he, hspan]

/-- What is read as a power of ten is one. -/
theorem of_spanPower_eq {cs rest : List Char} {power : Option Int}
    (h : Decimal.spanPower cs = (power, rest)) :
    ∃ text, cs = text ++ rest ∧ IsPower text power := by
  unfold Decimal.spanPower at h
  split at h
  · cases h
    exact ⟨[], rfl, .none⟩
  · rename_i e cs
    split at h
    · rename_i he
      split at h
      rename_i negative unsigned hsign
      split at h
      · cases h
        exact ⟨[], rfl, .none⟩
      · rename_i ds after hne hspan
        cases h
        obtain ⟨rfl, hdigits⟩ := of_spanDigits_eq hspan
        have hds : IsDigits ds := ⟨fun hnil => hne hnil, hdigits⟩
        -- The sign of the power may be left out, or be a plus.
        split at hsign
        · cases hsign
          exact ⟨_, rfl, .some he (.inl .minus) hds⟩
        · cases hsign
          exact ⟨_, rfl, .some he (.inr ⟨rfl, rfl⟩) hds⟩
        · cases hsign
          exact ⟨_, rfl, .some he (.inl .none) hds⟩
    · cases h
      exact ⟨[], rfl, .none⟩

/-! ### Numbers -/

/-- The number with given parts: an integer, of which the digits are limited, unless it has a
    fraction or a power of ten. -/
def numberOf (negative : Bool) (whole : List Char) (fraction : Option (List Char))
    (power : Option Int) : Except Problem Value :=
  match fraction, power with
  | none, none =>
    if Decimal.digitLimit < whole.length then .error (.tooManyDigits whole.length)
    else .ok (.int (if negative then -(Decimal.ofDigits whole : Int) else Decimal.ofDigits whole))
  | _, _ =>
    .ok (.float (Decimal.Numeral.toBinary64
      ⟨whole, fraction.isSome, fraction.getD [], power⟩ negative))

/-- **A number**: a sign, digits, a fraction and a power of ten, of which only the digits must be
    there. -/
inductive IsNumber : List Char → Value → Prop where
  | intro {sign whole point exponent : List Char} {negative : Bool}
      {fraction : Option (List Char)} {power : Option Int} {v : Value}
      (hsign : IsSign sign negative) (hwhole : IsWhole whole)
      (hfraction : IsFraction point fraction) (hpower : IsPower exponent power)
      (hvalue : numberOf negative whole fraction power = .ok v) :
      IsNumber (sign ++ (whole ++ (point ++ exponent))) v

/-- After its sign a number is read part by part. -/
theorem readUnsigned_eq (negative : Bool) (cs : List Char) :
    readUnsigned negative cs =
      if (spanWhole cs).1.isEmpty then
        .error (.malformed .noValue (if negative then cs.length + 1 else cs.length))
      else
        let (fraction, rest) := spanFraction (spanWhole cs).2
        let (power, rest) := Decimal.spanPower rest
        (numberOf negative (spanWhole cs).1 fraction power).map fun v => (v, rest) := by
  rw [readUnsigned]
  dsimp only
  split
  · rfl
  · rcases spanFraction (spanWhole cs).2 with ⟨fraction, rest⟩
    dsimp only
    rcases Decimal.spanPower rest with ⟨power, rest⟩
    -- Only without a fraction and a power the number is an integer, with a limit to its digits.
    cases fraction with
    | some ds => rfl
    | none =>
      cases power with
      | some n => rfl
      | none =>
        dsimp only [numberOf]
        split <;> rfl

/-- What may come after a part: spaces, a comma and the closing signs. -/
def afterParts : List Char := spaceSigns ++ [',', ']', '\x7d']

/-- The text after a part ends it: it goes on with one of these signs, or not at all. -/
def EndsPart (rest : List Char) : Prop := StartsWith (fun c => c ∈ afterParts) rest

/-- What ends a part goes on with no number. -/
theorem EndsPart.startsWith {rest : List Char} (h : EndsPart rest) :
    StartsWith (fun c => c.isDigit = false ∧ c ≠ '.' ∧ c ≠ 'e' ∧ c ≠ 'E') rest := by
  have hsigns : ∀ sign ∈ afterParts,
      sign.isDigit = false ∧ sign ≠ '.' ∧ sign ≠ 'e' ∧ sign ≠ 'E' := by
    simp [afterParts, spaceSigns]
  exact fun c hc => hsigns c (h c hc)

/-- A number without its sign is read as its parts are. -/
theorem readUnsigned_append {whole point exponent rest : List Char}
    {fraction : Option (List Char)} {power : Option Int} (hwhole : IsWhole whole)
    (hfraction : IsFraction point fraction) (hpower : IsPower exponent power)
    (hrest : EndsPart rest) (negative : Bool) :
    readUnsigned negative (whole ++ (point ++ (exponent ++ rest))) =
      (numberOf negative whole fraction power).map fun v => (v, rest) := by
  have hends := hrest.startsWith
  -- Each part ends where the next one starts, or else at what ends the number.
  have hexponent : StartsWith (fun c => c.isDigit = false ∧ c ≠ '.') (exponent ++ rest) := by
    cases hpower with
    | none => exact fun c hc => ⟨(hends c hc).1, (hends c hc).2.1⟩
    | some he =>
      intro c hc
      obtain rfl := Option.some.inj hc
      rcases he with rfl | rfl <;> decide
  have hpoint : StartsWith (fun c => c.isDigit = false) (point ++ (exponent ++ rest)) := by
    cases hfraction with
    | none => exact fun c hc => (hexponent c hc).1
    | some =>
      intro c hc
      obtain rfl := Option.some.inj hc
      rfl
  have hne : ¬ whole.isEmpty = true := by
    rw [List.isEmpty_iff]
    cases hwhole with
    | zero => exact List.cons_ne_nil _ _
    | digits h => exact h.1
  rw [readUnsigned_eq, spanWhole_append hwhole hpoint, if_neg hne,
    spanFraction_append hfraction hexponent]
  dsimp only
  rw [spanPower_append hpower fun c hc => ⟨(hends c hc).1, (hends c hc).2.2⟩]

/-- The digits before the point start with a digit. -/
theorem IsWhole.exists_cons {whole : List Char} (h : IsWhole whole) :
    ∃ d ds, whole = d :: ds ∧ d.isDigit = true := by
  cases h with
  | zero => exact ⟨_, _, rfl, rfl⟩
  | digits h =>
    obtain ⟨hne, hdigits⟩ := h
    obtain ⟨d, ds, rfl⟩ := List.exists_cons_of_ne_nil hne
    exact ⟨d, ds, rfl, hdigits d List.mem_cons_self⟩

/-- A number starts with a digit, or with a minus and a digit. -/
theorem IsNumber.exists_cons {text : List Char} {v : Value} (h : IsNumber text v) :
    ∃ c cs, text = c :: cs ∧ (c.isDigit = true
      ∨ c = '-' ∧ ∃ d ds, cs = d :: ds ∧ d.isDigit = true) := by
  cases h with
  | intro hsign hwhole hfraction hpower hvalue =>
    obtain ⟨d, ds, rfl, hd⟩ := hwhole.exists_cons
    cases hsign with
    | none => exact ⟨_, _, rfl, .inl hd⟩
    | minus => exact ⟨_, _, rfl, .inr ⟨rfl, _, _, rfl, hd⟩⟩

/-- **Numbers are read**, where what comes after them ends them. -/
theorem readNumber_append {text rest : List Char} {v : Value} (h : IsNumber text v)
    (hrest : EndsPart rest) : readNumber (text ++ rest) = .ok (v, rest) := by
  cases h with
  | @intro sign whole point exponent negative fraction power _ hsign hwhole hfraction hpower
      hvalue =>
    have hread : readUnsigned negative (whole ++ (point ++ (exponent ++ rest)))
        = .ok (v, rest) := by
      rw [readUnsigned_append hwhole hfraction hpower hrest, hvalue]
      rfl
    simp only [List.append_assoc]
    -- Without a sign the first digit must not be read as one.
    cases hsign with
    | none =>
      obtain ⟨d, ds, rfl, hd⟩ := hwhole.exists_cons
      rw [List.nil_append, ← hread, List.cons_append, readNumber]
      · rintro cs heq
        obtain ⟨rfl, -⟩ := List.cons.inj heq
        cases hd
    | minus => exact hread

/-- What is read after a sign is a number with any sign that it is read for. -/
theorem exists_number_of_readUnsigned {negative : Bool} {cs rest : List Char} {v : Value}
    (h : readUnsigned negative cs = .ok (v, rest)) :
    ∃ text, cs = text ++ rest ∧ ∀ sign, IsSign sign negative → IsNumber (sign ++ text) v := by
  rw [readUnsigned_eq] at h
  -- The digits, the fraction and the power are cut off one after the other.
  rcases hspan : spanWhole cs with ⟨whole, left⟩
  rw [hspan] at h
  dsimp only at h
  by_cases hempty : whole.isEmpty = true
  · rw [if_pos hempty] at h
    cases h
  · rw [if_neg hempty] at h
    obtain ⟨rfl, hwhole⟩ := of_spanWhole_eq hspan fun hnil => hempty (List.isEmpty_iff.2 hnil)
    rcases hpoint : spanFraction left with ⟨fraction, afterPoint⟩
    rw [hpoint] at h
    dsimp only at h
    obtain ⟨point, rfl, hfraction⟩ := of_spanFraction_eq hpoint
    rcases hexponent : Decimal.spanPower afterPoint with ⟨power, after⟩
    rw [hexponent] at h
    dsimp only at h
    obtain ⟨exponent, rfl, hpower⟩ := of_spanPower_eq hexponent
    cases hvalue : numberOf negative whole fraction power with
    | error problem =>
      rw [hvalue] at h
      cases h
    | ok w =>
      rw [hvalue] at h
      cases h
      refine ⟨whole ++ (point ++ exponent), by simp only [List.append_assoc], ?_⟩
      exact fun sign hsign => .intro hsign hwhole hfraction hpower hvalue

/-- **What is read as a number is one.** -/
theorem exists_number_of_readNumber {cs rest : List Char} {v : Value}
    (h : readNumber cs = .ok (v, rest)) : ∃ text, cs = text ++ rest ∧ IsNumber text v := by
  unfold readNumber at h
  split at h
  · obtain ⟨text, rfl, hnumber⟩ := exists_number_of_readUnsigned h
    exact ⟨'-' :: text, rfl, hnumber ['-'] .minus⟩
  · obtain ⟨text, rfl, hnumber⟩ := exists_number_of_readUnsigned h
    exact ⟨text, rfl, hnumber [] .none⟩

/-- A text that is read as a number, with nothing left, is one. -/
theorem isNumber_of_readNumber {text : List Char} {v : Value} (h : readNumber text = .ok (v, [])) :
    IsNumber text v := by
  obtain ⟨read, heq, hnumber⟩ := exists_number_of_readNumber h
  rw [heq, List.append_nil]
  exact hnumber

end RecordSearch.Json
