import RecordSearch.Proofs.Json.Grammar
import RecordSearch.Proofs.Json.Keys
import RecordSearch.Value.Text

namespace RecordSearch

/-!
# What stands inside a JSON text

Each character of a string or a key is spelled by one character of the text at least, and the
quotation marks come to that. So all texts that a JSON text holds, however deep, are shorter than
it is. A value that is no text is never written like one either: its literal starts with no
quotation mark.

* `Value.Within`: a value of which all texts are shorter than a bound;
* `Denotes.mono`, `IsText.mono`: a text may hold what it holds with more levels too;
* `IsText.within`, `within_of_readCodes`: what a text holds is within its own length;
* `StartsQuoted`: a text that starts with a quotation mark, after spaces, like that of a string.

The two halves together tell a string from all that is inside it: what is inside is either shorter
than the string or not written with a quotation mark first.
-/

/-- **A value within a bound.** It is one that JSON texts hold, and all texts and keys in it have
    fewer characters than the bound. -/
inductive Value.Within (bound : Nat) : Value → Prop where
  | null : Within bound .null
  | bool (b : Bool) : Within bound (.bool b)
  | int (n : Int) : Within bound (.int n)
  | float (x : Binary64) : Within bound (.float x)
  | str {s : String} (h : s.length < bound) : Within bound (.str s)
  | broken {codes : List Nat} (h : codes.length < bound) : Within bound (.brokenStr codes)
  | list {vs : List Value} (h : ∀ v ∈ vs, v.Within bound) : Within bound (.list vs)
  | mapping {d : Document} (keys : ∀ e ∈ d, e.1.length < bound)
      (values : ∀ e ∈ d, e.2.Within bound) : Within bound (.mapping d)
  | brokenMapping {es : List (List Nat × Value)} (keys : ∀ e ∈ es, e.1.length < bound)
      (values : ∀ e ∈ es, e.2.Within bound) : Within bound (.brokenMapping es)

theorem Value.Within.mono {small large : Nat} (hle : small ≤ large) {v : Value}
    (h : v.Within small) : v.Within large := by
  induction h with
  | null => exact .null
  | bool b => exact .bool b
  | int n => exact .int n
  | float x => exact .float x
  | str h => exact .str (h.trans_le hle)
  | broken h => exact .broken (h.trans_le hle)
  | list _ ih => exact .list ih
  | mapping keys _ ih => exact .mapping (fun e he => (keys e he).trans_le hle) ih
  | brokenMapping keys _ ih => exact .brokenMapping (fun e he => (keys e he).trans_le hle) ih

/-- A text is within a bound if it has fewer code points. -/
theorem within_ofCodes {bound : Nat} {codes : List Nat} (h : codes.length < bound) :
    (Value.ofCodes codes).Within bound := by
  rw [Value.ofCodes]
  by_cases htext : Text.areText codes = true
  · rw [if_pos htext]
    refine .str ?_
    rw [Text.ofCodes, String.length_ofList, List.length_map]
    exact h
  · rw [if_neg htext]
    exact .broken h

namespace Json

/-! ### More levels -/

/-- A part may stand inside more levels. -/
theorem Denotes.mono {small large : Nat} (hle : small ≤ large) {text : List Char} {part : Part}
    (h : Denotes small text part) : Denotes large text part := by
  induction h generalizing large with
  | word h => exact .word h
  | number h => exact .number h
  | string h => exact .string h
  | lastItem _ hspaces ih => exact .lastItem (ih hle) hspaces
  | item _ hbefore hafter _ ih ihs => exact .item (ih hle) hbefore hafter (ihs hle)
  | lastEntry hkey hbefore hafter _ hspaces ih =>
    exact .lastEntry hkey hbefore hafter (ih hle) hspaces
  | entry hkey hbefore hafter _ hfirst hsecond _ ih ihs =>
    exact .entry hkey hbefore hafter (ih hle) hfirst hsecond (ihs hle)
  -- Only what has brackets takes a level, and needs its depth as a successor.
  | noItems hspaces =>
    obtain ⟨levels, rfl⟩ := Nat.exists_eq_add_of_le hle
    rw [Nat.add_right_comm]
    exact .noItems hspaces
  | noEntries hspaces =>
    obtain ⟨levels, rfl⟩ := Nat.exists_eq_add_of_le hle
    rw [Nat.add_right_comm]
    exact .noEntries hspaces
  | list hspaces _ ih =>
    obtain ⟨levels, rfl⟩ := Nat.exists_eq_add_of_le hle
    rw [Nat.add_right_comm]
    exact .list hspaces (ih (Nat.le_add_right _ _))
  | mapping hspaces _ ih =>
    obtain ⟨levels, rfl⟩ := Nat.exists_eq_add_of_le hle
    rw [Nat.add_right_comm]
    exact .mapping hspaces (ih (Nat.le_add_right _ _))

/-- A JSON text is one with more levels too. -/
theorem IsText.mono {small large : Nat} (hle : small ≤ large) {cs : List Char} {v : Value}
    (h : IsText small cs v) : IsText large cs v := by
  obtain ⟨before, text, after, hbefore, hdenotes, hafter, rfl⟩ := h
  exact ⟨before, text, after, hbefore, hdenotes.mono hle, hafter, rfl⟩

/-! ### Texts are longer than what they hold -/

/-- A code point is spelled by at least one character. -/
theorem SpellsCode.length_pos {text : List Char} {code : Nat} (h : SpellsCode text code) :
    0 < text.length := by
  have hunit : ∀ {text : List Char} {unit : Nat}, SpellsUnit text unit → 0 < text.length := by
    intro text unit h
    cases h <;> exact Nat.succ_pos _
  cases h with
  | unit h => exact hunit h
  | pair hfirst _ _ _ =>
    rw [List.length_append]
    have hpos := hunit hfirst
    omega

/-- A literal is no shorter than its code points are many. -/
theorem IsLiteral.length_le {text : List Char} {codes : List Nat} (h : IsLiteral text codes) :
    codes.length ≤ text.length := by
  obtain ⟨hspelled, -⟩ := h
  induction hspelled with
  | nil => exact Nat.le_refl _
  | cons hfirst _ ih =>
    have hpos := hfirst.length_pos
    rw [List.length_append, List.length_cons]
    omega

/-- A mapping is within a bound if its entries are. -/
theorem within_mappingOf {bound : Nat} {entries : List (List Nat × Value)}
    (hkeys : ∀ e ∈ entries, e.1.length < bound) (hvalues : ∀ e ∈ entries, e.2.Within bound) :
    (mappingOf entries).Within bound := by
  rw [mappingOf]
  by_cases htext : (entries.all fun e => Text.areText e.1) = true
  · rw [if_pos htext]
    have hown : ∀ e ∈ Document.ofEntries (entries.map fun e => (Text.ofCodes e.1, e.2)),
        ∃ own ∈ entries, (Text.ofCodes own.1, own.2) = e := by
      intro e he
      exact List.mem_map.1 (mem_of_mem_ofEntries he)
    refine .mapping (fun e he => ?_) fun e he => ?_
    · obtain ⟨own, hmem, rfl⟩ := hown e he
      dsimp only
      rw [Text.ofCodes, String.length_ofList, List.length_map]
      exact hkeys own hmem
    · obtain ⟨own, hmem, rfl⟩ := hown e he
      exact hvalues own hmem
  · rw [if_neg htext]
    -- With surrogates in the keys no entry is new either.
    have hmem : ∀ e ∈ entries.foldl (fun es e => insertEntry es e.1 e.2) [], e ∈ entries :=
      fun e he => (mem_foldl_insertEntry he).resolve_left List.not_mem_nil
    exact .brokenMapping (fun e he => hkeys e (hmem e he)) fun e he => hvalues e (hmem e he)

/-- A part of which all texts are shorter than a bound. -/
def Part.Within (bound : Nat) : Part → Prop
  | .value v => v.Within bound
  | .items vs => ∀ v ∈ vs, v.Within bound
  | .entries es => (∀ e ∈ es, e.1.length < bound) ∧ ∀ e ∈ es, e.2.Within bound

/-- A part stays within a larger bound. -/
theorem Part.Within.mono {small large : Nat} (hle : small ≤ large) {part : Part}
    (h : part.Within small) : part.Within large := by
  cases part with
  | value v => exact Value.Within.mono hle h
  | items vs => exact fun v hv => (h v hv).mono hle
  | entries es =>
    exact ⟨fun e he => (h.1 e he).trans_le hle, fun e he => (h.2 e he).mono hle⟩

/-- A number is within any bound. -/
theorem IsNumber.within {text : List Char} {v : Value} (h : IsNumber text v) (bound : Nat) :
    v.Within bound := by
  cases h with
  | intro _ _ _ _ hvalue =>
    unfold numberOf at hvalue
    split at hvalue
    · split at hvalue
      · cases hvalue
      · cases hvalue
        exact .int _
    · cases hvalue
      exact .float _

/-- A word stands for no text, so that its value is within any bound. -/
theorem within_of_word {text : List Char} {v : Value} (h : (text, v) ∈ words) (bound : Nat) :
    v.Within bound := by
  simp only [words, List.mem_cons, Prod.mk.injEq, List.not_mem_nil, or_false] at h
  rcases h with ⟨rfl, rfl⟩ | ⟨rfl, rfl⟩ | ⟨rfl, rfl⟩ | ⟨rfl, rfl⟩ | ⟨rfl, rfl⟩ | ⟨rfl, rfl⟩
  exacts [.null, .bool _, .bool _, .float _, .float _, .float _]

/-- **What a text stands for is within its length**: its parts are, by the texts that they stand
    in, and each string and each key is, by its quotation marks. -/
theorem Denotes.within {depth : Nat} {text : List Char} {part : Part}
    (h : Denotes depth text part) : part.Within text.length := by
  induction h with
  | word h => exact within_of_word h _
  | number h => exact h.within _
  | string h =>
    refine within_ofCodes ?_
    have hle := h.length_le
    simp only [List.length_cons, List.length_append]
    omega
  | noItems => exact .list nofun
  | list _ _ ih =>
    refine .list (Part.Within.mono ?_ ih)
    simp only [List.length_cons, List.length_append]
    omega
  | noEntries => exact .mapping nofun nofun
  -- A mapping keeps its keys and values, which are inside its text.
  | @mapping depth spaces text es _ _ ih =>
    have hle : text.length ≤ ('\x7b' :: (spaces ++ text)).length := by
      simp only [List.length_cons, List.length_append]
      omega
    obtain ⟨hkeys, hvalues⟩ := Part.Within.mono hle ih
    exact within_mappingOf hkeys hvalues
  | lastItem _ _ ih =>
    intro v hv
    obtain rfl := List.mem_singleton.1 hv
    refine Value.Within.mono ?_ ih
    simp only [List.length_append]
    omega
  | item _ _ _ _ ih ihs =>
    intro v hv
    rcases List.mem_cons.1 hv with rfl | hv
    · refine Value.Within.mono ?_ ih
      simp only [List.length_append]
      omega
    · refine Value.Within.mono ?_ (ihs v hv)
      simp only [List.length_append, List.length_cons]
      omega
  | lastEntry hkey _ _ _ _ ih =>
    have hle := hkey.length_le
    refine ⟨fun e he => ?_, fun e he => ?_⟩ <;> obtain rfl := List.mem_singleton.1 he
    · simp only [List.length_cons, List.length_append]
      omega
    · refine Value.Within.mono ?_ ih
      simp only [List.length_cons, List.length_append]
      omega
  | entry hkey _ _ _ _ _ _ ih ihs =>
    have hle := hkey.length_le
    refine ⟨fun e he => ?_, fun e he => ?_⟩ <;> rcases List.mem_cons.1 he with rfl | he
    · simp only [List.length_cons, List.length_append]
      omega
    · have hkeys := ihs.1 e he
      simp only [List.length_cons, List.length_append]
      omega
    · refine Value.Within.mono ?_ ih
      simp only [List.length_cons, List.length_append]
      omega
    · refine Value.Within.mono ?_ (ihs.2 e he)
      simp only [List.length_cons, List.length_append]
      omega

/-- What a JSON text holds is within its length. -/
theorem IsText.within {depth : Nat} {cs : List Char} {v : Value} (h : IsText depth cs v) :
    v.Within cs.length := by
  obtain ⟨before, text, after, -, hdenotes, -, rfl⟩ := h
  refine Value.Within.mono ?_ hdenotes.within
  simp only [List.length_append]
  omega

/-! ### Surrogates -/

theorem restoreAll_eq_map (block : Nat) (vs : List Value) :
    restoreAll block vs = vs.map (restore block) := by
  induction vs with
  | nil => rfl
  | cons v vs ih => rw [restoreAll, ih, List.map_cons]

theorem restoreEntries_eq_map (block : Nat) (es : List (String × Value)) :
    restoreEntries block es =
      es.map fun e => ((Text.codes e.1).map (replaced block), restore block e.2) := by
  induction es with
  | nil => rfl
  | cons e es ih => rw [restoreEntries, ih, List.map_cons]

theorem restoreBroken_eq_map (block : Nat) (es : List (List Nat × Value)) :
    restoreBroken block es = es.map fun e => (e.1.map (replaced block), restore block e.2) := by
  induction es with
  | nil => rfl
  | cons e es ih => rw [restoreBroken, ih, List.map_cons]

/-- Surrogates take the places of single characters, so that no text gets longer. -/
theorem within_restore {bound : Nat} (block : Nat) {v : Value} (h : v.Within bound) :
    (restore block v).Within bound := by
  induction h with
  | null => exact .null
  | bool b => exact .bool b
  | int n => exact .int n
  | float x => exact .float x
  | @str s h =>
    rw [restore]
    refine within_ofCodes ?_
    rw [List.length_map, Text.codes, List.length_map, String.length_toList]
    exact h
  | broken h =>
    rw [restore]
    exact within_ofCodes (by rwa [List.length_map])
  | list _ ih =>
    rw [restore, restoreAll_eq_map]
    exact .list (List.forall_mem_map.2 ih)
  | mapping keys _ ih =>
    rw [restore, restoreEntries_eq_map]
    refine within_mappingOf (List.forall_mem_map.2 fun e he => ?_) (List.forall_mem_map.2 ih)
    dsimp only
    rw [List.length_map, Text.codes, List.length_map, String.length_toList]
    exact keys e he
  | brokenMapping keys _ ih =>
    rw [restore, restoreBroken_eq_map]
    refine within_mappingOf (List.forall_mem_map.2 fun e he => ?_) (List.forall_mem_map.2 ih)
    dsimp only
    rw [List.length_map]
    exact keys e he

/-- What a text holds that is given by code points is within their number. -/
theorem within_of_readCodes {depth : Nat} {codes : List Nat} {v : Value}
    (h : readCodes depth codes = .ok v) : v.Within codes.length := by
  rw [readCodes] at h
  obtain ⟨w, hw, rfl⟩ := map_eq_ok_iff.1 h
  have hwithin := (readChars_eq_ok_iff.1 hw).within
  rw [List.length_map] at hwithin
  exact within_restore _ hwithin

end Json

/-! ### Literals -/

/-- **A text that starts with a quotation mark**, after spaces. -/
def StartsQuoted (text : String) : Prop := (Json.skipSpace text.toList).head? = some '"'

/-- There is a quotation mark in such a text. -/
theorem StartsQuoted.mem {text : String} (h : StartsQuoted text) : '"' ∈ text.toList :=
  (List.dropWhile_suffix _).subset (List.mem_of_head? h)

/-- The text of a string starts with a quotation mark. -/
theorem Json.IsText.startsQuoted {depth : Nat} {text : String} {v : Value}
    (h : Json.IsText depth text.toList v) (hcodes : v.codes? ≠ none) : StartsQuoted text := by
  obtain ⟨before, own, after, hbefore, hdenotes, -, heq⟩ := h
  obtain ⟨rest, rfl⟩ : ∃ rest, own = '"' :: rest := by
    generalize hpart : Json.Part.value v = part at hdenotes
    cases hdenotes with
    | string => exact ⟨_, rfl⟩
    | word h =>
      cases hpart
      simp only [Json.words, List.mem_cons, Prod.mk.injEq, List.not_mem_nil, or_false] at h
      rcases h with ⟨-, rfl⟩ | ⟨-, rfl⟩ | ⟨-, rfl⟩ | ⟨-, rfl⟩ | ⟨-, rfl⟩ | ⟨-, rfl⟩ <;>
        exact absurd rfl hcodes
    | number h =>
      cases hpart
      -- A number is within the bound zero, and no text is.
      cases h.within 0 with
      | str hshort => exact absurd hshort (Nat.not_lt_zero _)
      | broken hshort => exact absurd hshort (Nat.not_lt_zero _)
      | _ => exact absurd rfl hcodes
    | noItems | list | noEntries =>
      cases hpart
      exact absurd rfl hcodes
    | mapping =>
      cases hpart
      rw [Json.mappingOf] at hcodes
      split at hcodes <;> exact absurd rfl hcodes
    | _ => cases hpart
  rw [StartsQuoted, heq, List.cons_append, Json.skipSpace_append_sign hbefore (by decide)]
  rfl

/-- The digits of a number are no quotation marks. -/
theorem quote_not_mem_toDigits (n : Nat) : '"' ∉ Nat.toDigits 10 n := fun h =>
  absurd (Nat.isDigit_of_mem_toDigits (by decide) (by decide) h) (by decide)

/-- There is no quotation mark in the text of an integer. -/
theorem quote_not_mem_intText (n : Int) : '"' ∉ (toString n).toList := by
  cases n with
  | ofNat n =>
    show '"' ∉ n.repr.toList
    rw [Nat.toList_repr]
    exact quote_not_mem_toDigits n
  | negSucc n =>
    show '"' ∉ ("-" ++ (n + 1).repr).toList
    rw [String.toList_append, List.mem_append, Nat.toList_repr]
    exact not_or.2 ⟨by decide, quote_not_mem_toDigits _⟩

namespace Binary64

theorem quote_not_mem_zeros (count : Nat) : '"' ∉ (zeros count).toList := by
  rw [zeros, String.toList_ofList]
  intro h
  exact absurd (List.eq_of_mem_replicate h) (by decide)

/-- There is none in digits that are written out around the point. -/
theorem quote_not_mem_positional {digits : List Char} (h : '"' ∉ digits) (point : Int) :
    '"' ∉ (positional digits point).toList := by
  have htake : '"' ∉ digits.take point.toNat := fun hmem => h (List.mem_of_mem_take hmem)
  have hdrop : '"' ∉ digits.drop point.toNat := fun hmem => h (List.mem_of_mem_drop hmem)
  rw [positional]
  split
  · simp [quote_not_mem_zeros, h]
  · dsimp only
    split <;> simp [quote_not_mem_zeros, htake, hdrop]

/-- There is none in digits with an exponent. -/
theorem quote_not_mem_scientific (layout : DecimalLayout) {digits : List Char}
    (h : '"' ∉ digits) (power : Int) : '"' ∉ (scientific layout digits power).toList := by
  have hwritten : '"' ∉ (toString power.natAbs).toList := by
    show '"' ∉ power.natAbs.repr.toList
    rw [Nat.toList_repr]
    exact quote_not_mem_toDigits _
  have hsign : '"' ∉ (if power < 0 then "e-" else "e+" : String).toList := by
    split <;> decide
  unfold scientific
  dsimp only
  rw [String.toList_append, String.toList_append, String.toList_append]
  -- A sign, digits, zeros and the power: none of them has a quote.
  simp only [List.mem_append, not_or]
  refine ⟨⟨⟨?_, hsign⟩, quote_not_mem_zeros _⟩, hwritten⟩
  split
  · decide
  · simpa using h
  · simpa using h

/-- There is no quotation mark in the text of a number. -/
theorem quote_not_mem_text (layout : DecimalLayout) (x : Binary64) :
    '"' ∉ (x.text layout).toList := by
  cases x with
  | nan => exact (by decide : '"' ∉ "nan".toList)
  | infinite negative =>
    cases negative with
    | true => exact (by decide : '"' ∉ "-inf".toList)
    | false => exact (by decide : '"' ∉ "inf".toList)
  | finite negative m e =>
    have hsign : '"' ∉ (if negative then "-" else "" : String).toList := by
      cases negative <;> decide
    rw [text, String.toList_append, List.mem_append, magnitudeText]
    refine not_or.2 ⟨hsign, ?_⟩
    split
    · decide
    · dsimp only
      split
      · exact quote_not_mem_positional (quote_not_mem_toDigits _) _
      · exact quote_not_mem_scientific layout (quote_not_mem_toDigits _) _

end Binary64

/-- A text that starts with a sign of its own does not start with a quotation mark. -/
theorem not_startsQuoted_of_sign (sign : Char) (hspace : sign ∉ Json.spaceSigns)
    (hquote : sign ≠ '"') (rest : String) :
    ¬ StartsQuoted (String.ofList [sign] ++ rest) := by
  rw [StartsQuoted, String.toList_append, String.toList_ofList, List.cons_append,
    Json.skipSpace_cons hspace]
  intro h
  exact hquote (Option.some.inj h)

/-- **What is no text is not written like one**: its literal starts with no quotation mark. -/
theorem not_startsQuoted_literal {bound : Nat} {v : Value} (h : v.Within bound)
    (hcodes : v.codes? = none) : ¬ StartsQuoted v.literal := by
  -- Literals start with a letter or a bracket, and those of numbers have no quote at all.
  cases h with
  | null => exact not_startsQuoted_of_sign 'N' (by decide) (by decide) "one"
  | bool b =>
    cases b with
    | true => exact not_startsQuoted_of_sign 'T' (by decide) (by decide) "rue"
    | false => exact not_startsQuoted_of_sign 'F' (by decide) (by decide) "alse"
  | int n =>
    exact fun hstarts => quote_not_mem_intText n (by simpa [Value.literal] using hstarts.mem)
  | float x =>
    exact fun hstarts =>
      Binary64.quote_not_mem_text _ x (by simpa [Value.literal] using hstarts.mem)
  | list =>
    rw [Value.literal, String.append_assoc]
    exact not_startsQuoted_of_sign '[' (by decide) (by decide) _
  | mapping =>
    rw [Value.literal, String.append_assoc]
    exact not_startsQuoted_of_sign '\x7b' (by decide) (by decide) _
  | brokenMapping =>
    rw [Value.literal, String.append_assoc]
    exact not_startsQuoted_of_sign '\x7b' (by decide) (by decide) _
  | str => cases hcodes
  | broken => cases hcodes

end RecordSearch
