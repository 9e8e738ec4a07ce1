import RecordSearch.Proofs.Json.Number
import RecordSearch.Proofs.Json.StringLiteral
import RecordSearch.Proofs.Traversal

namespace RecordSearch.Json

/-!
# The grammar of JSON texts

Which texts stand for a value is said here without reading them: by rules for words, numbers and
string literals, and for lists and mappings of values, with spaces between their parts. Beyond the
standard there are words for three numbers. Lists and mappings are inside each other at no more
than a given number of levels.

* `Part`: a value, or the items of a list or the entries of a mapping up to the closing sign;
* `Denotes`: the texts that stand for a part;
* `IsText`: the texts that stand for a value, with spaces around it.

`readChars_eq_ok_iff` says that these texts are the ones that are read, and as these values, so
that no text stands for two.
-/

/-- A part of a text: a value, or what comes after the opening sign of a list or a mapping. -/
inductive Part where
  | value (v : Value)
  | items (vs : List Value)
  | entries (es : List (List Nat × Value))

/-- **The grammar.** A text stands for a part with at most so many levels. The closing sign belongs
    to the items of a list and to the entries of a mapping. -/
inductive Denotes : (depth : Nat) → List Char → Part → Prop where
  | word {depth : Nat} {text : List Char} {v : Value} (h : (text, v) ∈ words) :
      Denotes depth text (.value v)
  | number {depth : Nat} {text : List Char} {v : Value} (h : IsNumber text v) :
      Denotes depth text (.value v)
  | string {depth : Nat} {text : List Char} {codes : List Nat} (h : IsLiteral text codes) :
      Denotes depth ('"' :: (text ++ ['"'])) (.value (Value.ofCodes codes))
  | noItems {depth : Nat} {spaces : List Char} (hspaces : IsSpaces spaces) :
      Denotes (depth + 1) ('[' :: (spaces ++ [']'])) (.value (.list []))
  | list {depth : Nat} {spaces text : List Char} {vs : List Value} (hspaces : IsSpaces spaces)
      (h : Denotes depth text (.items vs)) :
      Denotes (depth + 1) ('[' :: (spaces ++ text)) (.value (.list vs))
  | noEntries {depth : Nat} {spaces : List Char} (hspaces : IsSpaces spaces) :
      Denotes (depth + 1) ('\x7b' :: (spaces ++ ['\x7d'])) (.value (.mapping []))
  | mapping {depth : Nat} {spaces text : List Char} {es : List (List Nat × Value)}
      (hspaces : IsSpaces spaces) (h : Denotes depth text (.entries es)) :
      Denotes (depth + 1) ('\x7b' :: (spaces ++ text)) (.value (mappingOf es))
  | lastItem {depth : Nat} {text spaces : List Char} {v : Value}
      (h : Denotes depth text (.value v)) (hspaces : IsSpaces spaces) :
      Denotes depth (text ++ (spaces ++ [']'])) (.items [v])
  | item {depth : Nat} {text before after texts : List Char} {v : Value} {vs : List Value}
      (h : Denotes depth text (.value v)) (hbefore : IsSpaces before) (hafter : IsSpaces after)
      (hs : Denotes depth texts (.items vs)) :
      Denotes depth (text ++ (before ++ ',' :: (after ++ texts))) (.items (v :: vs))
  | lastEntry {depth : Nat} {key before after text spaces : List Char} {codes : List Nat}
      {v : Value} (hkey : IsLiteral key codes) (hbefore : IsSpaces before)
      (hafter : IsSpaces after) (h : Denotes depth text (.value v)) (hspaces : IsSpaces spaces) :
      Denotes depth ('"' :: (key ++ '"' :: (before ++ ':' :: (after ++ (text ++
        (spaces ++ ['\x7d'])))))) (.entries [(codes, v)])
  | entry {depth : Nat} {key before after text first second texts : List Char} {codes : List Nat}
      {v : Value} {es : List (List Nat × Value)} (hkey : IsLiteral key codes)
      (hbefore : IsSpaces before) (hafter : IsSpaces after) (h : Denotes depth text (.value v))
      (hfirst : IsSpaces first) (hsecond : IsSpaces second)
      (hs : Denotes depth texts (.entries es)) :
      Denotes depth ('"' :: (key ++ '"' :: (before ++ ':' :: (after ++ (text ++
        (first ++ ',' :: (second ++ texts))))))) (.entries ((codes, v) :: es))

/-- **A JSON text** of a value with at most so many levels: the value with spaces around it. -/
def IsText (depth : Nat) (cs : List Char) (v : Value) : Prop :=
  ∃ before text after, IsSpaces before ∧ Denotes depth text (.value v) ∧ IsSpaces after
    ∧ cs = before ++ (text ++ after)

/-! ### The start of a part -/

/-- What strings, lists and mappings start with. -/
def openingSigns : List Char := ['"', '[', '\x7b']

/-- A word is not empty, and starts with no sign. -/
theorem exists_cons_of_word {text : List Char} {v : Value} (h : (text, v) ∈ words) :
    ∃ c cs, text = c :: cs ∧ c ∉ openingSigns ∧ c ∉ afterParts := by
  simp only [words, List.mem_cons, Prod.mk.injEq, List.not_mem_nil, or_false] at h
  rcases h with ⟨rfl, -⟩ | ⟨rfl, -⟩ | ⟨rfl, -⟩ | ⟨rfl, -⟩ | ⟨rfl, -⟩ | ⟨rfl, -⟩ <;>
    exact ⟨_, _, rfl, by decide, by decide⟩

/-- A number is not empty, and starts with none of these signs. -/
theorem exists_cons_of_number {text : List Char} {v : Value} (h : IsNumber text v) :
    ∃ c cs, text = c :: cs ∧ c ∉ openingSigns ∧ c ∉ afterParts := by
  obtain ⟨c, cs, rfl, hc⟩ := h.exists_cons
  have hsigns : ∀ sign ∈ openingSigns ++ afterParts, sign.isDigit = false ∧ sign ≠ '-' := by
    simp [openingSigns, afterParts, spaceSigns]
  have hnot : c ∉ openingSigns ++ afterParts := by
    intro hmem
    obtain ⟨hdigit, hminus⟩ := hsigns c hmem
    rcases hc with hc | ⟨hc, -⟩
    · rw [hc] at hdigit
      cases hdigit
    · exact hminus hc
  rw [List.mem_append, not_or] at hnot
  exact ⟨c, cs, rfl, hnot⟩

/-- Each part starts with a character that comes after none. -/
theorem Denotes.exists_cons {depth : Nat} {text : List Char} {part : Part}
    (h : Denotes depth text part) : ∃ c cs, text = c :: cs ∧ c ∉ afterParts := by
  induction h with
  | word h =>
    obtain ⟨c, cs, rfl, -, hc⟩ := exists_cons_of_word h
    exact ⟨c, cs, rfl, hc⟩
  | number h =>
    obtain ⟨c, cs, rfl, -, hc⟩ := exists_cons_of_number h
    exact ⟨c, cs, rfl, hc⟩
  -- Items come without their brackets, so they start as their first item does.
  | lastItem _ _ ih =>
    obtain ⟨c, cs, rfl, hc⟩ := ih
    exact ⟨c, _, rfl, hc⟩
  | item _ _ _ _ ih _ =>
    obtain ⟨c, cs, rfl, hc⟩ := ih
    exact ⟨c, _, rfl, hc⟩
  | string | noItems | list | noEntries | mapping | lastEntry | entry =>
    exact ⟨_, _, rfl, by decide⟩

/-- Spaces are skipped up to the part that comes after them. -/
theorem skipSpace_append_denotes {depth : Nat} {spaces text : List Char} {part : Part}
    (hspaces : IsSpaces spaces) (h : Denotes depth text part) (rest : List Char) :
    skipSpace (spaces ++ (text ++ rest)) = text ++ rest := by
  obtain ⟨c, cs, rfl, hc⟩ := h.exists_cons
  rw [skipSpace_append hspaces, List.cons_append, skipSpace_cons]
  intro hmem
  exact hc (List.mem_append_left _ hmem)

/-- Spaces are skipped up to a sign that comes after them. -/
theorem skipSpace_append_sign {spaces : List Char} (hspaces : IsSpaces spaces) {sign : Char}
    (hsign : sign ∉ spaceSigns) (rest : List Char) :
    skipSpace (spaces ++ sign :: rest) = sign :: rest := by
  rw [skipSpace_append hspaces, skipSpace_cons hsign]

/-- Spaces and a sign end a part. -/
theorem endsPart_append {spaces : List Char} (hspaces : IsSpaces spaces) {sign : Char}
    (hsign : sign ∈ afterParts) (rest : List Char) : EndsPart (spaces ++ sign :: rest) := by
  intro c hc
  cases spaces with
  | nil =>
    obtain rfl := Option.some.inj hc
    exact hsign
  | cons space spaces =>
    obtain rfl := Option.some.inj hc
    exact List.mem_append_left _ (hspaces _ List.mem_cons_self)

/-! ### Every text of the grammar is read -/

/-- A value that is no string, list or mapping is read as a word or as a number. -/
theorem readValue_scalar {c : Char} {cs : List Char} (hc : c ∉ openingSigns)
    (fuel depth : Nat) :
    readValue (fuel + 1) depth (c :: cs) =
      match readWord? (c :: cs) with
      | some reading => .ok reading
      | none => readNumber (c :: cs) := by
  simp only [openingSigns, List.mem_cons, List.not_mem_nil, or_false, not_or] at hc
  obtain ⟨hquote, hbracket, hbrace⟩ := hc
  exact readValue.eq_7 depth (c :: cs) fuel (fun _ heq => hquote (List.cons.inj heq).1)
    (fun _ _ heq => hbracket (List.cons.inj heq).1)
    (fun _ _ _ heq => hbracket (List.cons.inj heq).1)
    (fun _ _ heq => hbrace (List.cons.inj heq).1)
    (fun _ _ _ heq => hbrace (List.cons.inj heq).1)

/-- A word is read as its value. -/
theorem readValue_word {text : List Char} {v : Value} (h : (text, v) ∈ words)
    (rest : List Char) (fuel depth : Nat) :
    readValue (fuel + 1) depth (text ++ rest) = .ok (v, rest) := by
  have hword := readWord?_append h rest
  obtain ⟨c, cs, rfl, hc, -⟩ := exists_cons_of_word h
  rw [List.cons_append] at hword ⊢
  rw [readValue_scalar hc, hword]

/-- No word is read where a number stands. -/
theorem readWord?_append_number {text : List Char} {v : Value} (h : IsNumber text v)
    (rest : List Char) : readWord? (text ++ rest) = none := by
  obtain ⟨c, cs, rfl, hc⟩ := h.exists_cons
  cases hword : readWord? (c :: cs ++ rest) with
  | none => rfl
  | some reading =>
    obtain ⟨w, left⟩ := reading
    obtain ⟨word, hmem, heq⟩ := exists_word_of_readWord? hword
    -- A word starts with a letter, or with a minus and a letter.
    simp only [words, List.mem_cons, Prod.mk.injEq, List.not_mem_nil, or_false] at hmem
    rcases hmem with ⟨rfl, -⟩ | ⟨rfl, -⟩ | ⟨rfl, -⟩ | ⟨rfl, -⟩ | ⟨rfl, -⟩ | ⟨rfl, -⟩ <;>
      obtain ⟨rfl, htail⟩ := List.cons.inj heq <;>
      rcases hc with hc | ⟨hminus, d, ds, rfl, hd⟩
    all_goals first | cases hc | cases hminus
    obtain ⟨rfl, -⟩ := List.cons.inj htail
    cases hd

/-- A number is read as its value, where what comes after it ends it. -/
theorem readValue_number {text rest : List Char} {v : Value} (h : IsNumber text v)
    (hrest : EndsPart rest) (fuel depth : Nat) :
    readValue (fuel + 1) depth (text ++ rest) = .ok (v, rest) := by
  have hword := readWord?_append_number h rest
  have hread := readNumber_append h hrest
  obtain ⟨c, cs, rfl, hc, -⟩ := exists_cons_of_number h
  rw [List.cons_append] at hword hread ⊢
  rw [readValue_scalar hc, hword]
  exact hread

/-- A string is read as its value. -/
theorem readValue_string {text : List Char} {codes : List Nat} (h : IsLiteral text codes)
    (rest : List Char) (fuel depth : Nat) :
    readValue (fuel + 1) depth ('"' :: (text ++ '"' :: rest))
      = .ok (Value.ofCodes codes, rest) := by
  rw [readValue, readString_eq_ok_iff.2 ⟨text, rfl, h⟩]
  rfl

/-- A list without items is read. -/
theorem readValue_noItems {spaces : List Char} (h : IsSpaces spaces) (rest : List Char)
    (fuel depth : Nat) :
    readValue (fuel + 1) (depth + 1) ('[' :: (spaces ++ ']' :: rest)) = .ok (.list [], rest) := by
  rw [readValue, skipSpace_append_sign h (by decide)]
  rfl

/-- A list is read if its items are. -/
theorem readValue_list {fuel depth : Nat} {spaces text rest : List Char} {vs : List Value}
    (hspaces : IsSpaces spaces) (h : Denotes depth text (.items vs))
    (hread : readItems fuel depth (text ++ rest) = .ok (vs, rest)) :
    readValue (fuel + 1) (depth + 1) ('[' :: (spaces ++ (text ++ rest)))
      = .ok (.list vs, rest) := by
  rw [readValue, skipSpace_append_denotes hspaces h]
  split
  · rename_i left heq
    obtain ⟨c, cs, rfl, hc⟩ := h.exists_cons
    obtain ⟨rfl, -⟩ := List.cons.inj heq
    exact absurd (by decide) hc
  · rw [hread]
    rfl

/-- A mapping without entries is read. -/
theorem readValue_noEntries {spaces : List Char} (h : IsSpaces spaces) (rest : List Char)
    (fuel depth : Nat) :
    readValue (fuel + 1) (depth + 1) ('\x7b' :: (spaces ++ '\x7d' :: rest))
      = .ok (.mapping [], rest) := by
  rw [readValue, skipSpace_append_sign h (by decide)]
  rfl

/-- A mapping is read if its entries are. -/
theorem readValue_mapping {fuel depth : Nat} {spaces text rest : List Char}
    {es : List (List Nat × Value)} (hspaces : IsSpaces spaces)
    (h : Denotes depth text (.entries es))
    (hread : readEntries fuel depth (text ++ rest) = .ok (es, rest)) :
    readValue (fuel + 1) (depth + 1) ('\x7b' :: (spaces ++ (text ++ rest)))
      = .ok (mappingOf es, rest) := by
  rw [readValue, skipSpace_append_denotes hspaces h]
  split
  · rename_i left heq
    obtain ⟨c, cs, rfl, hc⟩ := h.exists_cons
    obtain ⟨rfl, -⟩ := List.cons.inj heq
    exact absurd (by decide) hc
  · rw [hread]
    rfl

/-- The last item is followed by the closing bracket. -/
theorem readItems_last {fuel depth : Nat} {cs spaces rest : List Char} {v : Value}
    (hspaces : IsSpaces spaces)
    (h : readValue fuel depth cs = .ok (v, spaces ++ ']' :: rest)) :
    readItems (fuel + 1) depth cs = .ok ([v], rest) := by
  rw [readItems]
  refine bind_eq_ok_iff.2 ⟨_, h, ?_⟩
  dsimp only
  rw [skipSpace_append_sign hspaces (by decide)]
  rfl

/-- After any other item there is a comma, and more items. -/
theorem readItems_next {fuel depth : Nat} {cs before after texts rest : List Char} {v : Value}
    {vs : List Value} (hbefore : IsSpaces before) (hafter : IsSpaces after)
    (hs : Denotes depth texts (.items vs))
    (h : readValue fuel depth cs = .ok (v, before ++ ',' :: (after ++ (texts ++ rest))))
    (hread : readItems fuel depth (texts ++ rest) = .ok (vs, rest)) :
    readItems (fuel + 1) depth cs = .ok (v :: vs, rest) := by
  rw [readItems]
  refine bind_eq_ok_iff.2 ⟨_, h, ?_⟩
  dsimp only
  rw [skipSpace_append_sign hbefore (by decide)]
  refine bind_eq_ok_iff.2 ⟨(vs, rest), ?_, rfl⟩
  rw [skipSpace_append_denotes hafter hs]
  exact hread

/-- The last entry is followed by the closing brace. -/
theorem readEntries_last {fuel depth : Nat} {key before after text spaces rest : List Char}
    {codes : List Nat} {v : Value} (hkey : IsLiteral key codes) (hbefore : IsSpaces before)
    (hafter : IsSpaces after) (hspaces : IsSpaces spaces) (h : Denotes depth text (.value v))
    (hread : readValue fuel depth (text ++ (spaces ++ '\x7d' :: rest))
      = .ok (v, spaces ++ '\x7d' :: rest)) :
    readEntries (fuel + 1) depth ('"' :: (key ++ '"' :: (before ++ ':' :: (after ++ (text ++
      (spaces ++ '\x7d' :: rest)))))) = .ok ([(codes, v)], rest) := by
  rw [readEntries]
  refine bind_eq_ok_iff.2 ⟨_, readString_eq_ok_iff.2 ⟨key, rfl, hkey⟩, ?_⟩
  dsimp only
  rw [skipSpace_append_sign hbefore (by decide)]
  refine bind_eq_ok_iff.2 ⟨(v, spaces ++ '\x7d' :: rest), ?_, ?_⟩
  · rw [skipSpace_append_denotes hafter h]
    exact hread
  · dsimp only
    rw [skipSpace_append_sign hspaces (by decide)]
    rfl

/-- After any other entry there is a comma, and more entries. -/
theorem readEntries_next {fuel depth : Nat}
    {key before after text first second texts rest : List Char} {codes : List Nat} {v : Value}
    {es : List (List Nat × Value)} (hkey : IsLiteral key codes) (hbefore : IsSpaces before)
    (hafter : IsSpaces after) (hfirst : IsSpaces first) (hsecond : IsSpaces second)
    (h : Denotes depth text (.value v)) (hs : Denotes depth texts (.entries es))
    (hread : readValue fuel depth (text ++ (first ++ ',' :: (second ++ (texts ++ rest))))
      = .ok (v, first ++ ',' :: (second ++ (texts ++ rest))))
    (hothers : readEntries fuel depth (texts ++ rest) = .ok (es, rest)) :
    readEntries (fuel + 1) depth ('"' :: (key ++ '"' :: (before ++ ':' :: (after ++ (text ++
      (first ++ ',' :: (second ++ (texts ++ rest)))))))) = .ok ((codes, v) :: es, rest) := by
  rw [readEntries]
  refine bind_eq_ok_iff.2 ⟨_, readString_eq_ok_iff.2 ⟨key, rfl, hkey⟩, ?_⟩
  dsimp only
  rw [skipSpace_append_sign hbefore (by decide)]
  refine bind_eq_ok_iff.2 ⟨(v, first ++ ',' :: (second ++ (texts ++ rest))), ?_, ?_⟩
  · rw [skipSpace_append_denotes hafter h]
    exact hread
  · dsimp only
    rw [skipSpace_append_sign hfirst (by decide)]
    refine bind_eq_ok_iff.2 ⟨(es, rest), ?_, rfl⟩
    rw [skipSpace_append_denotes hsecond hs]
    exact hothers

/-- A part is read off the start of a text, and the rest is left. -/
def Part.IsRead (fuel depth : Nat) (cs rest : List Char) : Part → Prop
  | .value v => EndsPart rest → readValue fuel depth cs = .ok (v, rest)
  | .items vs => readItems fuel depth cs = .ok (vs, rest)
  | .entries es => readEntries fuel depth cs = .ok (es, rest)

/-- After a first character there are calls for all others, and one more. -/
theorem exists_fuel_cons {c : Char} {cs : List Char} {fuel : Nat}
    (h : 2 * (c :: cs).length ≤ fuel) : ∃ n, fuel = n + 1 ∧ 2 * cs.length < n := by
  rw [List.length_cons] at h
  obtain ⟨n, rfl⟩ := Nat.exists_eq_add_one.2 (show 0 < fuel by omega)
  exact ⟨n, rfl, by omega⟩

/-- At the start of a part one call may be made for both it and what comes after it. -/
theorem Denotes.exists_fuel_append {depth : Nat} {text texts : List Char} {part : Part}
    {fuel : Nat} (h : Denotes depth text part) (hfuel : 2 * (text ++ texts).length ≤ fuel) :
    ∃ n, fuel = n + 1 ∧ 2 * text.length + 2 * texts.length ≤ n + 1 ∧ 2 * texts.length < n := by
  obtain ⟨c, cs, rfl, -⟩ := h.exists_cons
  obtain ⟨n, rfl, hn⟩ := exists_fuel_cons hfuel
  rw [List.length_append, List.length_cons] at hfuel
  exact ⟨n, rfl, by rw [List.length_cons]; omega, by omega⟩

/-- **Every text of the grammar is read.** With two calls for each character a part is read off
    the start of a text, whatever comes after it. -/
theorem Denotes.isRead {depth : Nat} {text : List Char} {part : Part}
    (h : Denotes depth text part) {fuel : Nat} (hfuel : 2 * text.length ≤ fuel)
    (rest : List Char) : part.IsRead fuel depth (text ++ rest) rest := by
  -- Along the rules of the grammar. What is inside a list or a mapping is shorter by its opening
  -- sign, and what comes after an item by the item, so that the calls are enough for both.
  induction h generalizing fuel rest with
  | word h =>
    intro _
    obtain ⟨c, cs, rfl, -⟩ := exists_cons_of_word h
    obtain ⟨n, rfl, -⟩ := exists_fuel_cons hfuel
    exact readValue_word h rest n _
  | number h =>
    intro hrest
    obtain ⟨c, cs, rfl, -⟩ := exists_cons_of_number h
    obtain ⟨n, rfl, -⟩ := exists_fuel_cons hfuel
    exact readValue_number h hrest n _
  | string h =>
    intro _
    obtain ⟨n, rfl, -⟩ := exists_fuel_cons hfuel
    simp only [List.cons_append, List.append_assoc, List.nil_append]
    exact readValue_string h rest n _
  | noItems hspaces =>
    intro _
    obtain ⟨n, rfl, -⟩ := exists_fuel_cons hfuel
    simp only [List.cons_append, List.append_assoc, List.nil_append]
    exact readValue_noItems hspaces rest n _
  | list hspaces h ih =>
    intro _
    obtain ⟨n, rfl, hn⟩ := exists_fuel_cons hfuel
    rw [List.length_append] at hn
    simp only [List.cons_append, List.append_assoc]
    exact readValue_list hspaces h (ih (by omega) rest)
  | noEntries hspaces =>
    intro _
    obtain ⟨n, rfl, -⟩ := exists_fuel_cons hfuel
    simp only [List.cons_append, List.append_assoc, List.nil_append]
    exact readValue_noEntries hspaces rest n _
  | mapping hspaces h ih =>
    intro _
    obtain ⟨n, rfl, hn⟩ := exists_fuel_cons hfuel
    rw [List.length_append] at hn
    simp only [List.cons_append, List.append_assoc]
    exact readValue_mapping hspaces h (ih (by omega) rest)
  | lastItem h hspaces ih =>
    obtain ⟨n, rfl, hn, hs⟩ := h.exists_fuel_append hfuel
    simp only [List.length_append, List.length_cons] at hn
    simp only [List.append_assoc, List.cons_append, List.nil_append]
    exact readItems_last hspaces (ih (by omega) _ (endsPart_append hspaces (by decide) rest))
  | item h hbefore hafter hs ih ihs =>
    obtain ⟨n, rfl, hn, htexts⟩ := h.exists_fuel_append hfuel
    simp only [List.length_append, List.length_cons] at hn htexts
    simp only [List.append_assoc, List.cons_append]
    exact readItems_next hbefore hafter hs
      (ih (by omega) _ (endsPart_append hbefore (by decide) _)) (ihs (by omega) rest)
  | lastEntry hkey hbefore hafter h hspaces ih =>
    obtain ⟨n, rfl, hn⟩ := exists_fuel_cons hfuel
    simp only [List.length_append, List.length_cons] at hn
    simp only [List.append_assoc, List.cons_append, List.nil_append]
    exact readEntries_last hkey hbefore hafter hspaces h
      (ih (by omega) _ (endsPart_append hspaces (by decide) rest))
  | entry hkey hbefore hafter h hfirst hsecond hs ih ihs =>
    obtain ⟨n, rfl, hn⟩ := exists_fuel_cons hfuel
    simp only [List.length_append, List.length_cons] at hn
    simp only [List.append_assoc, List.cons_append]
    exact readEntries_next hkey hbefore hafter hfirst hsecond h hs
      (ih (by omega) _ (endsPart_append hfirst (by decide) _)) (ihs (by omega) rest)

/-! ### Only texts of the grammar are read -/

/-- Whatever a reader takes off the start of a text stands for the part that it reads. -/
def ReadsParts {α : Type} (depth : Nat) (part : α → Part)
    (reader : List Char → Except Problem (α × List Char)) : Prop :=
  ∀ cs a rest, reader cs = .ok (a, rest) →
    ∃ text, cs = text ++ rest ∧ Denotes depth text (part a)

/-- Spaces, and what is left after them. -/
theorem exists_spaces_of_skipSpace {cs left : List Char} (h : skipSpace cs = left) :
    ∃ spaces, IsSpaces spaces ∧ cs = spaces ++ left := by
  obtain ⟨spaces, hspaces, heq⟩ := exists_spaces cs
  exact ⟨spaces, hspaces, h ▸ heq⟩

/-- A value is of the grammar if items and entries are, which have a level less. -/
theorem readsParts_readValue {fuel : Nat}
    (hitems : ∀ depth, ReadsParts depth .items (readItems fuel depth))
    (hentries : ∀ depth, ReadsParts depth .entries (readEntries fuel depth)) (depth : Nat) :
    ReadsParts depth .value (readValue (fuel + 1) depth) := by
  intro cs v rest h
  -- By the first character, in the order in which the reader tries them.
  unfold readValue at h
  split at h
  · contradiction
  · obtain ⟨⟨codes, left⟩, hread, h⟩ := bind_eq_ok_iff.1 h
    cases h
    obtain ⟨text, rfl, hliteral⟩ := readString_eq_ok_iff.1 hread
    exact ⟨_, by simp, .string hliteral⟩
  · cases h
  · rename_i hfuel
    cases hfuel
    split at h
    · rename_i left hskip
      cases h
      obtain ⟨spaces, hspaces, rfl⟩ := exists_spaces_of_skipSpace hskip
      exact ⟨_, by simp, .noItems hspaces⟩
    · obtain ⟨⟨items, left⟩, hread, h⟩ := bind_eq_ok_iff.1 h
      cases h
      obtain ⟨text, hskip, hdenotes⟩ := hitems _ _ _ _ hread
      obtain ⟨spaces, hspaces, rfl⟩ := exists_spaces_of_skipSpace hskip
      exact ⟨_, by simp, .list hspaces hdenotes⟩
  · cases h
  · rename_i hfuel
    cases hfuel
    split at h
    · rename_i left hskip
      cases h
      obtain ⟨spaces, hspaces, rfl⟩ := exists_spaces_of_skipSpace hskip
      exact ⟨_, by simp, .noEntries hspaces⟩
    · obtain ⟨⟨entries, left⟩, hread, h⟩ := bind_eq_ok_iff.1 h
      cases h
      obtain ⟨text, hskip, hdenotes⟩ := hentries _ _ _ _ hread
      obtain ⟨spaces, hspaces, rfl⟩ := exists_spaces_of_skipSpace hskip
      exact ⟨_, by simp, .mapping hspaces hdenotes⟩
  · split at h
    · rename_i reading hword
      cases h
      obtain ⟨word, hmem, rfl⟩ := exists_word_of_readWord? hword
      exact ⟨word, rfl, .word hmem⟩
    · obtain ⟨text, rfl, hnumber⟩ := exists_number_of_readNumber h
      exact ⟨text, rfl, .number hnumber⟩

/-- Items are of the grammar if values are, and items that come later. -/
theorem readsParts_readItems {fuel depth : Nat}
    (hvalue : ReadsParts depth .value (readValue fuel depth))
    (hitems : ReadsParts depth .items (readItems fuel depth)) :
    ReadsParts depth .items (readItems (fuel + 1) depth) := by
  intro cs vs rest h
  rw [readItems] at h
  obtain ⟨⟨v, left⟩, hread, hends⟩ := bind_eq_ok_iff.1 h
  obtain ⟨text, rfl, hdenotes⟩ := hvalue _ _ _ hread
  dsimp only at hends
  -- After an item there is the bracket, or a comma with more items, or a fault.
  split at hends
  · rename_i left hskip
    cases hends
    obtain ⟨spaces, hspaces, rfl⟩ := exists_spaces_of_skipSpace hskip
    exact ⟨_, by simp, .lastItem hdenotes hspaces⟩
  · rename_i left hskip
    obtain ⟨before, hbefore, rfl⟩ := exists_spaces_of_skipSpace hskip
    obtain ⟨⟨others, left⟩, hothers, hends⟩ := bind_eq_ok_iff.1 hends
    cases hends
    obtain ⟨texts, hskip, hmore⟩ := hitems _ _ _ hothers
    obtain ⟨after, hafter, rfl⟩ := exists_spaces_of_skipSpace hskip
    exact ⟨_, by simp, .item hdenotes hbefore hafter hmore⟩
  · cases hends

/-- Entries are of the grammar if values are, and entries that come later. -/
theorem readsParts_readEntries {fuel depth : Nat}
    (hvalue : ReadsParts depth .value (readValue fuel depth))
    (hentries : ReadsParts depth .entries (readEntries fuel depth)) :
    ReadsParts depth .entries (readEntries (fuel + 1) depth) := by
  intro cs es rest h
  unfold readEntries at h
  split at h
  · contradiction
  · rename_i hfuel
    cases hfuel
    obtain ⟨⟨codes, left⟩, hkey, hcolon⟩ := bind_eq_ok_iff.1 h
    obtain ⟨key, rfl, hliteral⟩ := readString_eq_ok_iff.1 hkey
    dsimp only at hcolon
    -- After a key there must be a colon and a value, and then the brace or a comma with more.
    split at hcolon
    · rename_i left hskip
      obtain ⟨before, hbefore, rfl⟩ := exists_spaces_of_skipSpace hskip
      obtain ⟨⟨v, left⟩, hread, hends⟩ := bind_eq_ok_iff.1 hcolon
      obtain ⟨text, hskip, hdenotes⟩ := hvalue _ _ _ hread
      obtain ⟨after, hafter, rfl⟩ := exists_spaces_of_skipSpace hskip
      dsimp only at hends
      split at hends
      · rename_i left hskip
        cases hends
        obtain ⟨spaces, hspaces, rfl⟩ := exists_spaces_of_skipSpace hskip
        exact ⟨_, by simp, .lastEntry hliteral hbefore hafter hdenotes hspaces⟩
      · rename_i left hskip
        obtain ⟨first, hfirst, rfl⟩ := exists_spaces_of_skipSpace hskip
        obtain ⟨⟨others, left⟩, hothers, hends⟩ := bind_eq_ok_iff.1 hends
        cases hends
        obtain ⟨texts, hskip, hmore⟩ := hentries _ _ _ hothers
        obtain ⟨second, hsecond, rfl⟩ := exists_spaces_of_skipSpace hskip
        exact ⟨_, by simp, .entry hliteral hbefore hafter hdenotes hfirst hsecond hmore⟩
      · cases hends
    · cases hcolon
  · cases h

/-- **Only texts of the grammar are read**, as values, as items and as entries. -/
theorem readsParts (fuel depth : Nat) :
    ReadsParts depth .value (readValue fuel depth)
      ∧ ReadsParts depth .items (readItems fuel depth)
      ∧ ReadsParts depth .entries (readEntries fuel depth) := by
  -- For all levels at once, because lists and mappings call for a level less.
  induction fuel generalizing depth with
  | zero =>
    refine ⟨?_, ?_, ?_⟩
    · intro cs v rest h
      rw [readValue] at h
      cases h
    · intro cs vs rest h
      rw [readItems] at h
      cases h
    · intro cs es rest h
      rw [readEntries] at h
      cases h
  | succ fuel ih =>
    obtain ⟨hvalue, hitems, hentries⟩ := ih depth
    refine ⟨?_, readsParts_readItems hvalue hitems, readsParts_readEntries hvalue hentries⟩
    exact readsParts_readValue (fun depth => (ih depth).2.1) (fun depth => (ih depth).2.2) depth

/-! ### Whole texts -/

/-- **The texts that are read.** A text is read as a value if and only if it is a JSON text of
    the value with at most so many levels. -/
theorem readChars_eq_ok_iff {depth : Nat} {cs : List Char} {v : Value} :
    readChars depth cs = .ok v ↔ IsText depth cs v := by
  constructor
  · intro h
    obtain ⟨⟨w, rest⟩, hread, h⟩ := bind_eq_ok_iff.1 h
    dsimp only at h
    split at h
    · rename_i hempty
      cases h
      obtain ⟨text, hskip, hdenotes⟩ := (readsParts _ depth).1 _ _ _ hread
      obtain ⟨before, hbefore, rfl⟩ := exists_spaces_of_skipSpace hskip
      obtain ⟨after, hafter, heq⟩ := exists_spaces rest
      rw [List.isEmpty_iff.1 hempty, List.append_nil] at heq
      exact ⟨before, text, after, hbefore, hdenotes, hafter, by rw [heq]⟩
    · cases h
  · rintro ⟨before, text, after, hbefore, hdenotes, hafter, rfl⟩
    -- The spaces at the end are what ends a number there.
    have hends : EndsPart after := by
      intro c hc
      obtain ⟨cs, rfl⟩ := List.head?_eq_some_iff.1 hc
      exact List.mem_append_left _ (hafter c List.mem_cons_self)
    have hfuel : 2 * text.length ≤ 2 * (before ++ (text ++ after)).length + 2 := by
      simp only [List.length_append]
      omega
    have hskip : skipSpace after = [] := by
      rw [← List.append_nil after, skipSpace_append hafter]
      rfl
    refine bind_eq_ok_iff.2 ⟨(v, after), ?_, ?_⟩
    · rw [skipSpace_append_denotes hbefore hdenotes]
      exact hdenotes.isRead hfuel after hends
    · dsimp only
      rw [hskip]
      rfl

/-- A text that goes on after the closing bracket of a list is refused. -/
theorem readChars_list_append {depth : Nat} {spaces text rest : List Char} {vs : List Value}
    (hspaces : IsSpaces spaces) (h : Denotes depth text (.items vs)) (hrest : skipSpace rest ≠ []) :
    readChars (depth + 1) ('[' :: (spaces ++ (text ++ rest)))
      = .error (.malformed .extraData (skipSpace rest).length) := by
  have hfuel : 2 * text.length ≤ 2 * ('[' :: (spaces ++ (text ++ rest))).length + 1 := by
    simp only [List.length_cons, List.length_append]
    omega
  rw [readChars, skipSpace_cons (by decide), readValue_list hspaces h (h.isRead hfuel rest)]
  change (if (skipSpace rest).isEmpty then _ else _) = _
  rw [if_neg fun hempty => hrest (List.isEmpty_iff.1 hempty)]

/-- The text of a list starts with a bracket, after spaces. -/
theorem IsText.exists_bracket {depth : Nat} {cs : List Char} {items : List Value}
    (h : IsText depth cs (.list items)) :
    ∃ spaces rest, IsSpaces spaces ∧ cs = spaces ++ '[' :: rest := by
  obtain ⟨before, text, after, hbefore, hdenotes, -, rfl⟩ := h
  obtain ⟨rest, rfl⟩ : ∃ rest, text = '[' :: rest := by
    -- The start of a value tells its kind, and only that of a list is a bracket.
    generalize hpart : Part.value (.list items) = part at hdenotes
    cases hdenotes with
    | noItems => exact ⟨_, rfl⟩
    | list => exact ⟨_, rfl⟩
    | word h =>
      cases hpart
      simp [words] at h
    | number h =>
      cases hpart
      cases h with
      | intro _ _ _ _ hvalue =>
        unfold numberOf at hvalue
        split at hvalue
        · split at hvalue <;> cases hvalue
        · cases hvalue
    | string =>
      have hvalue := Part.value.inj hpart
      rw [Value.ofCodes] at hvalue
      split at hvalue <;> cases hvalue
    | mapping =>
      have hvalue := Part.value.inj hpart
      rw [mappingOf] at hvalue
      split at hvalue <;> cases hvalue
    | _ => cases hpart
  exact ⟨before, rest ++ after, hbefore, rfl⟩

/-- A text stands for one value only. -/
theorem IsText.unique {depth : Nat} {cs : List Char} {v w : Value} (hv : IsText depth cs v)
    (hw : IsText depth cs w) : v = w := by
  have hread := readChars_eq_ok_iff.2 hv
  rw [readChars_eq_ok_iff.2 hw] at hread
  exact (Except.ok.inj hread).symm

end RecordSearch.Json
