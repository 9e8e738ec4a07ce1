import RecordSearch.Json.Codes
import RecordSearch.Proofs.Json.Grammar
import RecordSearch.Proofs.Value.Tree

namespace RecordSearch

/-!
# Keys of values that are read

In a JSON text a key may be repeated. The mapping that is read has it once, at any depth, also
where keys with surrogates become texts.

* `Value.IsKeyed`: a value whose mappings, also those with surrogates in keys, have distinct keys;
* `Json.Denotes.isKeyed`: what a text stands for is of this kind, by induction on the grammar;
* `Value.IsKeyed.withTextKeys`: with text as keys its tree has distinct keys.
-/

/-- **A value with distinct keys.** A mapping that has texts as keys has each of them once. Where
    there are surrogates in keys nothing is asked of these, but the same of the values. -/
inductive Value.IsKeyed : Value → Prop where
  | mapping {d : Document} (keys : d.keys.Nodup) (values : ∀ e ∈ d, e.2.IsKeyed) :
      IsKeyed (.mapping d)
  | broken {es : List (List Nat × Value)} (values : ∀ e ∈ es, e.2.IsKeyed) :
      IsKeyed (.brokenMapping es)
  | leaf {v : Value} (hmapping : ∀ d, v ≠ .mapping d) (hbroken : ∀ es, v ≠ .brokenMapping es) :
      IsKeyed v

/-- A document that is made of entries has distinct keys if their values have. -/
theorem isKeyed_ofEntries {entries : List (String × Value)} (h : ∀ e ∈ entries, e.2.IsKeyed) :
    (Value.mapping (Document.ofEntries entries)).IsKeyed := by
  exact .mapping (nodup_keys_ofEntries entries) fun e he => h e (mem_of_mem_ofEntries he)

namespace Json

/-- Setting an entry adds no other value. -/
theorem mem_insertEntry {es : List (List Nat × Value)} {key : List Nat} {v : Value}
    {e : List Nat × Value} (h : e ∈ insertEntry es key v) : e = (key, v) ∨ e ∈ es := by
  induction es with
  | nil => exact .inl (List.mem_singleton.1 h)
  | cons first es ih =>
    obtain ⟨k, w⟩ := first
    rw [insertEntry] at h
    by_cases hk : k = key
    · rw [if_pos hk] at h
      exact (List.mem_cons.1 h).imp_right (List.mem_cons_of_mem _)
    · rw [if_neg hk] at h
      rcases List.mem_cons.1 h with rfl | h
      · exact .inr List.mem_cons_self
      · exact (ih h).imp_right (List.mem_cons_of_mem _)

/-- What is left of entries of which each replaces the one before it is among them. -/
theorem mem_foldl_insertEntry {entries start : List (List Nat × Value)} {e : List Nat × Value}
    (h : e ∈ entries.foldl (fun es e => insertEntry es e.1 e.2) start) :
    e ∈ start ∨ e ∈ entries := by
  induction entries generalizing start with
  | nil => exact .inl h
  | cons entry entries ih =>
    rcases ih h with hstart | hrest
    · rcases mem_insertEntry hstart with rfl | hstart
      · exact .inr List.mem_cons_self
      · exact .inl hstart
    · exact .inr (List.mem_cons_of_mem _ hrest)

/-- A mapping that is made of entries has distinct keys if their values have. -/
theorem isKeyed_mappingOf {entries : List (List Nat × Value)} (h : ∀ e ∈ entries, e.2.IsKeyed) :
    (mappingOf entries).IsKeyed := by
  rw [mappingOf]
  by_cases htext : (entries.all fun e => Text.areText e.1) = true
  · rw [if_pos htext]
    refine isKeyed_ofEntries fun e he => ?_
    obtain ⟨own, hown, rfl⟩ := List.mem_map.1 he
    exact h own hown
  · rw [if_neg htext]
    refine .broken fun e he => ?_
    rcases mem_foldl_insertEntry he with hnone | hmem
    · cases hnone
    · exact h e hmem

/-! ### Reading -/

/-- A text is a leaf. -/
theorem isKeyed_ofCodes (codes : List Nat) : (Value.ofCodes codes).IsKeyed := by
  rw [Value.ofCodes]
  by_cases h : Text.areText codes = true
  · rw [if_pos h]
    exact .leaf (by simp) (by simp)
  · rw [if_neg h]
    exact .leaf (by simp) (by simp)

/-- A word is a leaf. -/
theorem isKeyed_of_word {text : List Char} {v : Value} (h : (text, v) ∈ words) : v.IsKeyed := by
  simp only [words, List.mem_cons, Prod.mk.injEq, List.not_mem_nil, or_false] at h
  rcases h with ⟨-, rfl⟩ | ⟨-, rfl⟩ | ⟨-, rfl⟩ | ⟨-, rfl⟩ | ⟨-, rfl⟩ | ⟨-, rfl⟩ <;>
    exact .leaf (by simp) (by simp)

/-- A number is a leaf. -/
theorem IsNumber.isKeyed {text : List Char} {v : Value} (h : IsNumber text v) : v.IsKeyed := by
  cases h with
  | intro _ _ _ _ hvalue =>
    unfold numberOf at hvalue
    split at hvalue
    · split at hvalue <;> cases hvalue
      exact .leaf (by simp) (by simp)
    · cases hvalue
      exact .leaf (by simp) (by simp)

/-- **The values in a part have distinct keys.** Keys inside a list are not looked at. -/
def Part.IsKeyed : Part → Prop
  | .value v => v.IsKeyed
  | .items _ => True
  | .entries es => ∀ e ∈ es, e.2.IsKeyed

/-- **What a text stands for has distinct keys**, since a mapping is made of its entries. -/
theorem Denotes.isKeyed {depth : Nat} {text : List Char} {part : Part}
    (h : Denotes depth text part) : part.IsKeyed := by
  induction h with
  | word h => exact isKeyed_of_word h
  | number h => exact h.isKeyed
  | string h => exact isKeyed_ofCodes _
  | noItems | list => exact .leaf (by simp) (by simp)
  | noEntries => exact .mapping List.nodup_nil nofun
  | mapping _ _ ih => exact isKeyed_mappingOf ih
  | lastItem | item => trivial
  | lastEntry _ _ _ _ _ ih => exact List.forall_mem_singleton.2 ih
  | entry _ _ _ _ _ _ _ ih ihs => exact List.forall_mem_cons.2 ⟨ih, ihs⟩

/-- A whole text that is read has distinct keys. -/
theorem isKeyed_readChars {depth : Nat} {cs : List Char} {v : Value}
    (h : readChars depth cs = .ok v) : v.IsKeyed := by
  obtain ⟨_, text, _, -, hdenotes, -, -⟩ := readChars_eq_ok_iff.1 h
  exact hdenotes.isKeyed

/-! ### Surrogates -/

mutual

/-- A value with its code points restored has distinct keys. -/
theorem isKeyed_restore (block : Nat) : (v : Value) → (restore block v).IsKeyed
  | .str s => by
    rw [restore]
    exact isKeyed_ofCodes _
  | .brokenStr codes => by
    rw [restore]
    exact isKeyed_ofCodes _
  | .list items => by
    rw [restore]
    exact .leaf (by simp) (by simp)
  | .mapping entries => by
    rw [restore]
    exact isKeyed_mappingOf (isKeyed_restoreEntries block entries)
  | .brokenMapping entries => by
    rw [restore]
    exact isKeyed_mappingOf (isKeyed_restoreBroken block entries)
  | .null | .bool _ | .int _ | .float _ | .bytes _ | .buffer _ | .tuple _ | .set _
  | .failure .. => by
    rw [restore] <;> first | exact .leaf (by simp) (by simp) | exact nofun

/-- So have the values of entries. -/
theorem isKeyed_restoreEntries (block : Nat) : (es : List (String × Value)) →
    ∀ e ∈ restoreEntries block es, e.2.IsKeyed
  | [] => nofun
  | (k, v) :: es => by
    intro e he
    rw [restoreEntries] at he
    rcases List.mem_cons.1 he with rfl | he
    · exact isKeyed_restore block v
    · exact isKeyed_restoreEntries block es e he

/-- So have the values of entries whose keys are given by code points. -/
theorem isKeyed_restoreBroken (block : Nat) : (es : List (List Nat × Value)) →
    ∀ e ∈ restoreBroken block es, e.2.IsKeyed
  | [] => nofun
  | (k, v) :: es => by
    intro e he
    rw [restoreBroken] at he
    rcases List.mem_cons.1 he with rfl | he
    · exact isKeyed_restore block v
    · exact isKeyed_restoreBroken block es e he

end

/-- A text that is given by code points is read with distinct keys. -/
theorem isKeyed_readCodes {depth : Nat} {codes : List Nat} {v : Value}
    (h : readCodes depth codes = .ok v) : v.IsKeyed := by
  rw [readCodes] at h
  cases hread : readChars depth (codes.map (placeholder (freeBlock codes))) with
  | error problem =>
    rw [hread] at h
    cases h
  | ok w =>
    rw [hread] at h
    cases h
    exact isKeyed_restore _ w

end Json

/-! ### Texts as keys -/

/-- The entries of a document with texts as keys in their values are at the keys that they were. -/
theorem entriesWithTextKeys_eq_map (es : List (String × Value)) :
    Value.entriesWithTextKeys es = es.map fun e => (e.1, e.2.withTextKeys) := by
  induction es with
  | nil => rfl
  | cons e es ih => rw [Value.entriesWithTextKeys, ih, List.map_cons]

/-- The entries with texts as keys. -/
theorem brokenWithTextKeys_eq_map (es : List (List Nat × Value)) :
    Value.brokenWithTextKeys es = es.map fun e => (Text.ofCodes e.1, e.2.withTextKeys) := by
  induction es with
  | nil => rfl
  | cons e es ih => rw [Value.brokenWithTextKeys, ih, List.map_cons]

/-- The members of a list with texts as keys. -/
theorem allWithTextKeys_eq_map (vs : List Value) :
    Value.allWithTextKeys vs = vs.map Value.withTextKeys := by
  induction vs with
  | nil => rfl
  | cons v vs ih => rw [Value.allWithTextKeys, ih, List.map_cons]

/-- A list with texts as keys in its members. -/
theorem Value.withTextKeys_list (items : List Value) :
    (Value.list items).withTextKeys = .list (items.map Value.withTextKeys) := by
  rw [Value.withTextKeys, allWithTextKeys_eq_map]

/-- A mapping with texts as keys in its values. -/
theorem Value.withTextKeys_mapping (entries : List (String × Value)) :
    (Value.mapping entries).withTextKeys
      = .mapping (entries.map fun e => (e.1, e.2.withTextKeys)) := by
  rw [Value.withTextKeys, entriesWithTextKeys_eq_map]

/-- A mapping with surrogates in its keys, with texts as keys. -/
theorem Value.withTextKeys_brokenMapping (entries : List (List Nat × Value)) :
    (Value.brokenMapping entries).withTextKeys
      = .mapping (Document.ofEntries
        (entries.map fun e => (Text.ofCodes e.1, e.2.withTextKeys))) := by
  rw [Value.withTextKeys, brokenWithTextKeys_eq_map]

/-- **With texts as keys** the tree of a value with distinct keys has distinct keys. -/
theorem Value.IsKeyed.withTextKeys {v : Value} (h : v.IsKeyed) :
    v.withTextKeys.HasDistinctKeys := by
  induction h with
  | @mapping d hkeys _ ih =>
    rw [Value.withTextKeys_mapping]
    refine hasDistinctKeys_of_forall_mem ?_ fun e he => ?_
    · rw [Document.keys, List.map_map]
      exact hkeys
    · obtain ⟨own, hown, rfl⟩ := List.mem_map.1 he
      exact ih own hown
  | @broken es _ ih =>
    rw [Value.withTextKeys_brokenMapping]
    refine hasDistinctKeys_ofEntries fun e he => ?_
    obtain ⟨own, hown, rfl⟩ := List.mem_map.1 he
    exact ih own hown
  | @leaf v hmapping hbroken =>
    have hleaf : v.withTextKeys.node = .leaf v.withTextKeys := by
      cases v with
      | mapping d => exact absurd rfl (hmapping d)
      | brokenMapping es => exact absurd rfl (hbroken es)
      | _ => rfl
    exact Value.hasDistinctKeys_of_leaf hleaf

end RecordSearch
