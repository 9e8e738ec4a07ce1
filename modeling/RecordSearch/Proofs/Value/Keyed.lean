import RecordSearch.Value
import Mathlib.Data.List.Induction

namespace RecordSearch

/-!
# Mappings whose keys are texts

The keys of a mapping may be any values, and a key that is set again keeps its place. Where
the keys are texts such a mapping is a list of texts and members, `setText` sets a member in
it, and the member of a text is the one that was set last (`lookup_foldl_setText`).

`Document.without` leaves out the entries of a key: before entries are set one after the other, or
afterwards (`Document.without_ofEntries`).
-/

variable {α : Type}

/-- Only a text is the same key as a text. -/
theorem sameKey_str_iff (v : Value) (text : String) :
    v.sameKey (.str text) = true ↔ v = .str text := by
  cases v with
  | float x => cases x <;> simp [Value.sameKey, Value.integral?]
  | _ => simp [Value.sameKey, Value.integral?]

/-- An entry with a text as key. -/
def textEntry (entry : String × α) : Value × α := (.str entry.1, entry.2)

/-- Sets the member of a text: in place if the text is there, else at the end. -/
def setText : List (String × α) → String → α → List (String × α)
  | [], text, a => [(text, a)]
  | (t, b) :: entries, text, a =>
    if t = text then (text, a) :: entries else (t, b) :: setText entries text a

/-- Setting the member of a text, seen from the mapping with any keys. -/
theorem insertKeyed_textEntry (entries : List (String × α)) (text : String) (a : α) :
    Value.insertKeyed (entries.map textEntry) (.str text) a
      = (setText entries text a).map textEntry := by
  induction entries with
  | nil => rfl
  | cons entry entries ih =>
    obtain ⟨t, b⟩ := entry
    have hkey : (Value.str t).sameKey (.str text) = true ↔ t = text := by
      rw [sameKey_str_iff, Value.str.injEq]
    rw [List.map_cons, textEntry, Value.insertKeyed, setText]
    by_cases h : t = text
    · rw [if_pos (hkey.2 h), if_pos h, List.map_cons, textEntry, h]
    · rw [if_neg fun hsame => h (hkey.1 hsame), if_neg h, ih, List.map_cons, textEntry]

/-- A mapping that is made of entries with texts as keys. -/
theorem keyed_textEntry (entries : List (String × α)) :
    Value.keyed (entries.map textEntry)
      = (entries.foldl (fun es e => setText es e.1 e.2) []).map textEntry := by
  have hfold : ∀ start : List (String × α),
      (entries.map textEntry).foldl (fun es e => Value.insertKeyed es e.1 e.2)
          (start.map textEntry)
        = (entries.foldl (fun es e => setText es e.1 e.2) start).map textEntry := by
    induction entries with
    | nil => exact fun _ => rfl
    | cons entry entries ih =>
      intro start
      rw [List.map_cons, List.foldl_cons, List.foldl_cons, ← ih, ← insertKeyed_textEntry]
      rfl
  exact hfold []

/-- The member of a text, where the first entry may be the one of that text. -/
theorem lookup_cons_eq (entry : String × α) (entries : List (String × α)) (text : String) :
    (entry :: entries).lookup text =
      if text = entry.1 then some entry.2 else entries.lookup text := by
  obtain ⟨t, b⟩ := entry
  by_cases h : text = t
  · simp [h]
  · simp [List.lookup_cons, h, beq_eq_false_iff_ne.2 h]

/-- The member of a text after setting one. -/
theorem lookup_setText (entries : List (String × α)) (text other : String) (a : α) :
    (setText entries text a).lookup other
      = if other = text then some a else entries.lookup other := by
  induction entries with
  | nil => rw [setText, lookup_cons_eq]
  | cons entry entries ih =>
    obtain ⟨t, b⟩ := entry
    rw [setText, lookup_cons_eq]
    by_cases ht : t = text
    · rw [if_pos ht, lookup_cons_eq, ht]
      split <;> rfl
    · rw [if_neg ht, lookup_cons_eq, ih]
      by_cases h : other = t
      · rw [if_pos h, if_neg (h ▸ ht), if_pos h]
      · rw [if_neg h, if_neg h]

/-- **The last one counts.** Among entries that are set one after the other in a mapping, the
    member of a text is that of its last entry, or else the one that was there before. -/
theorem lookup_foldl_setText (start entries : List (String × α)) (text : String) :
    (entries.foldl (fun es e => setText es e.1 e.2) start).lookup text
      = (entries.reverse.lookup text).or (start.lookup text) := by
  induction entries using List.reverseRecOn with
  | nil => rfl
  | append_singleton entries entry ih =>
    rw [List.foldl_append, List.foldl_cons, List.foldl_nil, lookup_setText, ih,
      List.reverse_append, List.reverse_singleton, List.singleton_append, lookup_cons_eq]
    by_cases h : text = entry.1
    · rw [if_pos h, if_pos h, Option.some_or]
    · rw [if_neg h, if_neg h]

/-- What the last entry of a text is. -/
theorem lookup_reverse_eq_some_iff (entries : List (String × α)) (text : String) (a : α) :
    entries.reverse.lookup text = some a ↔
      ∃ before after, entries = before ++ (text, a) :: after ∧ ∀ e ∈ after, e.1 ≠ text := by
  rw [List.lookup_eq_some_iff]
  constructor
  · rintro ⟨after, before, heq, hne⟩
    refine ⟨before.reverse, after.reverse, ?_, fun e he => ?_⟩
    · rw [← List.reverse_reverse entries, heq, List.reverse_append, List.reverse_cons,
        List.append_assoc, List.singleton_append]
    · exact (bne_iff_ne.1 (hne e (List.mem_reverse.1 he))).symm
  · rintro ⟨before, after, rfl, hne⟩
    refine ⟨after.reverse, before.reverse, ?_, fun e he => ?_⟩
    · rw [List.reverse_append, List.reverse_cons, List.append_assoc, List.singleton_append]
    · exact bne_iff_ne.2 (hne e (List.mem_reverse.1 he)).symm

/-- Setting a member leaves the texts as they are, or adds a new one at the end. -/
theorem keys_setText (entries : List (String × α)) (text : String) (a : α) :
    (setText entries text a).map Prod.fst
      = if text ∈ entries.map Prod.fst then entries.map Prod.fst
        else entries.map Prod.fst ++ [text] := by
  induction entries with
  | nil => rfl
  | cons entry entries ih =>
    obtain ⟨t, b⟩ := entry
    by_cases h : t = text
    · simp [setText, h]
    · rw [setText, if_neg h, List.map_cons, ih, List.map_cons]
      by_cases hmem : text ∈ entries.map Prod.fst
      · rw [if_pos hmem, if_pos (List.mem_cons_of_mem _ hmem)]
      · rw [if_neg hmem, if_neg, List.cons_append]
        exact List.not_mem_cons_of_ne_of_not_mem (Ne.symm h) hmem

/-- Setting a member does not make a text be there twice. -/
theorem nodup_setText {entries : List (String × α)} (h : (entries.map Prod.fst).Nodup)
    (text : String) (a : α) : ((setText entries text a).map Prod.fst).Nodup := by
  rw [keys_setText]
  by_cases hmem : text ∈ entries.map Prod.fst
  · rw [if_pos hmem]
    exact h
  · rw [if_neg hmem]
    exact List.nodup_append.2 ⟨h, List.pairwise_singleton _ text, fun t ht u hu => by
      rw [List.mem_singleton.1 hu]
      exact fun heq => hmem (heq ▸ ht)⟩

/-- No text is there twice in what results from setting members. -/
theorem nodup_foldl_setText (entries : List (String × α)) :
    ((entries.foldl (fun es e => setText es e.1 e.2) []).map Prod.fst).Nodup := by
  induction entries using List.reverseRecOn with
  | nil => exact List.nodup_nil
  | append_singleton entries entry ih =>
    rw [List.foldl_append, List.foldl_cons, List.foldl_nil]
    exact nodup_setText ih entry.1 entry.2

/-- Where no text is there twice, it does not matter from which end it is looked up. -/
theorem lookup_reverse_of_nodup {entries : List (String × α)}
    (hnodup : (entries.map Prod.fst).Nodup) (text : String) :
    entries.reverse.lookup text = entries.lookup text := by
  induction entries with
  | nil => rfl
  | cons entry entries ih =>
    obtain ⟨hnew, hrest⟩ := List.nodup_cons.1 hnodup
    rw [List.reverse_cons, List.lookup_append, ih hrest, lookup_cons_eq, lookup_cons_eq]
    by_cases h : text = entry.1
    · have hnone : entries.lookup text = none := by
        rw [List.lookup_eq_none_iff]
        intro e he
        rw [bne_iff_ne, h]
        exact fun heq => hnew (heq ▸ List.mem_map_of_mem he)
      rw [if_pos h, if_pos h, hnone, Option.none_or]
    · rw [if_neg h, if_neg h, List.lookup_nil, Option.or_none]

/-! ### Documents -/

/-- Setting a member of a document is setting the member of a text. -/
theorem insert_eq_setText (d : Document) (key : String) (v : Value) :
    d.insert key v = setText d key v := by
  induction d with
  | nil => rfl
  | cons entry d ih => rw [Document.insert, setText, ih]

/-- A key has a value if and only if it is one of the keys. -/
theorem isSome_get?_iff {d : Document} {key : String} :
    (d.get? key).isSome = true ↔ key ∈ d.keys := by
  rw [Document.get?, List.lookup_isSome_iff, Document.keys, List.mem_map]
  refine exists_congr fun e => and_congr_right fun _ => ?_
  rw [beq_iff_eq, eq_comm]

/-- A text with an entry has a member. -/
theorem exists_get?_of_mem {d : Document} {key : String} {v : Value} (h : (key, v) ∈ d) :
    ∃ w, d.get? key = some w := by
  rw [← Option.isSome_iff_exists, isSome_get?_iff]
  exact List.mem_map_of_mem h

/-- What is found at a key is a member with that key. -/
theorem mem_of_get? {d : Document} {key : String} {v : Value} (h : d.get? key = some v) :
    (key, v) ∈ d := by
  obtain ⟨before, after, heq, -⟩ := List.lookup_eq_some_iff.1 h
  rw [heq]
  exact List.mem_append_right _ List.mem_cons_self

/-- A member of a document with distinct keys is found at its key. -/
theorem get?_of_mem {d : Document} (h : d.keys.Nodup) {e : String × Value} (he : e ∈ d) :
    d.get? e.1 = some e.2 := by
  induction d with
  | nil => cases he
  | cons first d ih =>
    obtain ⟨k, w⟩ := first
    obtain ⟨hnew, hrest⟩ := List.nodup_cons.1 h
    rw [Document.get?_cons]
    rcases List.mem_cons.1 he with rfl | he
    · exact if_pos rfl
    · have hne : ¬ e.1 = k := fun heq => hnew (List.mem_map.2 ⟨e, he, heq⟩)
      rw [if_neg hne]
      exact ih hrest he

/-- Among entries that are set one after the other in a document, the last one of a key counts. -/
theorem get?_ofEntries (entries : List (String × Value)) (key : String) :
    (Document.ofEntries entries).get? key = Document.get? entries.reverse key := by
  simp only [Document.get?, Document.ofEntries, insert_eq_setText, lookup_foldl_setText,
    List.lookup_nil, Option.or_none]

/-- A key is looked up in the first of two documents that has it. -/
theorem Document.get?_append (d e : Document) (key : String) :
    Document.get? (d ++ e) key = (Document.get? d key).or (Document.get? e key) :=
  List.lookup_append

/-- Where entries with distinct keys are set in a document, they replace those of the same key, and
    all others stay. -/
theorem Document.get?_update (d : Document) {e : Document} (he : e.keys.Nodup) (key : String) :
    (d.update e).get? key = (e.get? key).or (d.get? key) := by
  simp only [Document.get?, Document.update, insert_eq_setText, lookup_foldl_setText,
    lookup_reverse_of_nodup he]

/-- A document that is made of entries has one of them at each key. -/
theorem mem_of_get?_ofEntries {entries : List (String × Value)} {key : String} {v : Value}
    (h : (Document.ofEntries entries).get? key = some v) : (key, v) ∈ entries := by
  rw [get?_ofEntries] at h
  exact List.mem_reverse.1 (mem_of_get? h)

/-- To set a value in a document leaves its keys distinct. -/
theorem nodup_keys_insert {d : Document} (h : d.keys.Nodup) (key : String) (v : Value) :
    (d.insert key v).keys.Nodup := by
  rw [insert_eq_setText]
  exact nodup_setText h key v

/-- A document that is made of entries has distinct keys. -/
theorem nodup_keys_ofEntries (entries : List (String × Value)) :
    (Document.ofEntries entries).keys.Nodup := by
  simp only [Document.ofEntries, insert_eq_setText]
  exact nodup_foldl_setText entries

/-- All members of a document that is made of entries are among them. -/
theorem mem_of_mem_ofEntries {entries : List (String × Value)} {e : String × Value}
    (h : e ∈ Document.ofEntries entries) : e ∈ entries :=
  mem_of_get?_ofEntries (get?_of_mem (nodup_keys_ofEntries entries) h)

/-- A new key comes last. -/
theorem insert_of_notMem {d : Document} {key : String} (h : key ∉ d.keys) (v : Value) :
    d.insert key v = d ++ [(key, v)] := by
  induction d with
  | nil => rfl
  | cons entry d ih =>
    obtain ⟨hne, hrest⟩ := not_or.1 fun hmem => h (List.mem_cons.2 hmem)
    rw [Document.insert, if_neg (Ne.symm hne), ih hrest, List.cons_append]

/-- Entries with distinct keys are the document that they make. -/
theorem ofEntries_eq_self {entries : List (String × Value)} (h : (entries.map Prod.fst).Nodup) :
    Document.ofEntries entries = entries := by
  induction entries using List.reverseRecOn with
  | nil => rfl
  | append_singleton entries entry ih =>
    rw [List.map_append] at h
    obtain ⟨hinit, -, hlast⟩ := List.nodup_append.1 h
    have hnew : entry.1 ∉ Document.keys entries := fun hmem =>
      hlast _ hmem _ (List.mem_singleton_self _) rfl
    rw [Document.ofEntries, List.foldl_append]
    show Document.insert (Document.ofEntries entries) entry.1 entry.2 = _
    rw [ih hinit, insert_of_notMem hnew]

/-! ### Entries without a key -/

namespace Document

/-- The entries but for those of a key. -/
def without (d : Document) (key : String) : Document := d.filter fun e => e.1 ≠ key

theorem mem_without_iff {d : Document} {key : String} {e : String × Value} :
    e ∈ d.without key ↔ e ∈ d ∧ e.1 ≠ key := by
  rw [without, List.mem_filter, decide_eq_true_iff]

/-- The other keys stay. -/
theorem mem_keys_without_iff {d : Document} {key other : String} :
    other ∈ (d.without key).keys ↔ other ∈ d.keys ∧ other ≠ key := by
  rw [keys, List.mem_map, keys, List.mem_map]
  constructor
  · rintro ⟨e, he, rfl⟩
    obtain ⟨hmem, hne⟩ := mem_without_iff.1 he
    exact ⟨⟨e, hmem, rfl⟩, hne⟩
  · rintro ⟨⟨e, hmem, rfl⟩, hne⟩
    exact ⟨e, mem_without_iff.2 ⟨hmem, hne⟩, rfl⟩

/-- Nothing is left out if the key is not there. -/
theorem without_eq_self {d : Document} {key : String} (h : key ∉ d.keys) : d.without key = d :=
  List.filter_eq_self.2 fun _ he => decide_eq_true fun heq => h (heq ▸ List.mem_map_of_mem he)

/-- The first entry is left out if it has the key. -/
theorem without_cons (k key : String) (v : Value) (d : Document) :
    without ((k, v) :: d) key = if k = key then d.without key else (k, v) :: d.without key := by
  rw [without, List.filter_cons]
  by_cases h : k = key
  · rw [if_neg (by simp [h]), if_pos h, without]
  · rw [if_pos (decide_eq_true h), if_neg h, without]

theorem without_append (d e : Document) (key : String) :
    without (d ++ e) key = d.without key ++ e.without key := List.filter_append ..

/-- What is found at the other keys stays. -/
theorem get?_without {d : Document} {key other : String} (h : other ≠ key) :
    (d.without key).get? other = d.get? other := by
  induction d with
  | nil => rfl
  | cons entry d ih =>
    obtain ⟨k, v⟩ := entry
    rw [without_cons, get?_cons]
    by_cases hkey : k = key
    · rw [if_pos hkey, ih, if_neg (hkey ▸ h)]
    · rw [if_neg hkey, get?_cons, ih]

/-- The key that is left out may be the one that is set. -/
theorem without_insert (d : Document) (key other : String) (v : Value) :
    (d.insert other v).without key =
      if other = key then d.without key else (d.without key).insert other v := by
  induction d with
  | nil => rw [insert, without_cons]; rfl
  | cons entry d ih =>
    obtain ⟨k, w⟩ := entry
    rw [insert, without_cons]
    -- The value is put at the first place of its key, which may be the key that is left out.
    by_cases hk : k = other
    · rw [if_pos hk, without_cons, hk]
      by_cases h : other = key
      · rw [if_pos h, if_pos h, if_pos h]
      · rw [if_neg h, if_neg h, if_neg h, insert, if_pos rfl]
    · rw [if_neg hk, without_cons, ih]
      by_cases hkey : k = key
      · rw [if_pos hkey, if_pos hkey]
      · rw [if_neg hkey, if_neg hkey]
        by_cases h : other = key
        · rw [if_pos h, if_pos h]
        · rw [if_neg h, if_neg h, insert, if_neg hk]

/-- To set entries one after the other without a key leaves out that key. -/
theorem without_ofEntries (entries : List (String × Value)) (key : String) :
    (ofEntries entries).without key = ofEntries (without entries key) := by
  induction entries using List.reverseRecOn with
  | nil => rfl
  | append_singleton entries entry ih =>
    have hsnoc : ∀ (es : List (String × Value)) (e : String × Value),
        ofEntries (es ++ [e]) = (ofEntries es).insert e.1 e.2 := by
      intro es e
      rw [ofEntries, List.foldl_append]
      rfl
    rw [hsnoc, without_insert, without_append, ih, without_cons]
    by_cases h : entry.1 = key
    · have hnil : without [] key = [] := rfl
      rw [if_pos h, if_pos h, hnil, List.append_nil]
    · rw [if_neg h, if_neg h]
      exact (hsnoc _ entry).symm

end Document

end RecordSearch
