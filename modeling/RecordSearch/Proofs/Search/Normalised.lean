import RecordSearch.Session
import RecordSearch.Proofs.Search.Hits
import RecordSearch.Proofs.Search.Loading

namespace RecordSearch

/-!
# Responses reduced to results

The parts of a response may be missing, and a count and a stored document come in several forms.
Whatever the forms are, the results are known from the response alone: the count, a hit for each
entry, and the envelope without its hits.

* `Entry`, `Entry.IsHit`: an entry of a response with what it stores, and the hit made of it;
* `IsResponse`: a response with a count and entries, in all forms that these may have;
* `SearchResults.toResponse`: results as the response that they may come from;
* `SearchResults.Same`: results that say the same.

`ofResponse_normalises` says that each response is reduced as a whole or not at all, and that the
reduction undoes `toResponse`.
-/

variable {σ : Type}

/-! ### Entries and responses -/

/-- An entry of a response: its fields, and the document that they store. -/
structure Entry where
  fields : Document
  stored : Document

namespace Entry

/-- The identity that the backend gave the entry. -/
def id? (entry : Entry) : Option Value := entry.fields.get? "_id"

/-- The stored document is that of the fields. Nothing, and no field at all, store an empty one. -/
def IsStored (entry : Entry) : Prop :=
  match entry.fields.get? "_source" with
  | none | some .null => entry.stored = []
  | some source => source = .mapping entry.stored

/-- **The hit of an entry.** It has the identity of the entry and otherwise the fields of the stored
    document, in their order; an identity that was not stored comes last. -/
structure IsHit (entry : Entry) (hit : Document) : Prop where
  id : ∃ own, entry.id? = some own ∧ hit.get? "_id" = some own
  kept : ∀ key, key ≠ "_id" → hit.get? key = entry.stored.get? key
  keys : hit.keys =
    if "_id" ∈ entry.stored.keys then entry.stored.keys else entry.stored.keys ++ ["_id"]

end Entry

/-- The hits part of a response. -/
inductive HasPart (response : Document) : Document → Prop where
  | missing (h : response.get? "hits" = none) : HasPart response []
  | nothing (h : response.get? "hits" = some .null) : HasPart response []
  | mapping {part : Document} (h : response.get? "hits" = some (.mapping part)) :
      HasPart response part

/-- The count that a hits part gives: an integer, or the integer in a mapping; zero if there is
    none. -/
inductive Counts (part : Document) : Nat → Prop where
  | missing (h : part.get? "total" = none) : Counts part 0
  | integer {total : Nat} (h : part.get? "total" = some (.int total)) : Counts part total
  | without {count : Document} (h : part.get? "total" = some (.mapping count))
      (hvalue : count.get? "value" = none) : Counts part 0
  | value {count : Document} {total : Nat} (h : part.get? "total" = some (.mapping count))
      (hvalue : count.get? "value" = some (.int total)) : Counts part total

/-- The entries that a hits part lists. -/
inductive Lists (part : Document) : List Entry → Prop where
  | missing (h : part.get? "hits" = none) : Lists part []
  | list {entries : List Entry}
      (h : part.get? "hits" = some (.list (entries.map fun entry => .mapping entry.fields))) :
      Lists part entries

/-- **A response** with a count and entries. -/
structure IsResponse (response : Document) (total : Nat) (entries : List Entry) : Prop where
  parts : ∃ part, HasPart response part ∧ Counts part total ∧ Lists part entries
  stored : ∀ entry ∈ entries, entry.IsStored

/-! ### Results as a response -/

/-- A count as an integer, or as a mapping with the integer. -/
inductive CountForm where
  | integer
  | mapping

/-- A count in a form. -/
def CountForm.value (form : CountForm) (total : Nat) : Value :=
  match form with
  | .integer => .int total
  | .mapping => .mapping [("value", .int total)]

/-- Whether a stored document has the identity of its entry among its own fields. -/
inductive StoredForm where
  | identified
  | anonymous

/-- The stored document of a hit in a form. -/
def StoredForm.document (form : StoredForm) (hit : Document) : Document :=
  match form with
  | .identified => hit
  | .anonymous => hit.filter fun e => e.1 ≠ "_id"

/-- The entry that a hit may come from. -/
def StoredForm.entry (form : StoredForm) (hit : Document) : Entry where
  fields := optionalEntry "_id" (hit.get? "_id") ++ [("_source", .mapping (form.document hit))]
  stored := form.document hit

namespace SearchResults

/-- The count and the hits of results as the hits part of a response. -/
def hitsPart (results : SearchResults) (count : CountForm) (stored : StoredForm) : Document :=
  [("total", count.value results.total),
    ("hits", .list (results.hits.map fun hit => .mapping (stored.entry hit).fields))]

/-- Results as a response. -/
def toResponse (results : SearchResults) (count : CountForm) (stored : StoredForm) : Document :=
  results.raw ++ [("hits", .mapping (results.hitsPart count stored))]

/-- **Results that say the same**: all parts are the same, but the fields of a hit may come in
    another order. -/
structure Same (results other : SearchResults) : Prop where
  total : results.total = other.total
  hits : List.Forall₂ (fun hit other => ∀ key, Document.get? hit key = Document.get? other key)
    results.hits other.hits
  pages : results.pages = other.pages
  raw : results.raw = other.raw

end SearchResults

/-! ### The hits of entries -/

/-- The stored document of an entry with its identity set, if it has one. -/
def Entry.hit? (entry : Entry) : Option Document := entry.id?.map (entry.stored.insert "_id")

/-- The stored document of an entry has keys of text. -/
theorem storedPairs_eq {entry : Entry} (h : entry.IsStored) :
    storedPairs entry.fields = .ok (entry.stored.map textEntry) := by
  rw [Entry.IsStored] at h
  rw [storedPairs]
  split at h
  · rename_i hsource
    rw [hsource, h]
    rfl
  · rename_i hsource
    rw [hsource, h]
    rfl
  · rename_i source _ hsource
    rw [hsource, h]
    -- An empty document counts as none, and has no pairs either.
    cases hstored : entry.stored with
    | nil => rfl
    | cons first rest => rfl

/-- The document of an entry is its hit, and an entry without identity has none. -/
theorem documentOf_entry {entry : Entry} (h : entry.IsStored) :
    SearchResults.documentOf (.mapping entry.fields) =
      match entry.hit? with
      | some hit => .ok (hit.map textEntry)
      | none => .error (.missingKey "_id") := by
  rw [documentOf_of_entries rfl, storedPairs_eq h, Entry.hit?, Entry.id?]
  cases Document.get? entry.fields "_id" with
  | none => rfl
  | some id =>
    show Except.ok (Value.insertKeyed (entry.stored.map textEntry) (.str "_id") id) = _
    rw [insertKeyed_textEntry, ← insert_eq_setText, Option.map_some]

/-- The stored document with the identity set is the hit of an entry. -/
theorem Entry.isHit_of_hit? {entry : Entry} {hit : Document} (h : entry.hit? = some hit) :
    entry.IsHit hit := by
  obtain ⟨own, hown, rfl⟩ := Option.map_eq_some_iff.1 h
  exact ⟨⟨own, hown, Document.get?_insert_self _ _ _⟩,
    fun key hkey => Document.get?_insert_of_ne _ _ hkey, Document.keys_insert _ _ _⟩

/-- The documents of entries with hits are these. -/
theorem mapM_documentOf_eq {entries : List Entry} {hits : List Document}
    (hstored : ∀ entry ∈ entries, entry.IsStored) (hhits : entries.map Entry.hit? = hits.map some) :
    (entries.map fun entry => .mapping entry.fields).mapM SearchResults.documentOf =
      .ok (hits.map (·.map textEntry)) := by
  have heach : ∀ entry ∈ entries, SearchResults.documentOf (.mapping entry.fields) =
      (entry.hit?.map fun hit => hit.map textEntry).elim (.error (.missingKey "_id")) .ok := by
    intro entry hentry
    rw [documentOf_entry (hstored entry hentry)]
    cases entry.hit? <;> rfl
  rw [mapM_eq_ok_iff, List.map_map]
  calc entries.map (SearchResults.documentOf ∘ fun entry => .mapping entry.fields)
      = entries.map fun entry => (entry.hit?.map fun hit => hit.map textEntry).elim
          (.error (.missingKey "_id")) .ok := List.map_congr_left heach
    _ = (entries.map Entry.hit?).map fun hit => (hit.map fun hit => hit.map textEntry).elim
          (.error (.missingKey "_id")) .ok := by rw [List.map_map]; rfl
    _ = (hits.map (·.map textEntry)).map .ok := by rw [hhits, List.map_map, List.map_map]; rfl

/-- Without the identity of one entry no document is made at all. -/
theorem mapM_documentOf_eq_error {entries : List Entry}
    (hstored : ∀ entry ∈ entries, entry.IsStored) {entry : Entry} (hentry : entry ∈ entries)
    (hid : entry.id? = none) :
    (entries.map fun entry => .mapping entry.fields).mapM SearchResults.documentOf =
      .error (.missingKey "_id") := by
  have hfails : SearchResults.documentOf (.mapping entry.fields) = .error (.missingKey "_id") := by
    rw [documentOf_entry (hstored entry hentry), Entry.hit?, hid]
    rfl
  have hmem : Value.mapping entry.fields ∈ entries.map fun entry => .mapping entry.fields :=
    List.mem_map_of_mem hentry
  obtain ⟨e, he⟩ := exists_mapM_eq_error (f := SearchResults.documentOf) hmem fun b hb => by
    rw [hfails] at hb
    cases hb
  -- Some entry fails, and no entry can fail in another way.
  obtain ⟨_, hmem, hfirst⟩ := exists_of_mapM_eq_error he
  obtain ⟨first, hin, rfl⟩ := List.mem_map.1 hmem
  rw [documentOf_entry (hstored first hin)] at hfirst
  cases hhit : first.hit? with
  | none =>
    rw [hhit] at hfirst
    rw [he, ← Except.error.inj hfirst]
  | some hit =>
    rw [hhit] at hfirst
    cases hfirst

/-! ### Parts of a response -/

/-- The hits part is found whatever its form is. -/
theorem HasPart.hitsOf_eq {response part : Document} (h : HasPart response part) :
    SearchResults.hitsOf (response.map textEntry) = .ok part := by
  rw [SearchResults.hitsOf, get?_map_textEntry]
  cases h with
  | missing h => rw [h]
  | nothing h => rw [h]; rfl
  | mapping h => rw [h]; rfl

/-- The count is found whatever its form is. -/
theorem Counts.natural_totalOf {part : Document} {total : Nat} (h : Counts part total) :
    Checked.natural (SearchResults.totalOf part) = .valid total := by
  rw [SearchResults.totalOf]
  cases h with
  | missing h => rw [h]; rfl
  | integer h => rw [h]; exact Checked.natural_natCast total
  | without h hvalue =>
    rw [h]
    simp only [Value.entries?_mapping, hvalue]
    rfl
  | value h hvalue =>
    rw [h]
    simp only [Value.entries?_mapping, hvalue]
    exact Checked.natural_natCast total

/-- The entries are walked in their order. -/
theorem Lists.elements?_eq {part : Document} {entries : List Entry} (h : Lists part entries) :
    ((part.get? "hits").getD (.list [])).elements? =
      some (entries.map fun entry => .mapping entry.fields) := by
  cases h with
  | missing h => rw [h]; rfl
  | list h => rw [h]; rfl

/-- The reduction of a response, as far as its entries have documents. -/
theorem IsResponse.ofResponse_eq {response : Document} {total : Nat} {entries : List Entry}
    (h : IsResponse response total entries) :
    ∃ part, Checked.natural (SearchResults.totalOf part) = .valid total
      ∧ SearchResults.ofResponse (.mapping response) =
        (entries.map fun entry => .mapping entry.fields).mapM SearchResults.documentOf >>=
          fun documents => (SearchResults.ofParts (SearchResults.totalOf part) documents
            ((response.filter fun e => e.1 ≠ "hits").map textEntry)).toExcept := by
  obtain ⟨part, hpart, hcounts, hlists⟩ := h.parts
  exact ⟨part, hcounts.natural_totalOf, ofResponse_mapping hpart.hitsOf_eq hlists.elements?_eq⟩

/-- **The results of a response** whose entries have hits. -/
theorem IsResponse.ofResponse_eq_ok {response : Document} {total : Nat} {entries : List Entry}
    (h : IsResponse response total entries) {hits : List Document}
    (hhits : entries.map Entry.hit? = hits.map some) :
    SearchResults.ofResponse (.mapping response) =
      .ok ⟨total, hits, none, response.filter fun e => e.1 ≠ "hits"⟩ := by
  obtain ⟨part, htotal, hresponse⟩ := h.ofResponse_eq
  rw [hresponse, mapM_documentOf_eq h.stored hhits]
  show (SearchResults.ofParts _ (hits.map (·.map textEntry)) _).toExcept = _
  rw [ofParts_map_textEntry htotal, Checked.toExcept_valid]

/-- A response whose entries have identities has results. -/
theorem IsResponse.exists_results {response : Document} {total : Nat} {entries : List Entry}
    (h : IsResponse response total entries)
    (hids : ∀ entry ∈ entries, ∃ id, entry.id? = some id) :
    ∃ results : SearchResults, SearchResults.ofResponse (.mapping response) = .ok results
      ∧ results.total = total ∧ List.Forall₂ Entry.IsHit entries results.hits
      ∧ results.pages = none ∧ results.raw = response.filter (fun e => e.1 ≠ "hits") := by
  obtain ⟨hits, hhits⟩ := exists_map_eq_map_some (f := Entry.hit?) fun entry hentry => by
    obtain ⟨id, hid⟩ := hids entry hentry
    exact ⟨_, by rw [Entry.hit?, hid, Option.map_some]⟩
  have heach : List.Forall₂ (· = ·) (entries.map Entry.hit?) (hits.map some) := by
    rw [List.forall₂_eq_eq_eq]
    exact hhits
  rw [List.forall₂_map_left_iff, List.forall₂_map_right_iff] at heach
  have hall : List.Forall₂ Entry.IsHit entries hits :=
    heach.imp fun entry hit => Entry.isHit_of_hit?
  exact ⟨_, h.ofResponse_eq_ok hhits, rfl, hall, rfl, rfl⟩

/-- A response with an entry without identity has no results. -/
theorem IsResponse.ofResponse_eq_error {response : Document} {total : Nat} {entries : List Entry}
    (h : IsResponse response total entries) {entry : Entry} (hentry : entry ∈ entries)
    (hid : entry.id? = none) :
    SearchResults.ofResponse (.mapping response) = .error (.missingKey "_id") := by
  obtain ⟨part, -, hresponse⟩ := h.ofResponse_eq
  rw [hresponse, mapM_documentOf_eq_error h.stored hentry hid]
  rfl

/-- The hits of entries have the identities of these. -/
theorem ids_of_isHit {entries : List Entry} {hits : List Document}
    (h : List.Forall₂ Entry.IsHit entries hits) :
    hits.map (fun hit => hit.get? "_id") = entries.map Entry.id? := by
  induction h with
  | nil => rfl
  | cons hhit _ ih =>
    obtain ⟨own, hown, hid⟩ := hhit.id
    rw [List.map_cons, List.map_cons, ih, hid, hown]

/-! ### From results to a response and back -/

/-- To set the value that a key has already changes nothing. -/
theorem insert_eq_self {d : Document} {key : String} {v : Value} (h : d.get? key = some v) :
    d.insert key v = d := by
  induction d with
  | nil => cases h
  | cons entry d ih =>
    obtain ⟨k, w⟩ := entry
    rw [Document.get?_cons] at h
    rw [Document.insert]
    by_cases hk : k = key
    · rw [if_pos hk.symm] at h
      rw [if_pos hk, ← hk, Option.some.inj h]
    · rw [if_neg fun heq => hk heq.symm] at h
      rw [if_neg hk, ih h]

namespace StoredForm

/-- In both forms the hit of the entry says what the hit said. -/
theorem exists_hit?_eq (form : StoredForm) {hit : Document} {id : Value}
    (hid : hit.get? "_id" = some id) :
    ∃ again, (form.entry hit).hit? = some again ∧ (∀ key, Document.get? again key = hit.get? key)
      ∧ (form = .identified → again = hit) := by
  have hown : (form.entry hit).id? = some id := by
    rw [Entry.id?, entry, hid]
    rfl
  refine ⟨(form.document hit).insert "_id" id, by rw [Entry.hit?, hown]; rfl, fun key => ?_, ?_⟩
  · by_cases hkey : key = "_id"
    · rw [hkey, Document.get?_insert_self, hid]
    · rw [Document.get?_insert_of_ne _ _ hkey]
      cases form with
      | identified => rfl
      | anonymous => exact Document.get?_without hkey
  · rintro rfl
    exact insert_eq_self hid

/-- The stored document of the entry is the one in its fields. -/
theorem isStored_entry (form : StoredForm) (hit : Document) : (form.entry hit).IsStored := by
  have hsource : Document.get? (form.entry hit).fields "_source" =
      some (.mapping (form.document hit)) := by
    rw [entry]
    cases hit.get? "_id" <;> rfl
  rw [Entry.IsStored, hsource]
  rfl

end StoredForm

/-- Hits and their entries, taken together. -/
theorem exists_hits_again (form : StoredForm) {hits : List Document}
    (h : ∀ hit ∈ hits, ∃ id, Document.get? hit "_id" = some id) :
    ∃ again : List Document, (hits.map form.entry).map Entry.hit? = again.map some
      ∧ List.Forall₂ (fun again hit => ∀ key, Document.get? again key = Document.get? hit key)
        again hits
      ∧ (form = .identified → again = hits) := by
  induction hits with
  | nil => exact ⟨[], rfl, .nil, fun _ => rfl⟩
  | cons hit hits ih =>
    obtain ⟨id, hid⟩ := h hit List.mem_cons_self
    obtain ⟨first, hfirst, hsame, heq⟩ := form.exists_hit?_eq hid
    obtain ⟨rest, hrest, hall, hrests⟩ :=
      ih fun other hother => h other (List.mem_cons_of_mem _ hother)
    refine ⟨first :: rest, ?_, .cons hsame hall, fun hform => by rw [heq hform, hrests hform]⟩
    rw [List.map_cons, List.map_cons, List.map_cons, hfirst, hrest]

/-- Results as a response have their count and their hits there. -/
theorem isResponse_toResponse {results : SearchResults} (hraw : "hits" ∉ results.raw.keys)
    (count : CountForm) (stored : StoredForm) :
    IsResponse (results.toResponse count stored) results.total (results.hits.map stored.entry) where
  parts := by
    -- The hits are put behind the envelope, where they are found since it has none of its own.
    have hnone : results.raw.lookup "hits" = none := by
      rw [List.lookup_eq_none_iff]
      intro e he
      rw [bne_iff_ne]
      exact fun heq => hraw (heq ▸ List.mem_map_of_mem he)
    refine ⟨results.hitsPart count stored, .mapping ?_, ?_, .list ?_⟩
    · rw [SearchResults.toResponse, Document.get?, List.lookup_append, hnone]
      rfl
    · cases count with
      | integer => exact .integer rfl
      | mapping => exact .value rfl rfl
    · rw [List.map_map]
      rfl
  stored := by
    intro entry hentry
    obtain ⟨hit, -, rfl⟩ := List.mem_map.1 hentry
    exact stored.isStored_entry hit

/-- The envelope of results is what their response has beside the hits. -/
theorem filter_toResponse {results : SearchResults} (hraw : "hits" ∉ results.raw.keys)
    (count : CountForm) (stored : StoredForm) :
    (results.toResponse count stored).filter (fun e => e.1 ≠ "hits") = results.raw := by
  have hkept : results.raw.filter (fun e => e.1 ≠ "hits") = results.raw := by
    rw [List.filter_eq_self]
    intro e he
    rw [decide_eq_true_eq]
    exact fun heq => hraw (heq ▸ List.mem_map_of_mem he)
  rw [SearchResults.toResponse, List.filter_append, hkept]
  exact List.append_nil _

/-! ### Main result -/

/-- **Each response is reduced exactly.** If each entry has an identity, the results have the count
    of the response, its entries as hits, one by one, and its envelope without the hits; the
    identities can be had from them, and are those of the entries. If one entry has none there are
    no results, but the error that the key is missing.

    Results that are made a response again, in any form, come back from it. -/
theorem ofResponse_normalises {response : Document} {total : Nat} {entries : List Entry}
    (h : IsResponse response total entries) :
    ((∀ entry ∈ entries, ∃ id, entry.id? = some id) →
      ∃ (results : SearchResults) (ids : List Value),
        SearchResults.ofResponse (.mapping response) = .ok results
        ∧ results.total = total ∧ List.Forall₂ Entry.IsHit entries results.hits
        ∧ results.pages = none ∧ results.raw = response.filter (fun e => e.1 ≠ "hits")
        ∧ entries.map Entry.id? = ids.map some ∧ results.ids = .ok ids
        ∧ ∀ {σ : Type} (surroundings : Surroundings σ) (state : σ),
          ((Step.ids .last).program results).run surroundings state = ⟨.ok (.ids ids), [], state⟩)
      ∧ ((∃ entry ∈ entries, entry.id? = none) →
        SearchResults.ofResponse (.mapping response) = .error (.missingKey "_id"))
      ∧ ∀ (results : SearchResults) (count : CountForm) (stored : StoredForm),
        (∀ hit ∈ results.hits, ∃ id, hit.get? "_id" = some id) → "hits" ∉ results.raw.keys →
        results.pages = none →
        ∃ again, SearchResults.ofResponse (.mapping (results.toResponse count stored)) = .ok again
          ∧ again.Same results ∧ (stored = .identified → again = results) := by
  refine ⟨fun hids => ?_, fun ⟨entry, hentry, hid⟩ => h.ofResponse_eq_error hentry hid, ?_⟩
  · obtain ⟨ids, heq⟩ := exists_map_eq_map_some hids
    obtain ⟨results, hresults, htotal, hhits, hpages, hraw⟩ := h.exists_results hids
    have hown : results.ids = .ok ids := ids_eq ((ids_of_isHit hhits).trans heq)
    refine ⟨results, ids, hresults, htotal, hhits, hpages, hraw, heq, hown, ?_⟩
    intro σ surroundings state
    show (StepResult.ids <$> Program.ofExcept (SearchResults.ids _)).run surroundings state = _
    rw [hown]
    rfl
  · rintro ⟨total, hits, pages, raw⟩ count stored hids hraw rfl
    obtain ⟨again, hagain, hsame, heq⟩ := exists_hits_again stored hids
    refine ⟨_, (isResponse_toResponse hraw count stored).ofResponse_eq_ok hagain, ?_,
      fun hform => ?_⟩
    · exact ⟨rfl, hsame, rfl, filter_toResponse hraw count stored⟩
    · rw [filter_toResponse hraw count stored, heq hform]

/-- A response with two entries: one stores another identity than its own, one stores nothing. -/
def shelfResponse : Document :=
  [("took", .int 3), ("hits", .mapping [("total", .mapping [("value", .int 2)]),
    ("hits", .list [
      .mapping [("_id", .str "7"),
        ("_source", .mapping [("_id", .str "old"), ("title", .str "Emma")])],
      .mapping [("_id", .int 8), ("_source", .null)]])])]

/-- Its entries. -/
def shelfEntries : List Entry :=
  [⟨[("_id", .str "7"), ("_source", .mapping [("_id", .str "old"), ("title", .str "Emma")])],
      [("_id", .str "old"), ("title", .str "Emma")]⟩,
    ⟨[("_id", .int 8), ("_source", .null)], []⟩]

/-- The response is reduced to two hits. -/
theorem ofResponse_shelf :
    IsResponse shelfResponse 2 shelfEntries
      ∧ (∀ entry ∈ shelfEntries, ∃ id, entry.id? = some id)
      ∧ ∃ results, SearchResults.ofResponse (.mapping shelfResponse) = .ok results
        ∧ List.Forall₂ Entry.IsHit shelfEntries results.hits
        ∧ results.raw = [("took", .int 3)] := by
  have hstored : ∀ entry ∈ shelfEntries, entry.IsStored ∧ ∃ id, entry.id? = some id := by
    intro entry hentry
    rcases List.mem_cons.1 hentry with rfl | hentry
    · exact ⟨rfl, _, rfl⟩
    · rw [List.mem_singleton] at hentry
      subst hentry
      exact ⟨rfl, _, rfl⟩
  have h : IsResponse shelfResponse 2 shelfEntries :=
    ⟨⟨_, .mapping rfl, .value rfl rfl, .list rfl⟩, fun entry hentry => (hstored entry hentry).1⟩
  have hids : ∀ entry ∈ shelfEntries, ∃ id, entry.id? = some id :=
    fun entry hentry => (hstored entry hentry).2
  obtain ⟨results, -, hresults, -, hhits, -, hraw, -⟩ := (ofResponse_normalises h).1 hids
  exact ⟨h, hids, results, hresults, hhits, hraw⟩

end RecordSearch
