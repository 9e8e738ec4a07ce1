import RecordSearch.Search.Results
import RecordSearch.Proofs.Checked
import RecordSearch.Proofs.Traversal
import RecordSearch.Proofs.Value.Keyed

namespace RecordSearch

/-!
# The hits of a response

A response lists entries, and results that are made of it have one hit for each of them, in
the order of the entries. Each hit has an identity, and where the stored document has keys of
text only it is the one that the backend gave the entry.

* `listedHits`, `statedTotal`: the entries that a response lists, and the count that it gives;
* `HitOf`: what results keep of an entry;
* `hits_of_response`: the hits of results, entry by entry;
* `ListsHits`: a response that is accepted for sure (`exists_results_of_listsHits`).
-/

/-! ### Entries -/

/-- The entries that a response lists; none if there is no list. -/
def listedHits (response : Value) : List Value :=
  match keyedOf response >>= SearchResults.hitsOf with
  | .ok hits => ((hits.get? "hits").bind Value.elements?).getD []
  | .error _ => []

/-- The count that a response gives; zero if it gives none. -/
def statedTotal (response : Value) : Value :=
  match keyedOf response >>= SearchResults.hitsOf with
  | .ok hits => SearchResults.totalOf hits
  | .error _ => .int 0

/-- The stored document of an entry has keys of text only. -/
def HasTextKeys (entry : Value) : Prop :=
  ∀ source pairs, entry.get? "_source" = some source → keyedOf source = .ok pairs →
    ∀ pair ∈ pairs, ∃ key, pair.1 = .str key

/-- **A hit.** It has an identity, and this is the one of the entry unless a key of the stored
    document is no text. -/
def HitOf (entry : Value) (hit : Document) : Prop :=
  ∃ id, hit.get? "_id" = some id ∧ (HasTextKeys entry → entry.get? "_id" = some id)

/-! ### Keys that are text -/

/-- Only a mapping whose keys are text is a document as it is. -/
theorem toDocument?_eq_some_iff (pairs : Keyed) (d : Document) :
    pairs.toDocument? = some d ↔ pairs = d.map textEntry := by
  induction pairs generalizing d with
  | nil => cases d <;> simp [Keyed.toDocument?]
  | cons pair pairs ih =>
    obtain ⟨key, v⟩ := pair
    cases key with
    | str text =>
      cases d with
      | nil => simp [Keyed.toDocument?]
      | cons entry d =>
        obtain ⟨t, w⟩ := entry
        simp [Keyed.toDocument?, ih, textEntry, and_assoc, and_comm]
    | _ => cases d <;> simp [Keyed.toDocument?, textEntry]

/-- Pairs whose keys are text come from a list with the texts. -/
theorem exists_map_textEntry {α : Type} {pairs : List (Value × α)}
    (h : ∀ pair ∈ pairs, ∃ key, pair.1 = .str key) :
    ∃ entries : List (String × α), pairs = entries.map textEntry := by
  induction pairs with
  | nil => exact ⟨[], rfl⟩
  | cons pair pairs ih =>
    obtain ⟨key, hkey⟩ := h pair List.mem_cons_self
    obtain ⟨entries, hentries⟩ := ih fun other hother => h other (List.mem_cons_of_mem _ hother)
    refine ⟨(key, pair.2) :: entries, ?_⟩
    rw [List.map_cons, ← hentries, textEntry, ← hkey]

/-- A key that is set is there. -/
theorem exists_mem_insertKeyed {α : Type} (pairs : List (Value × α)) (text : String) (a : α) :
    (.str text, a) ∈ Value.insertKeyed pairs (.str text) a := by
  induction pairs with
  | nil => exact List.mem_cons_self
  | cons pair pairs ih =>
    obtain ⟨key, b⟩ := pair
    rw [Value.insertKeyed]
    by_cases h : key.sameKey (.str text) = true
    · rw [if_pos h, (sameKey_str_iff key text).1 h]
      exact List.mem_cons_self
    · rw [if_neg h]
      exact List.mem_cons_of_mem _ ih

/-- A text that is a key of some entries is a key of the document that they make. -/
theorem exists_get?_ofEntries {entries : List (String × Value)} {key : String} {v : Value}
    (h : (key, v) ∈ entries) : ∃ w, (Document.ofEntries entries).get? key = some w := by
  rw [get?_ofEntries]
  exact exists_get?_of_mem (List.mem_reverse.2 h)

/-- Keys that are text are kept by the check of all keys. -/
theorem mem_of_checkKeys {pairs : Keyed} {entries : List (String × Value)}
    (h : pairs.checkKeys = .valid entries) {key : String} {v : Value}
    (hmem : (.str key, v) ∈ pairs) : (key, v) ∈ entries := by
  induction pairs generalizing entries with
  | nil => cases hmem
  | cons pair pairs ih =>
    obtain ⟨first, w⟩ := pair
    obtain ⟨add, rest, hadd, hrest, rfl⟩ := Checked.seq_eq_valid_iff.1 h
    obtain ⟨text, htext, rfl⟩ := Checked.map_eq_valid_iff.1 hadd
    rcases List.mem_cons.1 hmem with heq | hmem
    · obtain ⟨rfl, rfl⟩ := Prod.mk.inj heq
      rw [Checked.inside_eq_valid_iff, Checked.inside_eq_valid_iff, Checked.text_str,
        Checked.valid.injEq] at htext
      rw [htext]
      exact List.mem_cons_self
    · exact List.mem_cons_of_mem _ (ih hrest hmem)

/-- A key that is text is a key of the document that passes the check. -/
theorem exists_get?_of_check {pairs : Keyed} {d : Document} (h : pairs.check = .valid d)
    {key : String} {v : Value} (hmem : (.str key, v) ∈ pairs) : ∃ w, d.get? key = some w := by
  rw [Keyed.check] at h
  -- Only if some key is no text are the keys checked one by one.
  cases hd : pairs.toDocument? with
  | some e =>
    rw [hd, Checked.valid.injEq] at h
    rw [(toDocument?_eq_some_iff pairs e).1 hd] at hmem
    obtain ⟨entry, hentry, heq⟩ := List.mem_map.1 hmem
    obtain ⟨hkey, rfl⟩ := Prod.mk.inj heq
    rw [← h, ← Value.str.inj hkey]
    exact exists_get?_of_mem hentry
  | none =>
    rw [hd] at h
    obtain ⟨entries, hentries, rfl⟩ := Checked.map_eq_valid_iff.1 h
    exact exists_get?_ofEntries (mem_of_checkKeys hentries hmem)

/-- A mapping whose keys are text passes the check as it is. -/
theorem check_map_textEntry (d : Document) : Keyed.check (d.map textEntry) = .valid d := by
  rw [Keyed.check, (toDocument?_eq_some_iff _ d).2 rfl]

/-! ### Results of a response -/

/-- The stored document of an entry; an entry without one has an empty document. -/
def storedPairs (fields : Document) : Except Error Keyed :=
  match Document.get? fields "_source" with
  | some source => if source.isTruthy then keyedOf source else .ok []
  | none => .ok []

/-- The document of an entry is what is stored, with the identity of the entry set. -/
theorem documentOf_of_entries {entry : Value} {fields : Document}
    (h : entry.entries? = some fields) :
    SearchResults.documentOf entry = storedPairs fields >>= fun stored =>
      match Document.get? fields "_id" with
      | some id => .ok (Value.insertKeyed stored (.str "_id") id)
      | none => .error (.missingKey "_id") := by
  rw [SearchResults.documentOf, h]
  dsimp only
  rw [storedPairs]
  cases Document.get? fields "_source" with
  | none => rfl
  | some source =>
    rw [Option.getD_some]
    dsimp only
    split <;> rfl

/-- An entry has a document if what is stored has entries, and the entry has an identity. -/
theorem documentOf_eq_ok_iff (entry : Value) (pairs : Keyed) :
    SearchResults.documentOf entry = .ok pairs ↔
      ∃ fields stored id, entry.entries? = some fields ∧ storedPairs fields = .ok stored
        ∧ Document.get? fields "_id" = some id
        ∧ pairs = Value.insertKeyed stored (.str "_id") id := by
  cases hentries : entry.entries? with
  | some fields =>
    rw [documentOf_of_entries hentries, bind_eq_ok_iff]
    constructor
    · rintro ⟨stored, hstored, h⟩
      -- The identity comes last, and an entry without one is an error.
      cases hid : Document.get? fields "_id" with
      | none =>
        rw [hid] at h
        cases h
      | some id =>
        rw [hid] at h
        exact ⟨fields, stored, id, rfl, hstored, hid, (Except.ok.inj h).symm⟩
    · rintro ⟨_, stored, id, heq, hstored, hid, rfl⟩
      cases heq
      exact ⟨stored, hstored, by rw [hid]⟩
  | none => simp [SearchResults.documentOf, hentries]

/-- The stored document of an entry with keys of text has keys of text. -/
theorem text_keys_of_storedPairs {entry : Value} {fields : Document} {stored : Keyed}
    (hfields : entry.entries? = some fields) (h : storedPairs fields = .ok stored)
    (htext : HasTextKeys entry) : ∀ pair ∈ stored, ∃ key, pair.1 = .str key := by
  rw [storedPairs] at h
  cases hsource : Document.get? fields "_source" with
  | none =>
    rw [hsource] at h
    cases h
    exact fun pair hpair => nomatch hpair
  | some source =>
    rw [hsource] at h
    dsimp only at h
    -- What is stored is read only if it is not empty.
    by_cases htrue : source.isTruthy = true
    · rw [if_pos htrue] at h
      exact htext source stored (by rw [Value.get?, hfields, Option.bind_some, hsource]) h
    · rw [if_neg htrue] at h
      cases h
      exact fun pair hpair => nomatch hpair

/-- The document of an entry that passes the check is a hit. -/
theorem hitOf_of_check {entry : Value} {pairs : Keyed} {hit : Document}
    (hpairs : SearchResults.documentOf entry = .ok pairs) (hhit : pairs.check = .valid hit) :
    HitOf entry hit := by
  obtain ⟨fields, stored, own, hfields, hstored, hown, rfl⟩ :=
    (documentOf_eq_ok_iff _ _).1 hpairs
  by_cases hkeys : HasTextKeys entry
  · -- With keys of text only, setting the identity is setting it in the document.
    obtain ⟨entries, rfl⟩ := exists_map_textEntry (text_keys_of_storedPairs hfields hstored hkeys)
    rw [insertKeyed_textEntry, check_map_textEntry, Checked.valid.injEq] at hhit
    refine ⟨own, ?_, fun _ => by rw [Value.get?, hfields, Option.bind_some, hown]⟩
    rw [← hhit, Document.get?, lookup_setText, if_pos rfl]
  · obtain ⟨id, hid⟩ := exists_get?_of_check hhit (exists_mem_insertKeyed stored "_id" own)
    exact ⟨id, hid, fun h => absurd h hkeys⟩

/-- Documents that pass the check together pass it one by one. -/
theorem forall₂_of_checkAllFrom {documents : List Keyed} {hits : List Document} {index : Nat}
    (h : Keyed.checkAllFrom index documents = .valid hits) :
    List.Forall₂ (fun pairs hit => pairs.check = .valid hit) documents hits := by
  induction documents generalizing hits index with
  | nil =>
    rw [← Checked.valid.inj h]
    exact .nil
  | cons pairs documents ih =>
    obtain ⟨add, rest, hadd, hrest, rfl⟩ := Checked.seq_eq_valid_iff.1 h
    obtain ⟨hit, hhit, rfl⟩ := Checked.map_eq_valid_iff.1 hadd
    exact .cons (Checked.inside_eq_valid_iff.1 hhit) (ih hrest)

/-- Results count what a response gives as its count, and their hits are the documents of the
    entries that it lists, with the keys checked. -/
theorem exists_documents_of_response {response : Value} {results : SearchResults}
    (h : SearchResults.ofResponse response = .ok results) :
    Checked.natural (statedTotal response) = .valid results.total
      ∧ ∃ documents, (listedHits response).mapM SearchResults.documentOf = .ok documents
        ∧ Keyed.checkAllFrom 0 documents = .valid results.hits := by
  obtain ⟨envelope, henvelope, h⟩ := bind_eq_ok_iff.1 h
  obtain ⟨hits, hhits, h⟩ := bind_eq_ok_iff.1 h
  dsimp only at h
  cases hmembers : ((hits.get? "hits").getD (.list [])).elements? with
  | none =>
    rw [hmembers] at h
    cases h
  | some members =>
    rw [hmembers] at h
    obtain ⟨documents, hdocuments, h⟩ := bind_eq_ok_iff.1 h
    have hstated : statedTotal response = SearchResults.totalOf hits := by
      rw [statedTotal, bind_eq_ok_iff.2 ⟨envelope, henvelope, hhits⟩]
    have hlisted : listedHits response = members := by
      rw [listedHits, bind_eq_ok_iff.2 ⟨envelope, henvelope, hhits⟩]
      dsimp only
      cases hlist : hits.get? "hits" with
      | none =>
        rw [hlist] at hmembers
        exact Option.some.inj hmembers
      | some list =>
        rw [hlist, Option.getD_some] at hmembers
        rw [Option.bind_some, hmembers, Option.getD_some]
    -- The results pass as a whole, so that their parts do.
    obtain ⟨_, raw, hparts, -, rfl⟩ := Checked.seq_eq_valid_iff.1 (Checked.toExcept_eq_ok_iff.1 h)
    obtain ⟨_, pages, hcounted, -, rfl⟩ := Checked.seq_eq_valid_iff.1 hparts
    obtain ⟨_, checked, htotal, hchecked, rfl⟩ := Checked.seq_eq_valid_iff.1 hcounted
    obtain ⟨total, hnatural, rfl⟩ := Checked.map_eq_valid_iff.1 htotal
    refine ⟨?_, documents, hlisted ▸ hdocuments, Checked.inside_eq_valid_iff.1 hchecked⟩
    rw [hstated]
    exact Checked.inside_eq_valid_iff.1 hnatural

/-- **One hit for each entry.** Results of a response have one hit for each entry that it lists,
    in the order of the entries. -/
theorem hits_of_response {response : Value} {results : SearchResults}
    (h : SearchResults.ofResponse response = .ok results) :
    List.Forall₂ HitOf (listedHits response) results.hits := by
  obtain ⟨-, documents, hdocuments, hchecked⟩ := exists_documents_of_response h
  refine forall₂_trans ?_ (forall₂_of_mapM_eq_ok hdocuments) (forall₂_of_checkAllFrom hchecked)
  exact fun _ _ _ hpairs hhit => hitOf_of_check hpairs hhit

/-! ### Responses that are accepted -/

/-- An entry with an identity. The stored document is a mapping of any content, or there is
    none. -/
def IsEntryOf (id : String) (entry : Value) : Prop :=
  ∃ fields, entry = .mapping fields ∧ Document.get? fields "_id" = some (.str id)
    ∧ ∀ source, Document.get? fields "_source" = some source →
      source.isTruthy = false ∨ ∃ stored, source = .mapping stored

/-- **A response with a count and entries** for the identities, one after the other. -/
inductive ListsHits (total : Nat) (ids : List String) : Value → Prop where
  | mk {envelope hits : Document} {entries : List Value}
      (hhits : envelope.get? "hits" = some (.mapping hits))
      (hentries : hits.get? "hits" = some (.list entries))
      (htotal : Checked.natural (SearchResults.totalOf hits) = .valid total)
      (heach : List.Forall₂ IsEntryOf ids entries) : ListsHits total ids (.mapping envelope)

/-- The stored document of an entry has keys of text. -/
theorem exists_storedPairs_eq {fields : Document}
    (h : ∀ source, Document.get? fields "_source" = some source →
      source.isTruthy = false ∨ ∃ stored, source = .mapping stored) :
    ∃ d : Document, storedPairs fields = .ok (d.map textEntry) := by
  rw [storedPairs]
  cases hsource : Document.get? fields "_source" with
  | none => exact ⟨[], rfl⟩
  | some source =>
    dsimp only
    by_cases htrue : source.isTruthy = true
    · rw [if_pos htrue]
      rcases h source hsource with hfalse | ⟨stored, rfl⟩
      · rw [hfalse] at htrue
        cases htrue
      · exact ⟨stored, rfl⟩
    · rw [if_neg htrue]
      exact ⟨[], rfl⟩

/-- The document of an entry has the identity of the entry, whatever the stored document says. -/
theorem exists_documentOf_eq {id : String} {entry : Value} (h : IsEntryOf id entry) :
    ∃ d : Document, SearchResults.documentOf entry = .ok (d.map textEntry)
      ∧ d.get? "_id" = some (.str id) := by
  obtain ⟨fields, rfl, hid, hsource⟩ := h
  obtain ⟨stored, hstored⟩ := exists_storedPairs_eq hsource
  refine ⟨setText stored "_id" (.str id), ?_, ?_⟩
  · rw [documentOf_eq_ok_iff]
    exact ⟨fields, _, _, rfl, hstored, hid, (insertKeyed_textEntry _ _ _).symm⟩
  · rw [Document.get?, lookup_setText, if_pos rfl]

/-- The documents of entries have the identities of these, in their order. -/
theorem exists_documents_eq {ids : List String} {entries : List Value}
    (h : List.Forall₂ IsEntryOf ids entries) :
    ∃ ds : List Document, entries.mapM SearchResults.documentOf = .ok (ds.map (·.map textEntry))
      ∧ ds.map (fun d => d.get? "_id") = (ids.map Value.str).map some := by
  simp only [mapM_eq_ok_iff]
  induction h with
  | nil => exact ⟨[], rfl, rfl⟩
  | cons hentry _ ih =>
    obtain ⟨d, hd, hid⟩ := exists_documentOf_eq hentry
    obtain ⟨ds, hds, hids⟩ := ih
    refine ⟨d :: ds, ?_, ?_⟩
    · rw [List.map_cons, hd, hds]
      rfl
    · rw [List.map_cons, hid, hids]
      rfl

/-- Mappings whose keys are text pass the check together as they are. -/
theorem checkAllFrom_map_textEntry (ds : List Document) (index : Nat) :
    Keyed.checkAllFrom index (ds.map (·.map textEntry)) = .valid ds := by
  induction ds generalizing index with
  | nil => rfl
  | cons d ds ih =>
    rw [List.map_cons, Keyed.checkAllFrom, check_map_textEntry, ih]
    rfl

/-- A key of text is looked up in a mapping as in the document. -/
theorem get?_map_textEntry (d : Document) (key : String) :
    Keyed.get? (d.map textEntry) key = Document.get? d key := by
  rw [Keyed.get?, Document.get?]
  induction d with
  | nil => rfl
  | cons entry d ih =>
    obtain ⟨text, v⟩ := entry
    rw [List.map_cons, List.find?_cons, lookup_cons_eq, textEntry]
    by_cases h : key = text
    · rw [(sameKey_str_iff _ _).2 (congrArg Value.str h.symm), if_pos h]
      rfl
    · have hother : (Value.str text).sameKey (.str key) = false := by
        rw [Bool.eq_false_iff, ne_eq, sameKey_str_iff, Value.str.injEq]
        exact fun heq => h heq.symm
      rw [hother, if_neg h]
      exact ih

/-- Without a key of text, a mapping whose keys are text is the document without that key. -/
theorem erase_map_textEntry (d : Document) (key : String) :
    Keyed.erase (d.map textEntry) key = (d.filter fun e => e.1 ≠ key).map textEntry := by
  rw [Keyed.erase, List.filter_map]
  congr 1
  refine List.filter_congr fun e _ => ?_
  rw [Function.comp_apply, textEntry, Bool.eq_iff_iff, Bool.not_eq_true', Bool.eq_false_iff, ne_eq,
    sameKey_str_iff, Value.str.injEq, decide_eq_true_eq]

/-- The reduction of a response whose hits part lists members. -/
theorem ofResponse_mapping {response part : Document} {members : List Value}
    (hpart : SearchResults.hitsOf (response.map textEntry) = .ok part)
    (hmembers : ((part.get? "hits").getD (.list [])).elements? = some members) :
    SearchResults.ofResponse (.mapping response) =
      members.mapM SearchResults.documentOf >>= fun documents =>
        (SearchResults.ofParts (SearchResults.totalOf part) documents
          ((response.filter fun e => e.1 ≠ "hits").map textEntry)).toExcept := by
  have henvelope : keyedOf (.mapping response) = .ok (response.map textEntry) := rfl
  rw [SearchResults.ofResponse, henvelope]
  show (SearchResults.hitsOf (response.map textEntry) >>= _) = _
  rw [hpart, ← erase_map_textEntry]
  simp only [bind, Except.bind, hmembers]

/-- Documents whose keys are text pass the check as they are, and with them the other parts of a
    response. -/
theorem ofParts_map_textEntry {count : Value} {total : Nat}
    (htotal : Checked.natural count = .valid total) (ds : List Document) (raw : Document) :
    SearchResults.ofParts count (ds.map (·.map textEntry)) (raw.map textEntry) =
      .valid ⟨total, ds, none, raw⟩ := by
  rw [SearchResults.ofParts, htotal, checkAllFrom_map_textEntry, check_map_textEntry]
  rfl

/-- **A response that lists hits is accepted.** The results have its count, and one hit for each
    entry, with the identity of that. -/
theorem exists_results_of_listsHits {total : Nat} {ids : List String} {response : Value}
    (h : ListsHits total ids response) :
    ∃ results, SearchResults.ofResponse response = .ok results ∧ results.total = total
      ∧ results.hits.map (fun hit => hit.get? "_id") = (ids.map Value.str).map some := by
  cases h with
  | @mk envelope hits entries hhits hentries htotal heach =>
    obtain ⟨ds, hdocuments, hids⟩ := exists_documents_eq heach
    refine ⟨⟨total, ds, none, envelope.filter fun e => e.1 ≠ "hits"⟩, ?_, rfl, hids⟩
    have hpart : SearchResults.hitsOf (envelope.map textEntry) = .ok hits := by
      rw [SearchResults.hitsOf, get?_map_textEntry, hhits]
      rfl
    have hmembers : ((hits.get? "hits").getD (.list [])).elements? = some entries := by
      rw [hentries]
      rfl
    rw [ofResponse_mapping hpart hmembers, hdocuments]
    show (SearchResults.ofParts _ (ds.map (·.map textEntry)) _).toExcept = _
    rw [ofParts_map_textEntry htotal, Checked.toExcept_valid]

end RecordSearch
