import RecordSearch.Search.Execution
import RecordSearch.Proofs.Requests
import RecordSearch.Proofs.Search.Hits
import RecordSearch.Proofs.Search.Loading

namespace RecordSearch

/-!
# From a search to records

A search without callback is sent, its response is reduced to results, and the records behind
the hits are loaded.

* `searchAndLoad`: a search with the records behind its hits;
* `Answered`: a request with a response that is accepted;
* `StoreKnows`: what the record store holds for an identity when it is asked for many.

If the record store knows every identity, no entry of the response is lost, unless the response
counts no hits at all: then its entries are not looked at (`searchAndLoad_loads_each_hit`).
-/

variable {σ : Type}

/-- A search with the records behind its hits. -/
def searchAndLoad (request : SearchRequest) : Program (List Item) := do
  match ← search request with
  | .results results => loadHits request results
  | .value _ => .fail .noSuchPart

/-- **An accepted response.** The request has no callback, the backend answers it with the
    response, and the response is reduced to the results. -/
structure Answered (surroundings : Surroundings σ) (state : σ) (request : SearchRequest)
    (response : Value) (results : SearchResults) : Prop where
  noCallback : request.callback = none
  sent : ∃ params, request.params (SearchRequest.limitValue request.limit) .null = .ok params
    ∧ (surroundings.answer state (.search params)).1 = .ok response
  accepted : SearchResults.ofResponse response = .ok results

/-- Asked for all identities, the record store answers with items of which one is known for the
    identity. What identifies the items has a text. -/
def StoreKnows (surroundings : Surroundings σ) (type : RecordType) (ids : List Value)
    (id : Value) (item : Item) : Prop :=
  type.loadable = true ∧ ∃ answer, surroundings.resolve type ids = .ok answer
    ∧ (∀ e ∈ answer.pairs, HasText e.1) ∧ KnownAs answer id item

/-- The record store knows each of the identities. -/
def KnowsEach (surroundings : Surroundings σ) (type : RecordType) (ids : List Value) : Prop :=
  ∀ id ∈ ids, ∃ item, StoreKnows surroundings type ids id item

/-- **Nothing is lost.** A search gives one item for each identity, in their order. -/
def LoadsEach (surroundings : Surroundings σ) (state : σ) (request : SearchRequest)
    (ids : List Value) : Prop :=
  ∃ items, ((searchAndLoad request).run surroundings state).outcome = .ok items
    ∧ List.Forall₂ (StoreKnows surroundings request.type ids) ids items

/-- Hits with their identities. -/
theorem exists_ids_of_hits {entries : List Value} {hits : List Document}
    (h : List.Forall₂ HitOf entries hits) :
    ∃ ids : List Value, hits.map (fun hit => hit.get? "_id") = ids.map some
      ∧ List.Forall₂ (fun entry id => HasTextKeys entry → entry.get? "_id" = some id)
          entries ids := by
  induction h with
  | nil => exact ⟨[], rfl, .nil⟩
  | cons hhit _ ih =>
    obtain ⟨id, hid, hown⟩ := hhit
    obtain ⟨ids, hids, hrest⟩ := ih
    refine ⟨id :: ids, ?_, .cons hown hrest⟩
    rw [List.map_cons, List.map_cons, hid, hids]

/-- A search whose response is accepted ends with the results, after one request. -/
theorem run_search {surroundings : Surroundings σ} {state : σ} {request : SearchRequest}
    {response : Value} {results : SearchResults}
    (h : Answered surroundings state request response results) :
    ∃ (line : LogEntry) (params : SearchParams),
      (search request).run surroundings state = ⟨.ok (.results results),
        [.log line, .query (.search params)], (surroundings.answer state (.search params)).2⟩ := by
  obtain ⟨params, hparams, hanswer⟩ := h.sent
  refine ⟨.searching params.index, params, ?_⟩
  rw [search, performSearch, hparams, h.noCallback]
  simp only [Program.ofExcept, Program.done_bind, Program.log, Program.tell_bind, Program.run,
    hanswer, h.accepted]
  rfl

/-- The run of a search whose response is accepted ends with the loading of the hits. No request
    to the record store comes before. -/
theorem run_searchAndLoad {surroundings : Surroundings σ} {state : σ} {request : SearchRequest}
    {response : Value} {results : SearchResults}
    (h : Answered surroundings state request response results) :
    ∃ (before : List Event) (later : σ), (∀ type ids, Event.resolve type ids ∉ before)
      ∧ (searchAndLoad request).run surroundings state =
        { (loadHits request results).run surroundings later with
          events := before ++ ((loadHits request results).run surroundings later).events } := by
  obtain ⟨line, params, hsearch⟩ := run_search h
  refine ⟨[.log line, .query (.search params)], (surroundings.answer state (.search params)).2,
    fun type ids => by simp, ?_⟩
  rw [searchAndLoad, Program.run_bind, hsearch]

/-- The records behind hits are loaded without a request to the backend. -/
theorem eachRequest_loadHits {holds : Query → (Except Failure Value → Program (List Item)) → Prop}
    (request : SearchRequest) (results : SearchResults) :
    (loadHits request results).EachRequest holds := by
  -- On each way through the program there is at most the question to the record store.
  rw [loadHits]
  by_cases htotal : results.total = 0
  · rw [if_pos htotal]
    trivial
  · rw [if_neg htotal]
    refine Program.eachRequest_ofExcept_bind fun ids _ => ?_
    by_cases hnone : ids.isEmpty = true
    · rw [if_pos hnone]
      trivial
    · rw [if_neg hnone]
      by_cases hload : (!request.type.loadable) = true
      · rw [if_pos hload]
        trivial
      · rw [if_neg hload]
        intro answer
        cases answer with
        | error failure => trivial
        | ok resolution =>
          refine Program.eachRequest_ofExcept_bind fun items _ => ?_
          refine Program.eachRequest_ofExcept_bind fun texts _ => ?_
          dsimp only
          split
          · trivial
          · trivial

/-- If the record store knows every identity, loading gives one item for each of them. -/
theorem outcome_loadHits_of_knowsEach (surroundings : Surroundings σ) (state : σ)
    {request : SearchRequest} {results : SearchResults} {ids : List Value}
    (htotal : results.total ≠ 0) (hids : results.ids = .ok ids)
    (hknows : KnowsEach surroundings request.type ids) :
    ∃ items, ((loadHits request results).run surroundings state).outcome = .ok items
      ∧ List.Forall₂ (StoreKnows surroundings request.type ids) ids items := by
  cases ids with
  | nil =>
    refine ⟨[], ?_, .nil⟩
    rw [loadHits, if_neg htotal, hids]
    rfl
  | cons first rest =>
    obtain ⟨_, hload, answer, hanswer, hkeys, -⟩ := hknows first List.mem_cons_self
    -- Every identity is known in the one answer that the record store gives.
    have hknown : ∀ id ∈ first :: rest, ∃ item, KnownAs answer id item := by
      intro id hid
      obtain ⟨item, -, other, hother, -, hitem⟩ := hknows id hid
      rw [hanswer] at hother
      cases hother
      exact ⟨item, hitem⟩
    have htexts : ∀ id ∈ first :: rest, HasText id := by
      intro id hid
      obtain ⟨item, -, _, _, _, _, ⟨text, -, htext⟩, -⟩ := hknown id hid
      exact ⟨text, htext⟩
    obtain ⟨items, hproj, hrun⟩ := run_loadHits_projection surroundings state htotal hids
      (List.cons_ne_nil _ _) hload hanswer ⟨hkeys, htexts⟩
    refine ⟨items, by rw [hrun], ?_⟩
    exact (hproj.forall₂ hknown).imp fun id item hitem => ⟨hload, answer, hanswer, hkeys, hitem⟩

/-- **Only stale hits are dropped.** In an accepted response every entry has an identity, and if
    the response counts hits and the record store knows each identity then there is one item
    for each entry, in the order of the entries.

    If the response counts no hits, or gives no count, there are no items, whatever it lists,
    and the record store is not asked. -/
theorem searchAndLoad_loads_each_hit (surroundings : Surroundings σ) (state : σ)
    (request : SearchRequest) (response : Value) (results : SearchResults)
    (h : Answered surroundings state request response results) :
    ∃ ids : List Value, results.hits.map (fun hit => hit.get? "_id") = ids.map some
      ∧ List.Forall₂ (fun entry id => HasTextKeys entry → entry.get? "_id" = some id)
          (listedHits response) ids
      ∧ Checked.natural (statedTotal response) = .valid results.total
      ∧ (results.total ≠ 0 → KnowsEach surroundings request.type ids →
          LoadsEach surroundings state request ids)
      ∧ (results.total = 0 →
          ((searchAndLoad request).run surroundings state).outcome = .ok []
          ∧ ∀ type asked,
            Event.resolve type asked
              ∉ ((searchAndLoad request).run surroundings state).events) := by
  obtain ⟨ids, hids, howns⟩ := exists_ids_of_hits (hits_of_response h.accepted)
  obtain ⟨before, later, hbefore, hrun⟩ := run_searchAndLoad h
  refine ⟨ids, hids, howns, (exists_documents_of_response h.accepted).1, ?_, ?_⟩
  · intro htotal hknows
    obtain ⟨items, hitems, hall⟩ :=
      outcome_loadHits_of_knowsEach surroundings later htotal (ids_eq hids) hknows
    exact ⟨items, by rw [hrun, hitems], hall⟩
  · intro htotal
    -- A count of zero ends it before the record store is asked.
    have hload : (loadHits request results).run surroundings later = ⟨.ok [], [], later⟩ := by
      rw [loadHits, if_pos htotal]
      rfl
    rw [hrun, hload]
    exact ⟨rfl, fun type asked => by simpa using hbefore type asked⟩

/-- A response that lists one entry, with a count or without. -/
def oneHit (count : Document) : Value :=
  .mapping [("hits", .mapping (count ++ [("hits", .list [.mapping [("_id", .str "1")]])]))]

/-- A backend that gives a response, and a record store that knows one book. -/
def oneBook (response : Value) : Surroundings Unit where
  answer u _ := (.ok response, u)
  resolve _ _ := .ok (.records [⟨bookSearch.type, .int 1, .null⟩])

/-- The book is known for the entry. -/
theorem knowsEach_oneBook (response : Value) :
    KnowsEach (oneBook response) bookSearch.type [.str "1"] := by
  intro id hid
  rw [List.mem_singleton] at hid
  subst hid
  refine ⟨.record ⟨bookSearch.type, .int 1, .null⟩, rfl, _, rfl, fun e he => ?_, rfl, [], .int 1,
    [], rfl, ⟨"1", rfl, rfl⟩, fun e he => nomatch he⟩
  rw [Resolution.pairs, List.map_cons, List.map_nil, List.mem_singleton] at he
  exact ⟨"1", by rw [he]; rfl⟩

/-- The book is loaded if the response counts it. -/
theorem loadsEach_oneHit :
    Answered (oneBook (oneHit [("total", .int 1)])) () bookSearch (oneHit [("total", .int 1)])
        ⟨1, [[("_id", .str "1")]], none, []⟩
      ∧ ∃ ids, [some (Value.str "1")] = ids.map some
        ∧ LoadsEach (oneBook (oneHit [("total", .int 1)])) () bookSearch ids := by
  have h : Answered (oneBook (oneHit [("total", .int 1)])) () bookSearch
      (oneHit [("total", .int 1)]) ⟨1, [[("_id", .str "1")]], none, []⟩ :=
    ⟨rfl, ⟨_, rfl, rfl⟩, rfl⟩
  obtain ⟨ids, hids, -, -, hloads, -⟩ := searchAndLoad_loads_each_hit _ () _ _ _ h
  have hone : ids = [.str "1"] :=
    List.map_injective_iff.2 (fun _ _ => Option.some.inj) hids.symm
  exact ⟨h, ids, hids, hloads (by decide) (hone ▸ knowsEach_oneBook _)⟩

/-- The book is lost if the response gives no count. -/
theorem not_loadsEach_oneHit :
    Answered (oneBook (oneHit [])) () bookSearch (oneHit []) ⟨0, [[("_id", .str "1")]], none, []⟩
      ∧ listedHits (oneHit []) = [.mapping [("_id", .str "1")]]
      ∧ KnowsEach (oneBook (oneHit [])) bookSearch.type [.str "1"]
      ∧ ¬ LoadsEach (oneBook (oneHit [])) () bookSearch [.str "1"] := by
  refine ⟨⟨rfl, ⟨_, rfl, rfl⟩, rfl⟩, rfl, knowsEach_oneBook _, ?_⟩
  rintro ⟨items, hitems, hall⟩
  have hnone : items = [] := (Except.ok.inj hitems).symm
  subst hnone
  cases hall

end RecordSearch
