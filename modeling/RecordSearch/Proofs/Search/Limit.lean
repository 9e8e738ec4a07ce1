import RecordSearch.Proofs.Search.Callback
import RecordSearch.Proofs.Search.Hits

namespace RecordSearch

/-!
# The limit of a search

The limit of a request is sent as the number of hits that the backend is to return, and results
have one hit for each that was returned. A limit of zero is not sent, nor is a missing one, so
that the backend returns as many hits as it does when it is not told.

* `usualSize`: the number of hits that a backend returns if it is not told how many;
* `SearchParams.mostHits`: the most hits that parameters allow;
* `KeepsToSize`: a backend that never returns more.

`search_answered` says what a search without a callback comes to, and `search_within_limit` bounds
its hits.
-/

variable {σ : Type}

/-! ### Backends that keep to a size -/

/-- The number of hits that a backend returns if it is not told how many. -/
def usualSize : Nat := 10

/-- The most hits that parameters allow: as many as the size in their body says. -/
def SearchParams.mostHits (params : SearchParams) : Nat :=
  match params.body.toValue.get? "size" with
  | some (.int size) => size.toNat
  | _ => usualSize

/-- **A backend that keeps to the size.** It answers a search with any response that lists no more
    hits than the parameters allow, or not at all. -/
def KeepsToSize (surroundings : Surroundings σ) : Prop :=
  ∀ (state : σ) (params : SearchParams) (response : Value),
    (surroundings.answer state (.search params)).1 = .ok response →
    (listedHits response).length ≤ params.mostHits

/-- **What a search comes to.** It sends one search with the parameters and nothing else, and a
    response is reduced to results; what the backend cannot answer is an error. -/
structure Answers (surroundings : Surroundings σ) (state : σ) (request : SearchRequest)
    (params : SearchParams) : Prop where
  sent : (search request).exchanges surroundings state =
    [(.search params, (surroundings.answer state (.search params)).1)]
  reduced : ∀ response, (surroundings.answer state (.search params)).1 = .ok response →
    ((search request).run surroundings state).outcome =
      Reply.results <$> SearchResults.ofResponse response
  failed : ∀ failure, (surroundings.answer state (.search params)).1 = .error failure →
    ∀ reply, ((search request).run surroundings state).outcome ≠ .ok reply

/-! ### One search -/

section

variable {request : SearchRequest} {params : SearchParams}

/-- Without a callback, the search with composed parameters is answered. -/
theorem search_answered (hcallback : request.callback = none)
    (hparams : request.params (SearchRequest.limitValue request.limit) .null = .ok params)
    (surroundings : Surroundings σ) (state : σ) : Answers surroundings state request params := by
  have hown : request.withoutCallback = request := by
    rw [SearchRequest.withoutCallback, ← hcallback]
  have hsearch : search request = performSearch request.withoutCallback
      (SearchRequest.limitValue request.limit) .null := by rw [hown, search]
  refine ⟨?_, fun response hanswer => ?_, fun failure hanswer reply => ?_⟩
  · have hsame : SameSearch search request params :=
      sameSearch_of_params hparams Except.ok (search_eq _) fun _ => search_eq _
    rw [← hsame.sent surroundings state, hown]
  · rw [hsearch, outcome_performSearch hparams surroundings state hanswer]
  · rw [hsearch, performSearch_withoutCallback hparams, Program.run, Program.run, hanswer]
    exact Program.outcome_failWith_ne_ok surroundings _ _ _ reply

/-- The hits of results that are found are no more than the parameters allow. -/
theorem Answers.length_hits_le {surroundings : Surroundings σ} {state : σ}
    (h : Answers surroundings state request params) (hkeeps : KeepsToSize surroundings)
    {results : SearchResults}
    (hfound : ((search request).run surroundings state).outcome = .ok (.results results)) :
    results.hits.length ≤ params.mostHits := by
  -- Only an answer that is read as results counts, and its entries are the hits.
  cases hanswer : (surroundings.answer state (.search params)).1 with
  | error failure => exact absurd hfound (h.failed failure hanswer _)
  | ok response =>
    rw [h.reduced response hanswer] at hfound
    cases hresults : SearchResults.ofResponse response with
    | error e =>
      rw [hresults] at hfound
      cases hfound
    | ok found =>
      rw [hresults] at hfound
      cases hfound
      have hlength := (hits_of_response hresults).length_eq
      rw [← hlength]
      exact hkeeps state params response hanswer

/-- A limit of at least one is the size of the body. -/
theorem size_of_limit
    (hparams : request.params (SearchRequest.limitValue request.limit) .null = .ok params)
    {limit : Nat} (hlimit : request.limit = some limit) (hpos : 1 ≤ limit) :
    params.body.toValue.get? "size" = some (.int limit) := by
  have htrue : (Value.int limit).isTruthy = true := by
    have hne : (limit : Int) ≠ 0 := by omega
    simpa [Value.isTruthy] using hne
  rw [(window_of_params hparams).2, hlimit, SearchRequest.limitValue, SearchRequest.truthy?,
    if_pos htrue]

/-- Without a limit the body has no size, and with a limit of zero neither. -/
theorem no_size_of_limit
    (hparams : request.params (SearchRequest.limitValue request.limit) .null = .ok params)
    (hlimit : request.limit = none ∨ request.limit = some 0) :
    params.body.toValue.get? "size" = none := by
  rw [(window_of_params hparams).2]
  rcases hlimit with hnone | hzero
  · rw [hnone]
    rfl
  · rw [hzero]
    rfl

end

/-! ### Main result -/

/-- **A search keeps to its limit.** Take a request without a callback and a backend that keeps to
    the size. Unless the schema of the record type has no fields for the free text, which ends the
    search before anything is sent, one search is sent and what it comes to is the response reduced
    to results. A limit of at least one is the size in the body, and then results have no more hits
    than the limit. Without a limit, and also with a limit of zero, there is no size in the body,
    and results have no more hits than are usual. -/
theorem search_within_limit (request : SearchRequest) (hcallback : request.callback = none)
    (surroundings : Surroundings σ) (hkeeps : KeepsToSize surroundings) (state : σ) :
    (∃ e, request.freeText = .error e
        ∧ (search request).run surroundings state = ⟨.error e, [], state⟩)
      ∨ ∃ params, Answers surroundings state request params
        ∧ (∀ limit, request.limit = some limit → 1 ≤ limit →
          params.body.toValue.get? "size" = some (.int limit)
          ∧ ∀ results, ((search request).run surroundings state).outcome = .ok (.results results) →
            results.hits.length ≤ limit)
        ∧ (request.limit = none ∨ request.limit = some 0 →
          params.body.toValue.get? "size" = none
          ∧ ∀ results, ((search request).run surroundings state).outcome = .ok (.results results) →
            results.hits.length ≤ usualSize) := by
  cases hparams : request.params (SearchRequest.limitValue request.limit) .null with
  | error e =>
    refine .inl ⟨e, (params_eq_error_iff ..).1 hparams, ?_⟩
    rw [search, performSearch, hparams]
    rfl
  | ok params =>
    -- With parameters there is one request, and the backend keeps to the size in it.
    have hanswers := search_answered hcallback hparams surroundings state
    refine .inr ⟨params, hanswers, fun limit hlimit hpos => ?_, fun hlimit => ?_⟩
    · have hsize := size_of_limit hparams hlimit hpos
      refine ⟨hsize, fun results hfound => ?_⟩
      have hmost := hanswers.length_hits_le hkeeps hfound
      rwa [SearchParams.mostHits, hsize] at hmost
    · have hsize := no_size_of_limit hparams hlimit
      refine ⟨hsize, fun results hfound => ?_⟩
      have hmost := hanswers.length_hits_le hkeeps hfound
      rwa [SearchParams.mostHits, hsize] at hmost

/-! ### A backend that keeps to the size -/

/-- A backend with some entries, which answers a search with as many of them as it may. -/
def stocked (entries : List Value) : Surroundings Unit where
  answer u query :=
    match query with
    | .search params =>
      (.ok (.mapping [("hits", .mapping [("hits", .list (entries.take params.mostHits))])]), u)
    | _ => (.ok .null, u)
  resolve _ _ := .ok (.records [])

/-- It keeps to the size. -/
theorem keepsToSize_stocked (entries : List Value) : KeepsToSize (stocked entries) := by
  intro u params response hanswer
  cases hanswer
  exact List.length_take_le _ _

/-- Three pairs of shoes. -/
def threePairs : List Value :=
  [.mapping [("_id", .str "7")], .mapping [("_id", .str "8")], .mapping [("_id", .str "9")]]

/-- With a limit of two, two of the three pairs are found, which is within the limit. Without a
    limit all three are found, which is within the usual number. -/
theorem threePairs_within_limit :
    redShoes.callback = none ∧ KeepsToSize (stocked threePairs) ∧ 1 ≤ 2
      ∧ (∃ results, ((search { redShoes with limit := some 2 }).run (stocked threePairs)
            ()).outcome = .ok (.results results)
          ∧ results.hits.length = 2 ∧ results.hits.length ≤ 2)
      ∧ ∃ results, ((search { redShoes with limit := none }).run (stocked threePairs)
            ()).outcome = .ok (.results results)
          ∧ results.hits.length = 3 ∧ results.hits.length ≤ usualSize := by
  have hkeeps := keepsToSize_stocked threePairs
  refine ⟨rfl, hkeeps, by decide, ?_, ?_⟩
  · rcases search_within_limit { redShoes with limit := some 2 } rfl _ hkeeps () with
      ⟨e, hfree, -⟩ | ⟨params, -, hwithin, -⟩
    · cases hfree
    · exact ⟨_, rfl, rfl, (hwithin 2 rfl (by decide)).2 _ rfl⟩
  · rcases search_within_limit { redShoes with limit := none } rfl _ hkeeps () with
      ⟨e, hfree, -⟩ | ⟨params, -, -, hwithin⟩
    · cases hfree
    · exact ⟨_, rfl, rfl, (hwithin (.inl rfl)).2 _ rfl⟩

/-- With a limit of zero all three pairs are found, which is more than the limit. -/
theorem threePairs_beyond_zero :
    KeepsToSize (stocked threePairs)
      ∧ ∃ results, ((search { redShoes with limit := some 0 }).run (stocked threePairs)
            ()).outcome = .ok (.results results)
          ∧ results.hits.length = 3 ∧ ¬ results.hits.length ≤ 0 :=
  ⟨keepsToSize_stocked threePairs, _, rfl, rfl, by decide⟩

end RecordSearch
