import RecordSearch.Search.Execution
import RecordSearch.Proofs.Exchanges
import RecordSearch.Proofs.Search.Meaning

namespace RecordSearch

/-!
# Searches that are left to a callback

A request may carry a callback that takes the place of the search. The parameters are composed
before it is looked whether there is one, so that a callback is given what would be sent without
it, with the own client of the engine. What a callback returns is the reply to a search. A page is
another matter: if a callback returns results, the number of their pages is set, whatever it was.

* `SameSearch`: a search that is sent, and the same search when it is left to a callback;
* `Callback.noted`, `Callback.forwarding`: a callback whose invocations are events, and one that
  does nothing but send the search;
* `LeavesTo`: a program that makes no request but those of a callback;
* `Reply.paged`, `Reply.IsPaged`: what a page makes of a reply, and which replies it keeps.

`callback_takes_same_search` compares the two ways, and `callback_reply_kept` says which replies
of a callback reach the caller as they are.
-/

variable {σ : Type}

/-! ### With a callback and without -/

/-- The request with a callback instead of its own. -/
def SearchRequest.withCallback (request : SearchRequest) (callback : Callback) : SearchRequest :=
  { request with callback := some callback }

/-- The request without its callback. -/
def SearchRequest.withoutCallback (request : SearchRequest) : SearchRequest :=
  { request with callback := none }

/-- A callback whose invocations are events. -/
def Callback.noted (callback : Callback) : Callback := fun client params =>
  .tell (.callback client.number params) (callback client params)

/-- The callback that sends the search through the client that it is given, and returns the
    response as it is. -/
def Callback.forwarding : Callback := fun client params => do
  match ← client.send (.search params) with
  | .ok response => return .value response
  | .error failure => .fail (.raised failure)

/-- What a page of the given number of hits makes of a reply. -/
def Reply.paged (perPage : Int) : Reply → Except Error Reply
  | .results found => .results <$> withPages found (.int perPage)
  | .value v => .ok (.value v)

/-- A page keeps the reply as it is: that is not made of results, or their number of pages is the
    quotient already. -/
def Reply.IsPaged (perPage : Int) : Reply → Prop
  | .results found => ∃ pages,
      Binary64.divide? found.total perPage = some pages ∧ found.pages = some pages
  | .value _ => True

/-- **One search, two ways.** Without a callback an operation asks the backend for nothing but
    the search with the parameters. With any callback it asks for nothing itself: it invokes the
    callback once, with the own client and the same parameters, and does what that does. -/
structure SameSearch (operation : SearchRequest → Program Reply) (request : SearchRequest)
    (params : SearchParams) : Prop where
  sent : ∀ {σ : Type} (surroundings : Surroundings σ) (state : σ),
    (operation request.withoutCallback).exchanges surroundings state =
      [(.search params, (surroundings.answer state (.search params)).1)]
  handedOver : ∀ (callback : Callback) {σ : Type} (surroundings : Surroundings σ) (state : σ),
    let own := (callback .own params).run surroundings state
    let ending := (operation (request.withCallback callback.noted)).run surroundings state
    ending.events = .callback Client.own.number params :: own.events ∧ ending.state = own.state

/-! ### Results that are finished by a computation -/

namespace Program

variable {α β : Type}

/-- To change the result of a computation is a computation. -/
theorem map_ofExcept (f : α → β) (result : Except Error α) :
    f <$> ofExcept result = ofExcept (f <$> result) := by
  cases result with
  | ok a => rfl
  | error e => rfl

/-- A computation at the end of a program changes nothing but the outcome. -/
theorem run_bind_ofExcept (surroundings : Surroundings σ) (p : Program α)
    (finish : α → Except Error β) (state : σ) :
    (p >>= fun a => ofExcept (finish a)).run surroundings state =
      ⟨(p.run surroundings state).outcome >>= finish, (p.run surroundings state).events,
        (p.run surroundings state).state⟩ := by
  rw [run_bind]
  rcases p.run surroundings state with ⟨outcome, events, later⟩
  cases outcome with
  | error e => rfl
  | ok a =>
    show Ending.mk _ (events ++ _) _ = Ending.mk (finish a) events later
    cases finish a with
    | ok b => simp [ofExcept, run]
    | error e => simp [ofExcept, run]

/-- A computation at the end of a program makes no exchange. -/
theorem exchanges_bind_ofExcept (surroundings : Surroundings σ) (p : Program α)
    (finish : α → Except Error β) (state : σ) :
    (p >>= fun a => ofExcept (finish a)).exchanges surroundings state =
      p.exchanges surroundings state := by
  rw [exchanges_bind]
  rcases p.run surroundings state with ⟨outcome, events, later⟩
  cases outcome with
  | ok a => simp
  | error e => simp

end Program

/-! ### The parameters come first -/

/-- With a callback, the search is what the callback makes of the own client and the
    parameters. -/
theorem performSearch_withCallback {request : SearchRequest} {size offset : Value}
    {params : SearchParams} (hparams : request.params size offset = .ok params)
    (callback : Callback) :
    performSearch (request.withCallback callback) size offset = callback .own params := by
  -- The parameters do not depend on the callback.
  have hsame : (request.withCallback callback).params size offset = .ok params := hparams
  rw [performSearch, hsame]
  rfl

/-- Without a callback, the search is sent with the parameters. -/
theorem performSearch_withoutCallback {request : SearchRequest} {size offset : Value}
    {params : SearchParams} (hparams : request.params size offset = .ok params) :
    performSearch request.withoutCallback size offset =
      .tell (.log (.searching params.index)) (.ask (.search params) fun
        | .error failure =>
          Program.failWith failure (.searchFailed params.index.text failure)
        | .ok response => .results <$> Program.ofExcept (SearchResults.ofResponse response)) := by
  have hsame : request.withoutCallback.params size offset = .ok params := hparams
  rw [performSearch, hsame]
  rfl

/-- A search is sent, and nothing is made of its reply. -/
theorem search_eq (request : SearchRequest) :
    search request =
      performSearch request (SearchRequest.limitValue request.limit) .null >>= fun reply =>
        Program.ofExcept (.ok reply) := by
  show search request = performSearch request _ _ >>= pure
  rw [bind_pure, search]

/-- A page is a search whose reply is paged. -/
theorem paginate_eq (request : SearchRequest) {perPage : Int} (hperPage : 1 ≤ perPage)
    (page : Int) :
    paginate request (.int perPage) (.int page) =
      performSearch request (.int perPage) (.int (page * perPage - perPage)) >>= fun reply =>
        Program.ofExcept (reply.paged perPage) := by
  rw [paginate_int, if_neg (by omega)]
  refine congrArg _ (funext fun reply => ?_)
  cases reply with
  | results results => exact Program.map_ofExcept Reply.results _
  | value v => rfl

/-- A search whose parameters can be composed is the same search with a callback and without,
    however its reply is finished. -/
theorem sameSearch_of_params {request : SearchRequest} {size offset : Value}
    {params : SearchParams} (hparams : request.params size offset = .ok params)
    (finish : Reply → Except Error Reply) {operation : SearchRequest → Program Reply}
    (hwithout : operation request.withoutCallback =
      performSearch request.withoutCallback size offset >>= fun reply =>
        Program.ofExcept (finish reply))
    (hwith : ∀ callback, operation (request.withCallback callback) =
      performSearch (request.withCallback callback) size offset >>= fun reply =>
        Program.ofExcept (finish reply)) :
    SameSearch operation request params where
  sent surroundings state := by
    rw [hwithout, Program.exchanges_bind_ofExcept, performSearch_withoutCallback hparams,
      Program.exchanges, Program.exchanges]
    -- Nothing is asked after the search, whatever the answer to it was.
    cases (surroundings.answer state (.search params)).1 with
    | error failure => simp
    | ok response => simp [Program.map_ofExcept]
  handedOver callback _ surroundings state := by
    intro own ending
    have hending :
        ending = ⟨own.outcome >>= finish, .callback Client.own.number params :: own.events,
          own.state⟩ := by
      show (operation _).run surroundings state = _
      rw [hwith, Program.run_bind_ofExcept, performSearch_withCallback hparams]
      rfl
    rw [hending]
    exact ⟨rfl, rfl⟩

/-! ### Requests of the callback alone -/

/-- **All is left to the callback.** A program makes no request, or its requests are those of the
    callback, invoked once with the own client. -/
def LeavesTo {α : Type} (callback : Callback) (p : Program α) : Prop :=
  ∀ (σ : Type) (surroundings : Surroundings σ) (state : σ),
    p.exchanges surroundings state = []
      ∨ ∃ params,
        p.exchanges surroundings state = (callback .own params).exchanges surroundings state

section

variable {α β : Type} {callback : Callback}

/-- After a computation all is left to the callback if that holds for what follows. -/
theorem leavesTo_ofExcept_bind {result : Except Error β} {f : β → Program α}
    (hf : ∀ b, result = .ok b → LeavesTo callback (f b)) :
    LeavesTo callback (Program.ofExcept result >>= f) := by
  intro σ surroundings state
  cases result with
  | ok b => exact hf b rfl σ surroundings state
  | error e => exact .inl rfl

/-- A continuation without requests changes nothing. -/
theorem leavesTo_bind {p : Program β} (hp : LeavesTo callback p) {f : β → Program α}
    (hf : ∀ {σ : Type} (surroundings : Surroundings σ) (b : β) (state : σ),
      (f b).exchanges surroundings state = []) : LeavesTo callback (p >>= f) := by
  intro σ surroundings state
  have hsame : (p >>= f).exchanges surroundings state = p.exchanges surroundings state := by
    rw [Program.exchanges_bind]
    rcases p.run surroundings state with ⟨outcome, events, later⟩
    cases outcome with
    | ok b => simp [hf]
    | error e => simp
  rw [hsame]
  exact hp σ surroundings state

/-- To change the result changes nothing. -/
theorem leavesTo_map {p : Program β} (hp : LeavesTo callback p) (f : β → α) :
    LeavesTo callback (f <$> p) := by
  rw [map_eq_pure_bind]
  refine leavesTo_bind hp fun surroundings b state => ?_
  rfl

/-- Performing a search with a callback leaves all to it. -/
theorem leavesTo_performSearch {request : SearchRequest}
    (hcallback : request.callback = some callback) (size offset : Value) :
    LeavesTo callback (performSearch request size offset) := by
  rw [performSearch, hcallback]
  exact leavesTo_ofExcept_bind fun params _ _ surroundings state => .inr ⟨params, rfl⟩

/-- A search with a callback leaves all to it. -/
theorem leavesTo_search {request : SearchRequest} (hcallback : request.callback = some callback) :
    LeavesTo callback (search request) :=
  leavesTo_performSearch hcallback _ _

/-- A page with a callback leaves all to it, whatever it is asked for by. -/
theorem leavesTo_paginate {request : SearchRequest} (hcallback : request.callback = some callback)
    (perPage page : Value) : LeavesTo callback (paginate request perPage page) := by
  rw [paginate]
  cases Amount.ofValue? perPage with
  | none => exact fun _ _ _ => .inl rfl
  | some amount =>
    dsimp only
    by_cases hsmall : amount.isBelowOne = true
    · rw [if_pos hsmall]
      exact fun _ _ _ => .inl rfl
    · rw [if_neg hsmall, searchPage]
      refine leavesTo_ofExcept_bind fun number _ => leavesTo_ofExcept_bind fun offset _ => ?_
      refine leavesTo_bind (leavesTo_performSearch hcallback _ _) fun surroundings reply state => ?_
      cases reply with
      | results results => simp [Program.map_ofExcept]
      | value v => rfl

end

/-! ### Replies -/

/-- A page keeps exactly the replies that are paged already. -/
theorem paged_eq_ok_self_iff (perPage : Int) (reply : Reply) :
    reply.paged perPage = .ok reply ↔ reply.IsPaged perPage := by
  cases reply with
  | value v => simp [Reply.paged, Reply.IsPaged]
  | results results =>
    obtain ⟨total, hits, pages, raw⟩ := results
    rw [Reply.paged, Reply.IsPaged, withPages, pageCount]
    -- The division decides whether there is a number of pages at all.
    cases hquotient : Binary64.divide? total perPage with
    | none => simp [Bind.bind, Except.bind, Functor.map, Except.map]
    | some quotient =>
      simp [Bind.bind, Except.bind, Functor.map, Except.map, pure, Except.pure, eq_comm]

/-- Without a callback, a search whose response is known comes to the results of that response. -/
theorem outcome_performSearch {request : SearchRequest} {size offset : Value}
    {params : SearchParams} (hparams : request.params size offset = .ok params)
    (surroundings : Surroundings σ) (state : σ) {response : Value}
    (hanswer : (surroundings.answer state (.search params)).1 = .ok response) :
    ((performSearch request.withoutCallback size offset).run surroundings state).outcome =
      Reply.results <$> SearchResults.ofResponse response := by
  rw [performSearch_withoutCallback hparams, Program.run, Program.run, hanswer]
  dsimp only
  rw [Program.map_ofExcept]
  cases Reply.results <$> SearchResults.ofResponse response with
  | ok reply => rfl
  | error e => rfl

/-- A search with the forwarding callback returns the response, and without a callback the results
    of that response. -/
theorem outcome_forwarding {request : SearchRequest} {params : SearchParams}
    (hparams : request.params (SearchRequest.limitValue request.limit) .null = .ok params)
    (surroundings : Surroundings σ) (state : σ) {response : Value}
    (hanswer : (surroundings.answer state (.search params)).1 = .ok response) :
    ((search (request.withCallback Callback.forwarding)).run surroundings state).outcome =
        .ok (.value response)
      ∧ ((search request.withoutCallback).run surroundings state).outcome =
        Reply.results <$> SearchResults.ofResponse response := by
  have hlimit : (request.withCallback Callback.forwarding).limit = request.limit := rfl
  have hlimit' : request.withoutCallback.limit = request.limit := rfl
  constructor
  · rw [search, hlimit, performSearch_withCallback hparams, Callback.forwarding,
      Client.own_send_bind, Program.run, hanswer]
    rfl
  · rw [search, hlimit']
    exact outcome_performSearch hparams surroundings state hanswer

/-! ### Main results -/

/-- The parameters of a request on a record type whose schema is a mapping or missing can be
    composed. -/
theorem exists_params_eq_ok (request : SearchRequest)
    (hschema : request.type.properties = .null
      ∨ ∃ schema, request.type.properties = .mapping schema) (size offset : Value) :
    ∃ params, request.params size offset = .ok params :=
  ⟨_, params_eq request size offset (textFields_eq request.type hschema)⟩

/-- **The same search.** For any request on a record type whose schema is a mapping or missing, a
    search is the same with a callback and without, and so is each page of at least one hit. If the
    backend answers the search, then what the forwarding callback returns is reduced to the very
    reply that the request has without callback, or to the same error. -/
theorem callback_takes_same_search (request : SearchRequest)
    (hschema : request.type.properties = .null
      ∨ ∃ schema, request.type.properties = .mapping schema) :
    (∃ params, SameSearch search request params
      ∧ ∀ {σ : Type} (surroundings : Surroundings σ) (state : σ) (response : Value),
        (surroundings.answer state (.search params)).1 = .ok response →
        ∃ returned,
          ((search (request.withCallback Callback.forwarding)).run surroundings state).outcome =
            .ok (.value returned)
          ∧ ((search request.withoutCallback).run surroundings state).outcome =
            Reply.results <$> SearchResults.ofResponse returned)
      ∧ ∀ perPage page : Int, 1 ≤ perPage → ∃ params,
        SameSearch (fun request => paginate request (.int perPage) (.int page)) request params := by
  -- A search and a page differ in the size and the offset that they ask for, and in nothing else.
  constructor
  · obtain ⟨params, hparams⟩ :=
      exists_params_eq_ok request hschema (SearchRequest.limitValue request.limit) .null
    refine ⟨params, ?_, ?_⟩
    · exact sameSearch_of_params hparams Except.ok (search_eq _) fun _ => search_eq _
    · intro σ surroundings state response hanswer
      exact ⟨response, outcome_forwarding hparams surroundings state hanswer⟩
  · intro perPage page hperPage
    obtain ⟨params, hparams⟩ :=
      exists_params_eq_ok request hschema (.int perPage) (.int (page * perPage - perPage))
    exact ⟨params, sameSearch_of_params hparams (Reply.paged perPage) (paginate_eq _ hperPage page)
      fun _ => paginate_eq _ hperPage page⟩

/-- A backend that answers everything with one hit. -/
def shoeShop : Surroundings Unit where
  answer u _ :=
    (.ok (.mapping [("hits", .mapping [("total", .int 1),
      ("hits", .list [.mapping [("_id", .str "7")]])])]), u)
  resolve _ _ := .ok (.records [])

/-- A search for red shoes and its first page of two are the same with a callback and without. In
    a shop with one pair, the forwarding callback returns what the search finds without it. -/
theorem redShoes_same_search :
    (redShoes.type.properties = .null
        ∨ ∃ schema, redShoes.type.properties = .mapping schema)
      ∧ (∃ params, SameSearch search redShoes params) ∧ (1 : Int) ≤ 2
      ∧ (∃ params, SameSearch (fun request => paginate request (.int 2) (.int 1)) redShoes params)
      ∧ ∃ returned results,
        ((search (redShoes.withCallback Callback.forwarding)).run shoeShop ()).outcome =
          .ok (.value returned)
        ∧ SearchResults.ofResponse returned = .ok results
        ∧ ((search redShoes.withoutCallback).run shoeShop ()).outcome = .ok (.results results) := by
  have hschema : redShoes.type.properties = .null
      ∨ ∃ schema, redShoes.type.properties = .mapping schema := .inr ⟨_, rfl⟩
  obtain ⟨⟨params, hsame, hforwarded⟩, hpages⟩ := callback_takes_same_search redShoes hschema
  refine ⟨hschema, ⟨params, hsame⟩, by decide, hpages 2 1 (by decide), ?_⟩
  obtain ⟨returned, hreturned, hplain⟩ := hforwarded shoeShop () _ rfl
  cases hreturned
  exact ⟨_, _, rfl, rfl, hplain⟩

/-- **What reaches the caller.** A search does what its callback does, and the caller receives
    what that returned. A page has the events and the state of the callback, but pages its reply:
    the caller receives what the callback returned exactly if that is paged already. -/
theorem callback_reply_kept (request : SearchRequest) (callback : Callback)
    (hschema : request.type.properties = .null
      ∨ ∃ schema, request.type.properties = .mapping schema) :
    (∃ params, ∀ {σ : Type} (surroundings : Surroundings σ) (state : σ),
      (search (request.withCallback callback)).run surroundings state =
        (callback .own params).run surroundings state)
      ∧ ∀ perPage page : Int, 1 ≤ perPage → ∃ params,
        ∀ {σ : Type} (surroundings : Surroundings σ) (state : σ),
          let own := (callback .own params).run surroundings state
          let ending := (paginate (request.withCallback callback) (.int perPage)
            (.int page)).run surroundings state
          ending = ⟨own.outcome >>= Reply.paged perPage, own.events, own.state⟩
            ∧ ∀ reply, own.outcome = .ok reply →
              (ending.outcome = .ok reply ↔ reply.IsPaged perPage) := by
  constructor
  · obtain ⟨params, hparams⟩ :=
      exists_params_eq_ok request hschema (SearchRequest.limitValue request.limit) .null
    refine ⟨params, fun surroundings state => ?_⟩
    have hlimit : (request.withCallback callback).limit = request.limit := rfl
    rw [search, hlimit, performSearch_withCallback hparams]
  · intro perPage page hperPage
    obtain ⟨params, hparams⟩ :=
      exists_params_eq_ok request hschema (.int perPage) (.int (page * perPage - perPage))
    refine ⟨params, fun surroundings state => ?_⟩
    intro own ending
    -- A page runs the callback alone, and counts the pages of what it returns.
    have hending : ending = ⟨own.outcome >>= Reply.paged perPage, own.events, own.state⟩ := by
      show (paginate _ _ _).run surroundings state = _
      rw [paginate_eq _ hperPage, Program.run_bind_ofExcept, performSearch_withCallback hparams]
    refine ⟨hending, fun reply hreply => ?_⟩
    rw [hending, hreply]
    exact paged_eq_ok_self_iff perPage reply

/-- Results of three hits that say seven and a half pages. -/
def ownPages : SearchResults := ⟨3, [], some (.ofRatio false 15 2), []⟩

/-- A callback that returns them. -/
def countsPages : Callback := fun _ _ => .done (.results ownPages)

/-- A search keeps the number of pages that the callback gives, and so does a page exactly if the
    results are paged already. -/
theorem ownPages_kept :
    (redShoes.type.properties = .null
        ∨ ∃ schema, redShoes.type.properties = .mapping schema)
      ∧ ((search (redShoes.withCallback countsPages)).run shoeShop ()).outcome =
        .ok (.results ownPages)
      ∧ (1 : Int) ≤ 2
      ∧ (((paginate (redShoes.withCallback countsPages) (.int 2) (.int 1)).run
            shoeShop ()).outcome = .ok (.results ownPages)
        ↔ (Reply.results ownPages).IsPaged 2) := by
  have hschema : redShoes.type.properties = .null
      ∨ ∃ schema, redShoes.type.properties = .mapping schema := .inr ⟨_, rfl⟩
  obtain ⟨⟨params, hsearch⟩, hpages⟩ := callback_reply_kept redShoes countsPages hschema
  obtain ⟨paged, hpaged⟩ := hpages 2 1 (by decide)
  refine ⟨hschema, ?_, by decide, (hpaged shoeShop ()).2 _ rfl⟩
  rw [hsearch]
  rfl

/-- On pages of two the three hits take one and a half pages, whatever the callback returned. -/
theorem ownPages_replaced :
    (1 : Int) ≤ 2
      ∧ (∀ params, ((countsPages .own params).run shoeShop ()).outcome = .ok (.results ownPages))
      ∧ ((paginate (redShoes.withCallback countsPages) (.int 2) (.int 1)).run shoeShop ()).outcome =
        .ok (.results { ownPages with pages := some (.ofRatio false 3 2) })
      ∧ ((paginate (redShoes.withCallback countsPages) (.int 2) (.int 1)).run shoeShop ()).outcome ≠
        .ok (.results ownPages) := by
  refine ⟨by decide, fun _ => rfl, rfl, fun h => ?_⟩
  have hpages : some (Binary64.ofRatio false 3 2) = ownPages.pages :=
    congrArg SearchResults.pages (Reply.results.inj (Except.ok.inj h))
  exact absurd hpages (by decide)

end RecordSearch
