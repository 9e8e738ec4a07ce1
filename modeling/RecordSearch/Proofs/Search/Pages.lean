import RecordSearch.Proofs.Search.Callback
import RecordSearch.Proofs.Search.Normalised
import Mathlib.Algebra.Order.Floor.Div

namespace RecordSearch

/-!
# Pages tile the hits

A backend holds entries in an order, and answers a search with a window of them. The windows that
pages ask for lie side by side: read from the first page on, they give each entry once.

* `window`: the members of a list from a first position on, up to a number of them;
* `HoldsEntries`: a backend that answers searches with windows of its entries;
* `idsOfPages`: the identities of several pages, one page after the other;
* `IsPage`: the results of a page, with what they have in each place among the pages.

`exists_page` is about one page, and `outcome_idsOfPages` about a row of pages, by induction on
their number. `pages_tile` puts them together for the pages that hold all entries.
-/

variable {σ : Type}

/-! ### Backends and pages -/

/-- The members of a list from a first position on, up to a number of them. -/
def window {α : Type} (first size : Nat) (as : List α) : List α := (as.drop first).take size

/-- **A backend that holds entries.** A search that names a first position and a number of hits is
    answered with the window of the entries there, and with the count of all. -/
def HoldsEntries (surroundings : Surroundings σ) (entries : List Entry) : Prop :=
  ∀ (state : σ) (params : SearchParams) (first size : Nat),
    params.body.toValue.get? "from" = some (.int first) →
    params.body.toValue.get? "size" = some (.int size) →
    ∃ response, (surroundings.answer state (.search params)).1 = .ok (.mapping response)
      ∧ IsResponse response entries.length (window first size entries)

/-- The identities of the hits of one page. -/
def idsOfPage (request : SearchRequest) (perPage page : Nat) : Program (List Value) := do
  match ← paginate request (.int perPage) (.int page) with
  | .results results => Program.ofExcept results.ids
  | .value _ => .fail .noSuchPart

/-- The identities of the hits of several pages, one page after the other. -/
def idsOfPages (request : SearchRequest) (perPage : Nat) : List Nat → Program (List Value)
  | [] => return []
  | page :: pages => do
    let ids ← idsOfPage request perPage page
    let rest ← idsOfPages request perPage pages
    return ids ++ rest

/-- **A page among the pages** that hold a number of hits. All pages but the last are full, the last
    one is not empty, and after it there are only pages without hits; no records are loaded for
    these, and the record store is not even asked. -/
structure IsPage (held perPage page : Nat) (results : SearchResults) : Prop where
  total : results.total = held
  full : page < held ⌈/⌉ perPage → results.hits.length = perPage
  last : page = held ⌈/⌉ perPage → 1 ≤ results.hits.length ∧ results.hits.length ≤ perPage
  beyond : held ⌈/⌉ perPage < page → results.hits = []
    ∧ ∀ {σ : Type} (surroundings : Surroundings σ) (request : SearchRequest) (state : σ),
      (loadHits request results).run surroundings state = ⟨.ok [], [], state⟩

/-! ### Windows -/

section

variable {α : Type}

theorem length_window (first size : Nat) (as : List α) :
    (window first size as).length = min size (as.length - first) := by
  rw [window, List.length_take, List.length_drop]

theorem map_window {β : Type} (f : α → β) (first size : Nat) (as : List α) :
    (window first size as).map f = window first size (as.map f) := by
  rw [window, window, List.map_take, List.map_drop]

/-- A window followed by the one beside it is the window over both. -/
theorem window_append (first size more : Nat) (as : List α) :
    window first size as ++ window (first + size) more as = window first (size + more) as := by
  rw [window, window, window, List.take_add, List.drop_drop]

/-- A window from the start that is wide enough shows everything. -/
theorem window_zero_of_length_le {size : Nat} {as : List α} (h : as.length ≤ size) :
    window 0 size as = as := by
  rw [window, List.drop_zero, List.take_of_length_le h]

end

/-- A page is among those that hold the members if its window starts before their end. -/
theorem lt_ceilDiv_iff {page total perPage : Nat} (hperPage : 1 ≤ perPage) :
    page < total ⌈/⌉ perPage ↔ page * perPage < total := by
  have hle : total ⌈/⌉ perPage ≤ page ↔ total ≤ perPage * page := ceilDiv_le_iff_le_mul hperPage
  rw [← not_le, hle, not_le, Nat.mul_comm]

/-! ### The number of pages -/

namespace Binary64

/-- The grid of a quotient is not coarser than its numerator. -/
theorem gridExponent_le (num den : Nat) :
    gridExponent num den ≤ max ((num.log2 : Int) - den.log2 - 53) (-1074) + 1 := by
  unfold gridExponent
  dsimp only
  split <;> omega

/-- A quotient on a grid of the format is not rounded to infinity. -/
theorem exists_ofRatio_eq_finite (negative : Bool) {num den : Nat}
    (h : gridExponent num den < 971) :
    ∃ mantissa exponent, ofRatio negative num den = .finite negative mantissa exponent := by
  unfold ofRatio
  dsimp only
  -- Only a mantissa that reaches the bound moves the exponent, by one.
  by_cases hnum : num = 0
  · rw [if_pos hnum]
    exact ⟨_, _, rfl⟩
  rw [if_neg hnum]
  generalize roundQuotient _ _ = m
  by_cases hm : m = 0
  · rw [if_pos hm]
    exact ⟨_, _, rfl⟩
  rw [if_neg hm]
  by_cases hbound : m = mantissaBound
  · have hsmall : ¬ 971 < gridExponent num den + 1 := by omega
    rw [if_pos hbound, if_neg hsmall]
    exact ⟨_, _, rfl⟩
  · have hsmall : ¬ 971 < gridExponent num den := by omega
    rw [if_neg hbound, if_neg hsmall]
    exact ⟨_, _, rfl⟩

/-- A count of 64 bits can be divided by any number of hits of a page. -/
theorem exists_divide?_eq_some {total : Nat} (hbound : total < 2 ^ 63) (perPage : Nat) :
    ∃ pages, divide? total perPage = some pages := by
  have hlog : total.log2 ≤ 63 := by
    by_cases hzero : total = 0
    · rw [hzero]
      decide
    · have hlt : total.log2 < 63 := (Nat.log2_lt hzero).2 hbound
      omega
  -- A count of 63 bits is far from the largest exponent, so that the ratio is finite.
  have hgrid : gridExponent total perPage < 971 := by
    have hle := gridExponent_le total perPage
    omega
  have hsigns : (decide ((total : Int) < 0) != decide ((perPage : Int) < 0)) = false := by
    rw [decide_eq_false (by omega), decide_eq_false (by omega)]
    rfl
  obtain ⟨mantissa, exponent, hfinite⟩ := exists_ofRatio_eq_finite false hgrid
  refine ⟨.finite false mantissa exponent, ?_⟩
  rw [divide?, hsigns, Int.natAbs_natCast, Int.natAbs_natCast, hfinite]

end Binary64

/-! ### One page -/

section

variable {request : SearchRequest} {surroundings : Surroundings σ} {entries : List Entry}
  {perPage : Nat}

/-- A page asks for a window: the parameters name its start, even if that is zero, and its width. -/
theorem exists_params_of_page (request : SearchRequest)
    (hschema : request.type.properties = .null
      ∨ ∃ schema, request.type.properties = .mapping schema)
    (first : Nat) (hperPage : 1 ≤ perPage) :
    ∃ params, request.params (.int perPage) (.int first) = .ok params
      ∧ params.body.toValue.get? "from" = some (.int first)
      ∧ params.body.toValue.get? "size" = some (.int perPage) := by
  refine ⟨_, params_eq request _ _ (textFields_eq request.type hschema), ?_, ?_⟩
  · rw [SearchBody.get?_from]
    rfl
  · have htrue : (Value.int perPage).isTruthy = true := by
      have hne : (perPage : Int) ≠ 0 := by omega
      simpa [Value.isTruthy] using hne
    rw [SearchBody.get?_size]
    show SearchRequest.truthy? (.int perPage) = _
    rw [SearchRequest.truthy?, if_pos htrue]

/-- **One page.** It gives the window of the entries that its number stands for. -/
theorem exists_page (hcallback : request.callback = none)
    (hschema : request.type.properties = .null
      ∨ ∃ schema, request.type.properties = .mapping schema)
    (hholds : HoldsEntries surroundings entries) (hbound : entries.length < 2 ^ 63)
    {ids : List Value} (hids : entries.map Entry.id? = ids.map some) (hperPage : 1 ≤ perPage)
    (before : Nat) (state : σ) :
    ∃ results, ((paginate request (.int perPage) (.int (before + 1 : Nat))).run
          surroundings state).outcome = .ok (.results results)
      ∧ results.total = entries.length
      ∧ results.hits.map (fun hit => hit.get? "_id") =
        (window (before * perPage) perPage ids).map some := by
  obtain ⟨params, hparams, hfirst, hsize⟩ :=
    exists_params_of_page request hschema (before * perPage) hperPage
  obtain ⟨response, hanswer, hresponse⟩ := hholds state params _ _ hfirst hsize
  -- The window of the entries has the window of the ids.
  have hwindow : (window (before * perPage) perPage entries).map Entry.id? =
      (window (before * perPage) perPage ids).map some := by
    rw [map_window, map_window, hids]
  have hsome : ∀ entry ∈ window (before * perPage) perPage entries,
      ∃ id, entry.id? = some id := by
    intro entry hentry
    obtain ⟨id, -, hid⟩ := List.mem_map.1 (hwindow ▸ List.mem_map_of_mem hentry)
    exact ⟨id, hid.symm⟩
  obtain ⟨results, hresults, htotal, hhits, -⟩ := hresponse.exists_results hsome
  obtain ⟨pages, hpages⟩ := Binary64.exists_divide?_eq_some hbound perPage
  refine ⟨{ results with pages := some pages }, ?_, htotal, (ids_of_isHit hhits).trans hwindow⟩
  have hown : request.withoutCallback = request := by
    rw [SearchRequest.withoutCallback, ← hcallback]
  have hstart : ((before + 1 : Nat) : Int) * perPage - perPage = (before * perPage : Nat) := by
    push_cast
    rw [Int.add_mul]
    omega
  have houtcome := outcome_performSearch hparams surroundings state hanswer
  rw [hown, hresults] at houtcome
  -- The number of pages is that of all entries, and is made of the total.
  have hcount : pageCount results.total (.int perPage) = .ok pages := by
    rw [htotal, pageCount, hpages]
  rw [paginate_eq request (by omega), hstart, Program.run_bind_ofExcept, houtcome]
  show Reply.results <$> withPages results (.int perPage) = _
  rw [withPages, hcount]
  rfl

/-- A page has as many hits as its window has entries, which is what its place asks for. -/
theorem isPage_of_length {results : SearchResults} {held before : Nat} (hperPage : 1 ≤ perPage)
    (htotal : results.total = held)
    (hlength : results.hits.length = min perPage (held - before * perPage)) :
    IsPage held perPage (before + 1) results where
  total := htotal
  full hbefore := by
    -- A page that is not the last one ends before the entries do.
    have hend : (before + 1) * perPage < held := (lt_ceilDiv_iff hperPage).1 hbefore
    rw [Nat.add_mul] at hend
    omega
  last hlast := by
    have hstart : before * perPage < held := (lt_ceilDiv_iff hperPage).1 (by omega)
    omega
  beyond hbeyond := by
    have hstart : ¬ before * perPage < held := fun h => by
      have hbefore := (lt_ceilDiv_iff hperPage).2 h
      omega
    have hnil : results.hits = [] := List.eq_nil_of_length_eq_zero (by omega)
    refine ⟨hnil, fun surroundings request state => ?_⟩
    have hids : results.ids = .ok [] := ids_eq (by rw [hnil]; rfl)
    rw [loadHits, hids]
    by_cases hzero : results.total = 0
    · rw [if_pos hzero]
      rfl
    · rw [if_neg hzero]
      rfl

/-! ### Pages in a row -/

/-- **Pages in a row** give the window that theirs make together, whatever the state is that each
    of them finds. -/
theorem outcome_idsOfPages (hcallback : request.callback = none)
    (hschema : request.type.properties = .null
      ∨ ∃ schema, request.type.properties = .mapping schema)
    (hholds : HoldsEntries surroundings entries) (hbound : entries.length < 2 ^ 63)
    {ids : List Value} (hids : entries.map Entry.id? = ids.map some) (hperPage : 1 ≤ perPage)
    (before count : Nat) (state : σ) :
    ((idsOfPages request perPage (List.range' (before + 1) count)).run
        surroundings state).outcome = .ok (window (before * perPage) (count * perPage) ids) := by
  -- The state is general, for each page leaves another one to the next.
  induction count generalizing before state with
  | zero =>
    rw [Nat.zero_mul, window, List.take_zero]
    rfl
  | succ count ih =>
    obtain ⟨results, hpage, -, hhits⟩ :=
      exists_page hcallback hschema hholds hbound hids hperPage before state
    have hfirst : ((idsOfPage request perPage (before + 1)).run surroundings state).outcome =
        .ok (window (before * perPage) perPage ids) := by
      rw [idsOfPage, Program.outcome_bind surroundings hpage]
      dsimp only
      rw [ids_eq hhits]
      rfl
    rw [List.range'_succ, idsOfPages, Program.outcome_bind surroundings hfirst,
      Program.outcome_bind surroundings (ih (before + 1) _)]
    show Except.ok (_ ++ _) = _
    rw [Nat.succ_mul, Nat.succ_mul, window_append, Nat.add_comm perPage]

end

/-! ### Main result -/

/-- **Pages tile the hits.** If a backend holds entries with identities, then the identities of the
    pages that hold them, read one page after the other, are those of the entries, in their order
    and each once. Every single page, asked for in any state, has the hits that its place among the
    pages calls for. -/
theorem pages_tile (request : SearchRequest) (hcallback : request.callback = none)
    (hschema : request.type.properties = .null
      ∨ ∃ schema, request.type.properties = .mapping schema)
    (surroundings : Surroundings σ) (entries : List Entry)
    (hholds : HoldsEntries surroundings entries) (hbound : entries.length < 2 ^ 63)
    (ids : List Value) (hids : entries.map Entry.id? = ids.map some)
    (perPage : Nat) (hperPage : 1 ≤ perPage) :
    (∀ state, ((idsOfPages request perPage (List.range' 1 (entries.length ⌈/⌉ perPage))).run
        surroundings state).outcome = .ok ids)
      ∧ ∀ page : Nat, 1 ≤ page → ∀ state, ∃ results,
        ((paginate request (.int perPage) (.int page)).run surroundings state).outcome =
          .ok (.results results)
        ∧ IsPage entries.length perPage page results := by
  have hsame : entries.length = ids.length := by
    simpa using congrArg List.length hids
  constructor
  · intro state
    -- As many pages as there are leave no entry out.
    have hwide : ids.length ≤ entries.length ⌈/⌉ perPage * perPage := by
      have hpos : 0 < perPage := hperPage
      rw [← hsame, Nat.mul_comm]
      exact le_smul_ceilDiv hpos
    have hrow := outcome_idsOfPages hcallback hschema hholds hbound hids hperPage 0
      (entries.length ⌈/⌉ perPage) state
    rw [Nat.zero_mul, window_zero_of_length_le hwide] at hrow
    exact hrow
  · intro page hpage state
    obtain ⟨before, rfl⟩ := Nat.exists_eq_add_of_le' hpage
    obtain ⟨results, hresults, htotal, hhits⟩ :=
      exists_page hcallback hschema hholds hbound hids hperPage before state
    have hlength : results.hits.length = min perPage (entries.length - before * perPage) := by
      simpa [length_window, hsame] using congrArg List.length hhits
    exact ⟨results, hresults, isPage_of_length hperPage htotal hlength⟩

/-! ### A backend that holds entries -/

/-- The response that lists entries and counts the given number. -/
def listing (total : Nat) (entries : List Entry) : Document :=
  [("hits", .mapping [("total", .mapping [("value", .int total)]),
    ("hits", .list (entries.map fun entry => .mapping entry.fields))])]

/-- A backend that answers a search with a window of entries, and anything else with nothing. -/
def holding (entries : List Entry) : Surroundings Unit where
  answer u query :=
    match query with
    | .search params =>
      match params.body.toValue.get? "from", params.body.toValue.get? "size" with
      | some (.int first), some (.int size) =>
        (.ok (.mapping (listing entries.length (window first.toNat size.toNat entries))), u)
      | _, _ => (.ok .null, u)
    | _ => (.ok .null, u)
  resolve _ _ := .ok (.records [])

/-- It holds its entries. -/
theorem holdsEntries_holding {entries : List Entry} (h : ∀ entry ∈ entries, entry.IsStored) :
    HoldsEntries (holding entries) entries := by
  intro u params first size hfirst hsize
  refine ⟨listing entries.length (window first size entries), ?_, ?_, ?_⟩
  · simp only [holding, hfirst, hsize, Int.toNat_natCast]
  · exact ⟨_, .mapping rfl, .value rfl rfl, .list rfl⟩
  · intro entry hentry
    exact h entry (List.mem_of_mem_drop (List.mem_of_mem_take hentry))

/-- The shoes of a shop: three pairs, one of them with a stored document. -/
def heldShoes : List Entry :=
  [⟨[("_id", .str "7"), ("_source", .mapping [("name", .str "red shoes")])],
      [("name", .str "red shoes")]⟩,
    ⟨[("_id", .int 8)], []⟩, ⟨[("_id", .str "9"), ("_source", .null)], []⟩]

/-- On pages of two the shoes take two pages, and the third one is without hits. -/
theorem heldShoes_tiled :
    redShoes.callback = none
      ∧ (redShoes.type.properties = .null
        ∨ ∃ schema, redShoes.type.properties = .mapping schema)
      ∧ HoldsEntries (holding heldShoes) heldShoes ∧ heldShoes.length < 2 ^ 63
      ∧ heldShoes.map Entry.id? = [.str "7", .int 8, .str "9"].map some ∧ 1 ≤ 2
      ∧ ((idsOfPages redShoes 2 [1, 2]).run (holding heldShoes) ()).outcome =
        .ok [.str "7", .int 8, .str "9"]
      ∧ ∃ results, ((paginate redShoes (.int 2) (.int 3)).run (holding heldShoes) ()).outcome =
          .ok (.results results)
        ∧ results.hits = [] := by
  have hschema : redShoes.type.properties = .null
      ∨ ∃ schema, redShoes.type.properties = .mapping schema := .inr ⟨_, rfl⟩
  have hholds : HoldsEntries (holding heldShoes) heldShoes := by
    refine holdsEntries_holding fun entry hentry => ?_
    simp only [heldShoes, List.mem_cons, List.not_mem_nil, or_false] at hentry
    rcases hentry with rfl | rfl | rfl <;> rfl
  obtain ⟨hrow, hpage⟩ := pages_tile redShoes rfl hschema (holding heldShoes) heldShoes hholds
    (by decide) [.str "7", .int 8, .str "9"] rfl 2 (by decide)
  obtain ⟨results, hresults, hthird⟩ := hpage 3 (by decide) ()
  exact ⟨rfl, hschema, hholds, by decide, rfl, by decide, hrow (), results, hresults,
    (hthird.beyond (by decide)).1⟩

end RecordSearch
