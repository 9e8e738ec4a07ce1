import RecordSearch.Proofs.Search.Meaning
import RecordSearch.Proofs.Value.Equality

namespace RecordSearch

/-!
# The parameters determine the request

The parameters of a search are composed of parts that may each be missing, and two of them, the free
text and the filters, share one query. No part changes another one: each can be had back from the
parameters, so that equal parameters come from equal parts.

* `Composed`: each part of a request stands at its own place of a body (`composed_composedBody`);
* `rel_query_iff`, `equalBy_body_iff`: equal queries and equal bodies have equal parts.

`params_equal_iff` says which requests have equal parameters, and which have an empty body.
-/

variable {atom : Value → Value → Prop}

/-! ### The parts of a composed body -/

/-- An integer that may be missing, as a value. -/
def integerValue : Option Int → Value
  | some n => .int n
  | none => .null

/-- The part of a query that joins clauses, in a body as it is sent. -/
def queryPart (body : Value) (key : String) : Option Value :=
  ((body.get? "query").bind (·.get? "bool")).bind (·.get? key)

/-- A list is a part of a body if it has members. -/
def listPart (vs : List Value) : Option Value := if vs = [] then none else some (.list vs)

/-- **Each part at its own place.** A part that is missing in the request is missing in the body,
    and one that is there is not changed by any other. A number of hits that is zero counts as
    missing, a first position that is zero does not. -/
structure Composed (request : SearchRequest) (fields : List String) (filters : List Value)
    (size offset : Option Int) (body : Value) : Prop where
  should : queryPart body "should" = if request.query = "" then none else
    some (.list [multiMatchClause "cross_fields" request.query fields,
      multiMatchClause "phrase_prefix" request.query fields])
  required : queryPart body "minimum_should_match" =
    if request.query = "" then none else some (.int 1)
  filter : queryPart body "filter" = listPart filters
  sort : body.get? "sort" =
    listPart (request.orders.map fun order => .mapping [(order.1, .str order.2)])
  position : body.get? "from" = offset.map .int
  size : body.get? "size" = (size.filter (· ≠ 0)).map .int

/-- The query of a body is there if it has entries, and then joins them. -/
theorem SearchBody.queryPart_toValue (body : SearchBody) (key : String) :
    queryPart body.toValue key = body.queryEntries.get? key := by
  rw [queryPart, body.get?_query, SearchBody.query]
  cases body.queryEntries with
  | nil => rfl
  | cons entry entries => rfl

/-- An integer is a part of a body if it is there. -/
theorem present?_integerValue (offset : Option Int) :
    SearchRequest.present? (integerValue offset) = offset.map .int := by
  cases offset <;> rfl

/-- An integer counts as true if it is there and not zero. -/
theorem truthy?_integerValue (size : Option Int) :
    SearchRequest.truthy? (integerValue size) = (size.filter (· ≠ 0)).map .int := by
  cases size with
  | none => rfl
  | some n =>
    by_cases h : n = 0
    · rw [h]; rfl
    · simp [SearchRequest.truthy?, integerValue, Value.isTruthy, h]

/-- A list counts as true if it has members. -/
theorem truthy?_list (vs : List Value) : SearchRequest.truthy? (.list vs) = listPart vs := by
  cases vs <;> rfl

/-- The orders of a request are a part of its body if there are any. -/
theorem sort_eq (request : SearchRequest) :
    request.sort =
      listPart (request.orders.map fun order => .mapping [(order.1, .str order.2)]) := by
  rw [SearchRequest.sort]
  cases request.orders <;> rfl

/-- The body that is made of the parts of a request. -/
def composedBody (request : SearchRequest) (fields : List String) (filters : List Value)
    (size offset : Option Int) : SearchBody where
  freeText := if request.query = "" then none else some ⟨request.query, fields⟩
  filter := listPart filters
  sort := listPart (request.orders.map fun order => .mapping [(order.1, .str order.2)])
  offset := offset.map .int
  size := (size.filter (· ≠ 0)).map .int

/-- The parameters of a request have the body that is made of its parts. -/
theorem compose_eq (request : SearchRequest) (filters : List Value) (size offset : Option Int)
    {fields : List String} (hfields : request.type.textFields = .ok fields) :
    request.compose (.list filters) (integerValue size) (integerValue offset) =
      .ok ⟨request.indexName, composedBody request fields filters size offset⟩ := by
  rw [SearchRequest.compose, freeText_eq request hfields, truthy?_list, sort_eq,
    present?_integerValue, truthy?_integerValue]
  rfl

/-- **No part overwrites another.** -/
theorem composed_composedBody (request : SearchRequest) (fields : List String)
    (filters : List Value) (size offset : Option Int) :
    Composed request fields filters size offset
      (composedBody request fields filters size offset).toValue where
  should := by
    rw [SearchBody.queryPart_toValue, SearchBody.queryEntries, composedBody, Document.get?_append,
      get?_optionalEntry]
    -- Without words the body has no clause for them.
    by_cases h : request.query = ""
    · simp [h, Document.get?_nil]
    · simp [h, FreeText.entries, Document.get?_cons, FreeText.clause_eq, MatchKind.name]
  required := by
    rw [SearchBody.queryPart_toValue, SearchBody.queryEntries, composedBody, Document.get?_append,
      get?_optionalEntry]
    by_cases h : request.query = ""
    · simp [h, Document.get?_nil]
    · simp [h, FreeText.entries, Document.get?_cons]
  filter := by
    rw [SearchBody.queryPart_toValue, SearchBody.queryEntries, composedBody, Document.get?_append,
      get?_optionalEntry]
    by_cases h : request.query = ""
    · simp [h, Document.get?_nil]
    · simp [h, FreeText.entries, Document.get?_cons, Document.get?_nil]
  sort := by simp [SearchBody.get?_toValue, composedBody]
  position := by rw [SearchBody.get?_from, composedBody]
  size := by rw [SearchBody.get?_size, composedBody]

/-! ### Equal parts -/

/-- Integers that may be missing are equal if they are the same. -/
theorem rel_int_iff (h : ComparesAtoms atom) (m n : Option Int) :
    Option.Rel (Value.EqualBy atom) (m.map .int) (n.map .int) ↔ m = n := by
  cases m <;> cases n <;> simp [equalBy_int_iff h]

/-- Without its zero a number is the same as another one if zero counts as missing. -/
theorem filter_ne_zero_eq_iff (m n : Option Int) :
    m.filter (· ≠ 0) = n.filter (· ≠ 0) ↔ m.getD 0 = n.getD 0 := by
  have hzero : ∀ size : Option Int, size.filter (· ≠ 0) =
      if size.getD 0 = 0 then none else some (size.getD 0) := by
    intro size
    cases size with
    | none => rfl
    | some n => by_cases h : n = 0 <;> simp [h]
  rw [hzero, hzero]
  constructor
  · intro h
    by_cases hm : m.getD 0 = 0 <;> by_cases hn : n.getD 0 = 0 <;> simp_all
  · intro h
    rw [h]

/-- Lists that count as missing without members are equal if their members are. -/
theorem rel_listPart_iff (vs ws : List Value) :
    Option.Rel (Value.EqualBy atom) (listPart vs) (listPart ws) ↔
      List.Forall₂ (Value.EqualBy atom) vs ws := by
  cases vs <;> cases ws <;> simp [listPart, equalBy_list_iff]

/-- Orders are equal as they are sent if they are the same. -/
theorem forall₂_orders_iff (h : ComparesAtoms atom) (orders others : List (String × String)) :
    List.Forall₂ (Value.EqualBy atom)
      (orders.map fun order => .mapping [(order.1, .str order.2)])
      (others.map fun order => .mapping [(order.1, .str order.2)]) ↔ orders = others := by
  simp only [List.forall₂_map_left_iff, List.forall₂_map_right_iff, equalBy_entry_iff,
    equalBy_str_iff h, ← Prod.ext_iff, List.forall₂_eq_eq_eq]

/-- Clauses of free texts are equal if the texts and the fields are the same. -/
theorem equalBy_multiMatchClause_iff (h : ComparesAtoms atom) (kind text other : String)
    (fields others : List String) :
    (multiMatchClause kind text fields).EqualBy atom (multiMatchClause kind other others) ↔
      text = other ∧ fields = others := by
  rw [multiMatchClause, multiMatchClause, equalBy_entry_iff, equalBy_mapping_iff]
  constructor
  · rintro ⟨-, hall⟩
    have htext := hall "query"
    have hfields := hall "fields"
    -- The kinds are the same, so that the text and the fields alone can differ.
    simp [Document.get?_cons] at htext hfields
    rw [equalBy_str_iff h] at htext
    rw [equalBy_list_iff, forall₂_equalBy_str_iff h] at hfields
    exact ⟨htext, hfields⟩
  · rintro ⟨rfl, rfl⟩
    refine ⟨rfl, fun key => ?_⟩
    simp only [Document.get?_cons, Document.get?_nil]
    by_cases hquery : key = "query"
    · simp [hquery, equalBy_str_iff h]
    by_cases htype : key = "type"
    · simp [htype, equalBy_str_iff h]
    by_cases hfields : key = "fields"
    · simp only [hfields, if_true, reduceIte, String.reduceEq, Option.rel_some_some]
      exact (equalBy_list_iff _ _).2 ((forall₂_equalBy_str_iff h fields fields).2 rfl)
    · simp [hquery, htype, hfields]

/-- Queries that count as missing without entries are equal if their entries are. -/
theorem rel_query_iff_entries (body other : SearchBody) :
    Option.Rel (Value.EqualBy atom) body.query other.query ↔
      ∀ key, Option.Rel (Value.EqualBy atom) (body.queryEntries.get? key)
        (other.queryEntries.get? key) := by
  -- A first entry is found at its own key, so that entries and no entries always differ there.
  have hdiffer : ∀ (entry : String × Value) (entries : Document),
      ∃ v, Document.get? (entry :: entries) entry.1 = some v := fun entry entries =>
    ⟨entry.2, by rw [Document.get?_cons, if_pos rfl]⟩
  rw [SearchBody.query, SearchBody.query]
  cases body.queryEntries with
  | nil =>
    cases other.queryEntries with
    | nil => simp [Document.get?_nil]
    | cons entry entries =>
      obtain ⟨v, hv⟩ := hdiffer entry entries
      simp only [Option.not_rel_none_some, false_iff]
      intro hall
      have hkey := hall entry.1
      rw [hv, Document.get?_nil] at hkey
      cases hkey
  | cons entry entries =>
    cases other.queryEntries with
    | nil =>
      obtain ⟨v, hv⟩ := hdiffer entry entries
      simp only [Option.not_rel_some_none, false_iff]
      intro hall
      have hkey := hall entry.1
      rw [hv, Document.get?_nil] at hkey
      cases hkey
    | cons first rest =>
      rw [Option.rel_some_some, equalBy_entry_iff, equalBy_mapping_iff]
      exact and_iff_right rfl

/-- The filters and the clauses of a free text stand at different keys of a query. -/
theorem SearchBody.get?_queryEntries (body : SearchBody) (key : String) :
    body.queryEntries.get? key =
      (body.freeText.bind fun freeText => freeText.entries.get? key).or
        (if key = "filter" then body.filter else none) := by
  rw [SearchBody.queryEntries, Document.get?_append, get?_optionalEntry]
  cases body.freeText <;> rfl

/-- **Equal queries.** Two queries are equal if the free texts are the same and the filters are
    equal, whether or not there are any. -/
theorem rel_query_iff (h : ComparesAtoms atom) (body other : SearchBody) :
    Option.Rel (Value.EqualBy atom) body.query other.query ↔
      body.freeText = other.freeText
        ∧ Option.Rel (Value.EqualBy atom) body.filter other.filter := by
  rw [rel_query_iff_entries]
  simp only [SearchBody.get?_queryEntries]
  constructor
  · intro hall
    -- The free text is read off the first part of the query, which is there only with a text.
    have hshould := hall "should"
    have hfilter := hall "filter"
    constructor
    · cases hfree : body.freeText with
      | none =>
        cases hother : other.freeText with
        | none => rfl
        | some second => simp [hfree, hother, FreeText.entries, Document.get?_cons] at hshould
      | some first =>
        cases hother : other.freeText with
        | none => simp [hfree, hother, FreeText.entries, Document.get?_cons] at hshould
        | some second =>
          simp only [hfree, hother, FreeText.entries, Document.get?_cons, if_true, Option.bind_some,
            Option.some_or, Option.rel_some_some, equalBy_list_iff, List.forall₂_cons,
            FreeText.clause_eq, equalBy_multiMatchClause_iff h] at hshould
          obtain ⟨⟨htext, hfields⟩, -⟩ := hshould
          cases first
          cases second
          exact congrArg some (FreeText.mk.injEq _ _ _ _ ▸ ⟨htext, hfields⟩)
    · cases hfree : body.freeText <;> cases hother : other.freeText <;>
        simpa [hfree, hother, FreeText.entries, Document.get?_cons, Document.get?_nil] using hfilter
  · rintro ⟨hfree, hfilter⟩ key
    rw [← hfree]
    cases body.freeText with
    | none => by_cases hkey : key = "filter" <;> simp [hkey, hfilter]
    | some freeText =>
      simp only [Option.bind_some, FreeText.entries, Document.get?_cons, Document.get?_nil]
      by_cases hshould : key = "should"
      · simp [hshould, equalBy_list_iff, FreeText.clause_eq, equalBy_multiMatchClause_iff h]
      by_cases hrequired : key = "minimum_should_match"
      · simp [hrequired, equalBy_int_iff h]
      · by_cases hkey : key = "filter" <;> simp [hshould, hrequired, hkey, hfilter]

/-- **Equal bodies** have equal parts, one by one. -/
theorem equalBy_body_iff (body other : SearchBody) :
    body.toValue.EqualBy atom other.toValue ↔
      Option.Rel (Value.EqualBy atom) body.query other.query
        ∧ Option.Rel (Value.EqualBy atom) body.sort other.sort
        ∧ Option.Rel (Value.EqualBy atom) body.offset other.offset
        ∧ Option.Rel (Value.EqualBy atom) body.size other.size := by
  have hparts : body.toValue.EqualBy atom other.toValue ↔
      ∀ key, Option.Rel (Value.EqualBy atom) (body.toValue.get? key) (other.toValue.get? key) :=
    equalBy_mapping_iff _ _
  -- A body has no other keys than these four, in whatever order.
  rw [hparts]
  simp only [SearchBody.get?_toValue]
  constructor
  · intro hall
    refine ⟨?_, ?_, ?_, ?_⟩
    · simpa using hall "query"
    · simpa using hall "sort"
    · simpa using hall "from"
    · simpa using hall "size"
  · rintro ⟨hquery, hsort, hoffset, hsize⟩ key
    by_cases h₁ : key = "query"
    · simpa [h₁] using hquery
    by_cases h₂ : key = "sort"
    · simpa [h₂] using hsort
    by_cases h₃ : key = "from"
    · simpa [h₃] using hoffset
    by_cases h₄ : key = "size"
    · simpa [h₄] using hsize
    · simp [h₁, h₂, h₃, h₄]

/-- Free texts that count as missing without characters are the same if the texts are, and with
    characters the fields too. -/
theorem freeText_eq_iff (text other : String) (fields others : List String) :
    (if text = "" then none else some (⟨text, fields⟩ : FreeText)) =
        (if other = "" then none else some ⟨other, others⟩) ↔
      text = other ∧ (text ≠ "" → fields = others) := by
  by_cases h : text = ""
  · rw [if_pos h]
    by_cases hother : other = ""
    · simp [h, hother]
    · simp [h, hother, Ne.symm hother]
  · rw [if_neg h]
    by_cases hother : other = ""
    · simp [h, hother]
    · simp [h, hother]

/-- Bodies of requests are equal if all that matters of the requests is. -/
theorem equalBy_composedBody_iff (h : ComparesAtoms atom) {request other : SearchRequest}
    {fields others : List String} {filters otherFilters : List Value}
    {size otherSize offset otherOffset : Option Int} :
    (composedBody request fields filters size offset).toValue.EqualBy atom
        (composedBody other others otherFilters otherSize otherOffset).toValue ↔
      request.query = other.query ∧ request.orders = other.orders
        ∧ List.Forall₂ (Value.EqualBy atom) filters otherFilters ∧ offset = otherOffset
        ∧ size.getD 0 = otherSize.getD 0 ∧ (request.query ≠ "" → fields = others) := by
  rw [equalBy_body_iff, rel_query_iff h]
  simp only [composedBody]
  rw [freeText_eq_iff, rel_listPart_iff, rel_listPart_iff, forall₂_orders_iff h, rel_int_iff h,
    rel_int_iff h, filter_ne_zero_eq_iff]
  tauto

/-- A part leaves no trace if it is missing. -/
theorem optionalEntry_eq_nil_iff (key : String) (part : Option Value) :
    optionalEntry key part = [] ↔ part = none := by
  cases part <;> simp [optionalEntry]

/-- There is no query without a free text and without filters. -/
theorem query_eq_none_iff (body : SearchBody) :
    body.query = none ↔ body.freeText = none ∧ body.filter = none := by
  rw [SearchBody.query, SearchBody.queryEntries]
  cases body.freeText <;> cases body.filter <;> simp [optionalEntry, FreeText.entries]

/-- A body is empty if all of its parts are missing. -/
theorem composedBody_eq_empty_iff (request : SearchRequest) (fields : List String)
    (filters : List Value) (size offset : Option Int) :
    (composedBody request fields filters size offset).toValue = .mapping [] ↔
      request.query = "" ∧ request.orders = [] ∧ filters = [] ∧ offset = none
        ∧ size.getD 0 = 0 := by
  have hlist : ∀ vs, listPart vs = none ↔ vs = [] := fun vs => by simp [listPart]
  have hsize : size.filter (· ≠ 0) = none ↔ size.getD 0 = 0 :=
    filter_ne_zero_eq_iff size none
  have hfree : (if request.query = "" then none else
      some (⟨request.query, fields⟩ : FreeText)) = none ↔ request.query = "" := by simp
  rw [SearchBody.toValue, Value.mapping.injEq]
  simp only [List.append_eq_nil_iff, optionalEntry_eq_nil_iff, query_eq_none_iff, composedBody,
    hlist, hfree, hsize, List.map_eq_nil_iff, Option.map_eq_none_iff]
  tauto

/-! ### Main result -/

/-- **Equal parameters come from equal parts.** Take two requests over record types whose schemas
    are mappings or missing, each with filters, a number of hits and a first position. Their
    parameters can be composed, with each part at its own place of the body. They are equal if and
    only if the names of the indices, the free texts, the orders, the filters and the first
    positions are, and the numbers of hits are, where none counts as zero, and with a free text the
    fields of text are. The body is empty if and only if there is nothing to be sent in it. -/
theorem params_equal_iff (h : ComparesAtoms atom) {request other : SearchRequest}
    (hschema : request.type.properties = .null
      ∨ ∃ schema, request.type.properties = .mapping schema)
    (hother : other.type.properties = .null ∨ ∃ schema, other.type.properties = .mapping schema)
    (filters otherFilters : List Value) (size otherSize offset otherOffset : Option Int) :
    ∃ params otherParams,
      request.compose (.list filters) (integerValue size) (integerValue offset) = .ok params
      ∧ other.compose (.list otherFilters) (integerValue otherSize) (integerValue otherOffset) =
        .ok otherParams
      ∧ Composed request (declaredTextFields request.type.properties) filters size offset
        params.body.toValue
      ∧ (params.toValue.EqualBy atom otherParams.toValue ↔
        request.indexName.EqualBy atom other.indexName ∧ request.query = other.query
          ∧ request.orders = other.orders
          ∧ List.Forall₂ (Value.EqualBy atom) filters otherFilters
          ∧ offset = otherOffset ∧ size.getD 0 = otherSize.getD 0
          ∧ (request.query ≠ "" → declaredTextFields request.type.properties =
            declaredTextFields other.type.properties))
      ∧ (params.body.toValue = .mapping [] ↔
        request.query = "" ∧ request.orders = [] ∧ filters = [] ∧ offset = none
          ∧ size.getD 0 = 0) := by
  refine ⟨_, _, compose_eq request filters size offset (textFields_eq request.type hschema),
    compose_eq other otherFilters otherSize otherOffset (textFields_eq other.type hother),
    composed_composedBody request _ filters size offset, ?_, composedBody_eq_empty_iff ..⟩
  rw [SearchParams.toValue, SearchParams.toValue, equalBy_mapping_iff]
  -- Parameters are two entries: the index, and the body.
  rw [← equalBy_composedBody_iff h]
  constructor
  · intro hall
    have hindex := hall "index"
    have hbody := hall "body"
    simp only [Document.get?_cons] at hindex hbody
    exact ⟨by simpa using hindex, by simpa using hbody⟩
  · rintro ⟨hindex, hbody⟩ key
    simp only [Document.get?_cons, Document.get?_nil]
    by_cases h₁ : key = "index"
    · simpa [h₁] using hindex
    by_cases h₂ : key = "body"
    · simpa [h₂] using hbody
    · simp [h₁, h₂]

/-- The filter that a product is in stock. -/
def stockFilter : Value := termClause "in_stock" (.bool true)

/-- For red shoes in stock no number of hits is the same as zero, but no first position is another
    one than zero. -/
theorem redShoes_first_position_differs :
    ComparesAtoms (fun v w => v.sameKey w = true)
      ∧ (redShoes.type.properties = .null
        ∨ ∃ schema, redShoes.type.properties = .mapping schema)
      ∧ (∃ params other, redShoes.compose (.list [stockFilter]) .null .null = .ok params
        ∧ redShoes.compose (.list [stockFilter]) (.int 0) .null = .ok other
        ∧ params.toValue.EqualBy (fun v w => v.sameKey w = true) other.toValue)
      ∧ ∃ params other, redShoes.compose (.list [stockFilter]) .null .null = .ok params
        ∧ redShoes.compose (.list [stockFilter]) .null (.int 0) = .ok other
        ∧ ¬ params.toValue.EqualBy (fun v w => v.sameKey w = true) other.toValue := by
  have hschema : redShoes.type.properties = .null
      ∨ ∃ schema, redShoes.type.properties = .mapping schema := .inr ⟨_, rfl⟩
  have hfilter : stockFilter.EqualBy (fun v w => v.sameKey w = true) stockFilter := by
    rw [stockFilter, termClause, equalBy_entry_iff, equalBy_entry_iff]
    exact ⟨rfl, rfl, .atom rfl rfl rfl⟩
  have hindex : redShoes.indexName.EqualBy (fun v w => v.sameKey w = true) redShoes.indexName :=
    .atom rfl rfl rfl
  refine ⟨comparesAtoms_sameKey, hschema, ?_, ?_⟩
  · obtain ⟨params, other, hparams, hother, -, hequal, -⟩ := params_equal_iff comparesAtoms_sameKey
      hschema hschema [stockFilter] [stockFilter] none (some 0) none none
    exact ⟨params, other, hparams, hother,
      hequal.2 ⟨hindex, rfl, rfl, .cons hfilter .nil, rfl, rfl, fun _ => rfl⟩⟩
  · obtain ⟨params, other, hparams, hother, -, hequal, -⟩ := params_equal_iff comparesAtoms_sameKey
      hschema hschema [stockFilter] [stockFilter] none none none (some 0)
    refine ⟨params, other, hparams, hother, fun hsame => ?_⟩
    obtain ⟨-, -, -, -, hposition, -⟩ := hequal.1 hsame
    cases hposition

end RecordSearch
