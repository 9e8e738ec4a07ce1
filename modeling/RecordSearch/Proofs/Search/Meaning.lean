import RecordSearch.Search.Request
import RecordSearch.Proofs.Value.Keyed
import Mathlib.Algebra.Order.Ring.Int
import Mathlib.Data.List.Basic

namespace RecordSearch

/-!
# What the body of a search means

A backend reads the body of a search as a condition on documents. `matchesBody` is that
reading, for any idea of which single clauses hold for a document; it knows nothing of
requests. What a request asks for is said apart from it:

* `AsksFor`: the clause that the constraint on a key asks for, if it asks for one;
* `ConstraintsHold`: every clause that a constraint asks for holds;
* `FreeTextHolds`: an empty text, or a match in one of the two ways.

The parameters of a request are composed part by part, and free text and filters end up in
one query.  `matchesBody_toValue_iff` takes such a query apart again, and `asksFor_iff` says
that the clauses of the constraints are the ones that were asked for.  From these,
`matchesBody_params_iff` says that the body means what the request asks for.
-/

/-! ### How a backend reads a body -/

/-- The clauses that a query lists under a key. -/
def clausesAt (query : Document) (key : String) : List Value :=
  match query.get? key with
  | some (.list clauses) => clauses
  | _ => []

/-- How many of the clauses under `should` must hold. A query that does not say so itself
    leaves them free beside a filter, and needs one of them if there is nothing else. -/
def requiredShould (query : Document) : Int :=
  match query.get? "minimum_should_match", query.get? "filter", query.get? "should" with
  | some (.int n), _, _ => n
  | _, none, some _ => 1
  | _, _, _ => 0

/-- Does a document match a query that joins clauses? All filters must hold, and enough of
    the clauses under `should`. -/
def matchesBool (holds : Value → Bool) (query : Document) : Bool :=
  (clausesAt query "filter").all holds
    && decide (requiredShould query ≤ ((clausesAt query "should").countP holds : Int))

/-- Does a document match a query? What does not join clauses is a clause itself. -/
def matchesQuery (holds : Value → Bool) : Value → Bool
  | .mapping [("bool", .mapping query)] => matchesBool holds query
  | clause => holds clause

/-- Does a document match a body? `holds` tells which clauses hold for the document. Without
    a query every document matches. -/
def matchesBody (holds : Value → Bool) (body : Value) : Bool :=
  match body.get? "query" with
  | some query => matchesQuery holds query
  | none => true

/-! ### What a request asks for -/

/-- The clause that a field has a value. -/
def termClause (field : String) (v : Value) : Value :=
  .mapping [("term", .mapping [(field, v)])]

/-- The clause that a field lies on one side of a bound. -/
def rangeClause (field comparison : String) (bound : Value) : Value :=
  .mapping [("range", .mapping [(field, .mapping [(comparison, bound)])])]

/-- The clause that a text matches some of the fields, in the way of the given kind. -/
def multiMatchClause (kind text : String) (fields : List String) : Value :=
  .mapping [("multi_match", .mapping [("query", .str text), ("type", .str kind),
    ("fields", .list (fields.map Value.str))])]

/-- The symbols of comparisons in constraints, with their names in clauses. -/
def comparisons : List (String × String) :=
  [(">", "gt"), (">=", "gte"), ("<", "lt"), ("<=", "lte")]

/-- Is the value a mapping? -/
def Value.isMapping : Value → Bool
  | .mapping _ | .brokenMapping _ => true
  | _ => false

/-- **What a constraint asks for.** A value that is neither a mapping nor a sequence asks for
    itself at the key. A sequence of two, a known symbol and a bound, asks for a range at the
    key; with a text in front, for a range at that field. Nothing else asks for anything. -/
inductive AsksFor (key : String) : (constraint clause : Value) → Prop where
  | plain {v : Value} (hmap : v.isMapping = false) (hseq : v.sequence? = none) :
      AsksFor key v (termClause key v)
  | pair {v op bound : Value} {symbol comparison : String}
      (hseq : v.sequence? = some [op, bound]) (hop : op.str? = some symbol)
      (hknown : (symbol, comparison) ∈ comparisons) :
      AsksFor key v (rangeClause key comparison bound)
  | triple {v field op bound : Value} {name symbol comparison : String}
      (hseq : v.sequence? = some [field, op, bound]) (hfield : field.str? = some name)
      (hop : op.str? = some symbol) (hknown : (symbol, comparison) ∈ comparisons) :
      AsksFor key v (rangeClause name comparison bound)

/-- Every clause that one of the constraints asks for holds. -/
def ConstraintsHold (holds : Value → Bool) (wheres : Document) : Prop :=
  ∀ key constraint, (key, constraint) ∈ wheres →
    ∀ clause, AsksFor key constraint clause → holds clause = true

/-- The name of a field whose descriptor is a mapping with the type `text`. -/
def textField? : String × Value → Option String
  | (name, descriptor) =>
    match descriptor.entries? with
    | some entries =>
      match entries.get? "type" with
      | some (.str "text") => some name
      | _ => none
    | none => none

/-- The fields of text that a schema declares, in its order. -/
def declaredTextFields : (properties : Value) → List String
  | .mapping schema => schema.filterMap textField?
  | _ => []

/-- A text is empty, or it matches the fields in one of the two ways. -/
def FreeTextHolds (holds : Value → Bool) (text : String) (fields : List String) : Prop :=
  text = "" ∨ holds (multiMatchClause "cross_fields" text fields) = true
    ∨ holds (multiMatchClause "phrase_prefix" text fields) = true

/-! ### The parts of a body -/

/-- A part that may be missing is found at its key and nowhere else. -/
theorem get?_optionalEntry (key other : String) (part : Option Value) :
    Document.get? (optionalEntry key part) other = if other = key then part else none := by
  cases part with
  | none => simp [optionalEntry, Document.get?_nil]
  | some v => simp [optionalEntry, Document.get?_cons, Document.get?_nil]

/-- Each part of a body as it is sent stands at its own key. -/
theorem SearchBody.get?_toValue (body : SearchBody) (key : String) :
    body.toValue.get? key =
      (((if key = "query" then body.query else none).or
        (if key = "sort" then body.sort else none)).or
          (if key = "from" then body.offset else none)).or
            (if key = "size" then body.size else none) := by
  show Document.get? _ key = _
  rw [Document.get?_append, Document.get?_append, Document.get?_append, get?_optionalEntry,
    get?_optionalEntry, get?_optionalEntry, get?_optionalEntry]

/-- The query of a body as it is sent. -/
theorem SearchBody.get?_query (body : SearchBody) : body.toValue.get? "query" = body.query := by
  simp [get?_toValue]

/-- The first position that a body names as it is sent. -/
theorem SearchBody.get?_from (body : SearchBody) : body.toValue.get? "from" = body.offset := by
  simp [get?_toValue]

/-- The number of hits that a body asks for as it is sent. -/
theorem SearchBody.get?_size (body : SearchBody) : body.toValue.get? "size" = body.size := by
  simp [get?_toValue]

/-- A query that joins clauses is never read as a clause itself. -/
theorem matchesQuery_bool (holds : Value → Bool) (query : Document) :
    matchesQuery holds (.mapping [("bool", .mapping query)]) = matchesBool holds query := rfl

/-- The clauses of a free text, sent or asked for, are the same. -/
theorem FreeText.clause_eq (freeText : FreeText) (kind : MatchKind) :
    freeText.clause kind = multiMatchClause kind.name freeText.text freeText.fields := rfl

/-- **A query taken apart.** Whether or not there is a free text, and whether or not there are
    filters, a body asks for a match of the free text and for every filter. -/
theorem matchesBody_toValue_iff (holds : Value → Bool) (body : SearchBody)
    (filters : List Value) (hfilter : body.filter = SearchRequest.truthy? (.list filters)) :
    matchesBody holds body.toValue = true ↔
      (∀ clause ∈ filters, holds clause = true) ∧
        ∀ freeText, body.freeText = some freeText →
          holds (freeText.clause .crossFields) = true
            ∨ holds (freeText.clause .phrasePrefix) = true := by
  rw [matchesBody, body.get?_query, SearchBody.query, SearchBody.queryEntries, hfilter]
  -- Both parts may be missing, and each of the four queries has its own default for `should`.
  cases hfree : body.freeText with
  | none =>
    cases filters with
    | nil => simp [SearchRequest.truthy?, Value.isTruthy, optionalEntry]
    | cons clause rest =>
      simp [SearchRequest.truthy?, Value.isTruthy, optionalEntry, matchesQuery_bool, matchesBool,
        clausesAt, requiredShould, Document.get?_cons, Document.get?_nil]
  | some freeText =>
    cases filters with
    | nil =>
      simp [SearchRequest.truthy?, Value.isTruthy, optionalEntry, matchesQuery_bool, matchesBool,
        clausesAt, requiredShould, Document.get?_cons, Document.get?_nil, FreeText.entries]
    | cons clause rest =>
      simp [SearchRequest.truthy?, Value.isTruthy, optionalEntry, matchesQuery_bool, matchesBool,
        clausesAt, requiredShould, Document.get?_cons, FreeText.entries]

/-! ### The clauses of constraints -/

/-- A symbol and a name belong together if the comparison with the symbol has that name. -/
theorem mem_comparisons_iff (symbol name : String) :
    (symbol, name) ∈ comparisons ↔ (RangeOp.ofSymbol? symbol).map RangeOp.name = some name := by
  unfold RangeOp.ofSymbol?
  split <;> simp_all [comparisons, RangeOp.name, eq_comm]

/-- A range is made of a field and an operator that are texts, if the operator is known. -/
theorem ofRange?_eq_some_iff (field op bound clause : Value) :
    (Clause.ofRange? field op bound).map Clause.toValue = some clause ↔
      ∃ name symbol comparison, field.str? = some name ∧ op.str? = some symbol
        ∧ (symbol, comparison) ∈ comparisons ∧ rangeClause name comparison bound = clause := by
  unfold Clause.ofRange?
  cases hfield : field.str? with
  | none => simp
  | some name =>
    cases hop : op.str? with
    | none => simp
    | some symbol =>
      simp only [Option.some.injEq, mem_comparisons_iff, exists_and_left, exists_eq_left']
      cases RangeOp.ofSymbol? symbol with
      | none => simp
      | some range => simp [Clause.toValue, rangeClause]

/-- The members of a sequence decide what it asks for. -/
theorem ofConstraint?_of_sequence (key : String) {v : Value} {members : List Value}
    (hseq : v.sequence? = some members) :
    Clause.ofConstraint? key v = Clause.ofSequence? key members := by
  unfold Clause.ofConstraint?
  split
  · simp [Value.sequence?] at hseq
  · simp [Value.sequence?] at hseq
  · rw [hseq]

/-- A mapping asks for nothing. -/
theorem ofConstraint?_of_mapping (key : String) {v : Value} (hmap : v.isMapping = true) :
    Clause.ofConstraint? key v = none := by
  unfold Clause.ofConstraint?
  split
  · rfl
  · rfl
  · rename_i hm hb
    cases v <;> simp_all [Value.isMapping]

/-- Any other value asks for itself. -/
theorem ofConstraint?_of_plain (key : String) {v : Value} (hmap : v.isMapping = false)
    (hseq : v.sequence? = none) : Clause.ofConstraint? key v = some (.term key v) := by
  unfold Clause.ofConstraint?
  split
  · simp [Value.isMapping] at hmap
  · simp [Value.isMapping] at hmap
  · rw [hseq]

/-- **The clause of a constraint** is the one that the constraint asks for, and there is none
    if it asks for none. -/
theorem asksFor_iff (key : String) (constraint clause : Value) :
    AsksFor key constraint clause ↔
      (Clause.ofConstraint? key constraint).map Clause.toValue = some clause := by
  constructor
  · intro h
    cases h with
    | plain hmap hseq => rw [ofConstraint?_of_plain key hmap hseq]; rfl
    | pair hseq hop hknown =>
      rw [ofConstraint?_of_sequence key hseq]
      exact (ofRange?_eq_some_iff _ _ _ _).2 ⟨key, _, _, rfl, hop, hknown, rfl⟩
    | triple hseq hfield hop hknown =>
      rw [ofConstraint?_of_sequence key hseq]
      exact (ofRange?_eq_some_iff _ _ _ _).2 ⟨_, _, _, hfield, hop, hknown, rfl⟩
  · intro h
    cases hmap : constraint.isMapping with
    | true => simp [ofConstraint?_of_mapping key hmap] at h
    | false =>
      cases hseq : constraint.sequence? with
      | none =>
        rw [ofConstraint?_of_plain key hmap hseq] at h
        cases h
        exact .plain hmap hseq
      | some members =>
        rw [ofConstraint?_of_sequence key hseq] at h
        -- Only two or three members can be a range; their number tells where the field is.
        match members, hseq, h with
        | [op, bound], hseq, h =>
          obtain ⟨name, symbol, comparison, hfield, hop, hknown, rfl⟩ :=
            (ofRange?_eq_some_iff _ _ _ _).1 h
          cases hfield
          exact .pair hseq hop hknown
        | [field, op, bound], hseq, h =>
          obtain ⟨name, symbol, comparison, hfield, hop, hknown, rfl⟩ :=
            (ofRange?_eq_some_iff _ _ _ _).1 h
          exact .triple hseq hfield hop hknown
        | [], _, h => simp [Clause.ofSequence?] at h
        | [_], _, h => simp [Clause.ofSequence?] at h
        | _ :: _ :: _ :: _ :: _, _, h => simp [Clause.ofSequence?] at h

/-- The filters of a request hold if every clause does that a constraint asks for. -/
theorem filters_hold_iff (holds : Value → Bool) (wheres : Document) :
    (∀ clause ∈ (Clause.ofWheres wheres).map Clause.toValue, holds clause = true) ↔
      ConstraintsHold holds wheres := by
  unfold ConstraintsHold Clause.ofWheres
  simp only [asksFor_iff, List.map_filterMap, List.mem_filterMap, Prod.exists]
  constructor
  · intro h key constraint hmem clause hclause
    exact h clause ⟨key, constraint, hmem, hclause⟩
  · rintro h clause ⟨key, constraint, hmem, hclause⟩
    exact h key constraint hmem clause hclause

/-! ### The parameters of a request -/

/-- A descriptor declares a field of text if that gives the field a name. -/
theorem textField?_eq (name : String) (descriptor : Value) :
    textField? (name, descriptor) = if declaresText descriptor then some name else none := by
  rw [textField?, declaresText, Value.get?]
  cases descriptor.entries? with
  | none => rfl
  | some entries =>
    rw [Option.bind_some]
    dsimp only
    cases entries.get? "type" with
    | none => rfl
    | some kind =>
      cases kind with
      | str kind =>
        by_cases hkind : kind = "text"
        · simp [hkind]
        · simp [hkind]
      | _ => rfl

/-- The fields of text are the ones that the schema names. -/
theorem textFieldsOf_eq (schema : Document) :
    textFieldsOf schema = schema.filterMap textField? := by
  unfold textFieldsOf
  induction schema with
  | nil => rfl
  | cons entry schema ih =>
    obtain ⟨name, descriptor⟩ := entry
    rw [List.filterMap_cons, textField?_eq, List.filter_cons]
    by_cases h : declaresText descriptor = true
    · rw [if_pos h, if_pos h, List.map_cons, ih]
    · rw [if_neg h, if_neg h, ih]

/-- The fields of text of a record type whose schema is a mapping or missing. -/
theorem textFields_eq (type : RecordType)
    (hschema : type.properties = .null ∨ ∃ schema, type.properties = .mapping schema) :
    type.textFields = .ok (declaredTextFields type.properties) := by
  unfold RecordType.textFields
  rcases hschema with h | ⟨schema, h⟩
  · rw [h]; rfl
  · rw [h]
    exact congrArg Except.ok (textFieldsOf_eq schema)

/-- The free text of a request, which is missing if it is empty. -/
theorem freeText_eq (request : SearchRequest) {fields : List String}
    (hfields : request.type.textFields = .ok fields) :
    request.freeText = .ok (if request.query = "" then none else some ⟨request.query, fields⟩) := by
  unfold SearchRequest.freeText
  by_cases h : request.query = ""
  · rw [if_pos h, h]; rfl
  · rw [if_neg h, hfields, if_neg (by simpa using h)]; rfl

/-- The parameters of a request whose record type has its fields of text. -/
theorem params_eq (request : SearchRequest) (size offset : Value) {fields : List String}
    (hfields : request.type.textFields = .ok fields) :
    request.params size offset = .ok ⟨request.indexName,
      ⟨if request.query = "" then none else some ⟨request.query, fields⟩,
        SearchRequest.truthy? request.filterValue, request.sort,
        SearchRequest.present? offset, SearchRequest.truthy? size⟩⟩ := by
  unfold SearchRequest.params SearchRequest.compose
  rw [freeText_eq request hfields]
  rfl

/-- The parameters of a request name the index that it runs against. -/
theorem index_of_params {request : SearchRequest} {size offset : Value} {params : SearchParams}
    (h : request.params size offset = .ok params) : params.index = request.indexName := by
  unfold SearchRequest.params SearchRequest.compose at h
  cases hfree : request.freeText with
  | error e =>
    rw [hfree] at h
    cases h
  | ok freeText =>
    rw [hfree] at h
    cases h
    rfl

/-- The parameters of a request name the first position unless it is nothing, and the number of
    hits if it counts as true. -/
theorem window_of_params {request : SearchRequest} {size offset : Value} {params : SearchParams}
    (h : request.params size offset = .ok params) :
    params.body.toValue.get? "from" = SearchRequest.present? offset
      ∧ params.body.toValue.get? "size" = SearchRequest.truthy? size := by
  rw [SearchBody.get?_from, SearchBody.get?_size]
  unfold SearchRequest.params SearchRequest.compose at h
  cases hfree : request.freeText with
  | error e =>
    rw [hfree] at h
    cases h
  | ok freeText =>
    rw [hfree] at h
    cases h
    exact ⟨rfl, rfl⟩

/-- A request has no parameters only because of its free text. -/
theorem params_eq_error_iff (request : SearchRequest) (size offset : Value) (e : Error) :
    request.params size offset = .error e ↔ request.freeText = .error e := by
  unfold SearchRequest.params SearchRequest.compose
  cases request.freeText with
  | error problem =>
    constructor
    · rintro ⟨⟩
      rfl
    · rintro ⟨⟩
      rfl
  | ok freeText => exact ⟨nofun, nofun⟩

/-- **The body means what the request asks for.** For any record type whose schema is a mapping
    or missing, and whatever number of hits and first position are asked for, the parameters of
    a request can be composed. A document matches their body if and only if the free text
    matches it in one of the two ways, unless it is empty, and every clause holds that a
    constraint asks for. -/
theorem matchesBody_params_iff {δ : Type} (holds : δ → Value → Bool) (request : SearchRequest)
    (size offset : Value)
    (hschema : request.type.properties = .null
      ∨ ∃ schema, request.type.properties = .mapping schema) :
    ∃ params, request.params size offset = .ok params ∧
      ∀ d, matchesBody (holds d) params.body.toValue = true ↔
        FreeTextHolds (holds d) request.query (declaredTextFields request.type.properties)
          ∧ ConstraintsHold (holds d) request.wheres := by
  refine ⟨_, params_eq request size offset (textFields_eq request.type hschema), ?_⟩
  intro d
  rw [matchesBody_toValue_iff (holds d) _ (request.filters.map Clause.toValue) rfl,
    SearchRequest.filters, filters_hold_iff, and_comm]
  refine and_congr_left fun _ => ?_
  by_cases h : request.query = ""
  · simp [FreeTextHolds, h]
  · simp [FreeTextHolds, h, FreeText.clause_eq, MatchKind.name]

/-- Products with one field of text. -/
def product : RecordType where
  name := "Product"
  index := .str "products"
  properties := .mapping [("name", .mapping [("type", .str "text")]),
    ("price", .mapping [("type", .str "float")])]
  loadable := true

/-- A search for red shoes that cost more than ten. -/
def redShoes : SearchRequest where
  type := product
  query := "red shoes"
  wheres := [("price", .tuple [.str ">", .int 10]), ("in_stock", .bool true), ("tags", .mapping [])]
  orders := [("price", "asc")]
  limit := some 5
  index := none
  callback := none

/-- The body of a search for red shoes, with a document given by the clauses that hold. -/
theorem matchesBody_redShoes_iff :
    (product.properties = .null ∨ ∃ schema, product.properties = .mapping schema) ∧
    ∃ params, redShoes.params (.int 5) .null = .ok params ∧
      ∀ d : Value → Bool, matchesBody d params.body.toValue = true ↔
        FreeTextHolds d "red shoes" ["name"] ∧ ConstraintsHold d redShoes.wheres :=
  ⟨.inr ⟨_, rfl⟩, matchesBody_params_iff (fun d => d) redShoes (.int 5) .null (.inr ⟨_, rfl⟩)⟩

end RecordSearch
