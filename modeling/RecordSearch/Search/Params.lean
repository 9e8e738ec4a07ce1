import RecordSearch.Value

namespace RecordSearch

/-!
# Search parameters

What a search sends: the name of an index and a body. The body has four parts, each of which
may be missing: the query, which joins a free text and filters, the order of the hits, the
position of the first hit and the number of hits.

`SearchBody.toValue` is the body as it is sent; a part that is missing leaves no trace there.
-/

/-- A free text and the fields that it is matched against. -/
structure FreeText where
  text : String
  fields : List String
deriving DecidableEq, Repr

/-- The two ways in which a free text may match. -/
inductive MatchKind where
  | crossFields
  | phrasePrefix
deriving DecidableEq, Repr

/-- The name of a way to match. -/
def MatchKind.name : MatchKind → String
  | .crossFields => "cross_fields"
  | .phrasePrefix => "phrase_prefix"

/-- The body of a search. -/
structure SearchBody where
  freeText : Option FreeText
  filter : Option Value
  sort : Option Value
  offset : Option Value
  size : Option Value
deriving Repr

/-- The parameters of a search. -/
structure SearchParams where
  index : Value
  body : SearchBody
deriving Repr

/-- The clause by which a free text matches in one way. -/
def FreeText.clause (freeText : FreeText) (kind : MatchKind) : Value :=
  .mapping [("multi_match", .mapping [
    ("query", .str freeText.text),
    ("type", .str kind.name),
    ("fields", .list (freeText.fields.map .str))])]

/-- The entries of a query by which a free text must match in at least one way. -/
def FreeText.entries (freeText : FreeText) : Document :=
  [("should", .list [freeText.clause .crossFields, freeText.clause .phrasePrefix]),
    ("minimum_should_match", .int 1)]

/-- An entry for a part that may be missing. -/
def optionalEntry (key : String) (part : Option Value) : Document :=
  match part with
  | some v => [(key, v)]
  | none => []

namespace SearchBody

/-- The body without any part. -/
def empty : SearchBody := ⟨none, none, none, none, none⟩

/-- The entries of the query: those of the free text, and the filters. -/
def queryEntries (body : SearchBody) : Document :=
  (match body.freeText with
    | some freeText => freeText.entries
    | none => []) ++ optionalEntry "filter" body.filter

/-- The query, if there is a free text or a filter. -/
def query (body : SearchBody) : Option Value :=
  match body.queryEntries with
  | [] => none
  | entries => some (.mapping [("bool", .mapping entries)])

/-- The body as it is sent. -/
def toValue (body : SearchBody) : Value :=
  .mapping (optionalEntry "query" body.query ++ optionalEntry "sort" body.sort
    ++ optionalEntry "from" body.offset ++ optionalEntry "size" body.size)

end SearchBody

/-- The parameters as a mapping. -/
def SearchParams.toValue (params : SearchParams) : Value :=
  .mapping [("index", params.index), ("body", params.body.toValue)]

end RecordSearch
