import RecordSearch.Program
import RecordSearch.Search.Clause
import RecordSearch.Search.Order
import RecordSearch.Search.Results

namespace RecordSearch

/-!
# Search requests

A request says what is searched for without saying how: a free text, constraints, orders, a
limit, an index that replaces the one of the record type, and a callback that replaces the
search itself.

* `SearchRequest.check`: a request from given fields;
* `SearchRequest.params`: the parameters that a request is sent with.
-/

/-- What a search answers with: results, or whatever a callback returned. -/
inductive Reply where
  | results (results : SearchResults)
  | value (v : Value)

/-- A program that takes the place of a search. It is given a client and the parameters. -/
abbrev Callback := Client → SearchParams → Program Reply

/-- A search request. -/
structure SearchRequest where
  type : RecordType
  query : String
  wheres : Document
  orders : List (String × String)
  limit : Option Nat
  index : Option String
  callback : Option Callback

/-- What is given as the record type of a request. -/
inductive TypeArgument where
  | type (type : RecordType)
  | other

/-- What is given as the callback of a request. -/
inductive CallbackArgument where
  | callback (callback : Callback)
  | none
  | other

/-- The fields of a request as they are given; each may be missing. -/
structure RequestFields where
  type : Option TypeArgument
  query : Option Value
  wheres : Option Value
  orders : Option Value
  limit : Option Value
  index : Option Value
  callback : Option CallbackArgument

namespace SearchRequest

/-- The check of the record type. -/
def checkType : Option TypeArgument → Checked RecordType
  | none => .fail .missing
  | some (.type type) => .valid type
  | some .other => .fail .notRecordType

/-- The check of the callback. -/
def checkCallback : Option CallbackArgument → Checked (Option Callback)
  | none | some .none => .valid none
  | some (.callback callback) => .valid (some callback)
  | some .other => .fail .notCallable

/-- The check of one order: a field and a direction, both text. -/
def checkOrder (order : Value) : Checked (String × String) :=
  match Checked.members? order with
  | none => .fail .notTuple
  | some [] =>
    Prod.mk <$> .inside (.item 0) (.fail .missing) <*> .inside (.item 1) (.fail .missing)
  | some [field] =>
    Prod.mk <$> .inside (.item 0) (Checked.text field) <*> .inside (.item 1) (.fail .missing)
  | some [field, direction] =>
    Prod.mk <$> .inside (.item 0) (Checked.text field)
      <*> .inside (.item 1) (Checked.text direction)
  | some _ => .fail .tooLong

/-- A request from given fields. -/
def check (fields : RequestFields) : Checked SearchRequest :=
  SearchRequest.mk
    <$> .inside (.field "model") (checkType fields.type)
    <*> .field "query" fields.query (.valid "") Checked.text
    <*> .field "wheres" fields.wheres (.valid []) Checked.mapping
    <*> .field "orders" fields.orders (.valid []) (Checked.listOf checkOrder)
    <*> .field "limit" fields.limit (.valid none) (Checked.optional Checked.natural)
    <*> .field "index" fields.index (.valid none) (Checked.optional Checked.text)
    <*> .inside (.field "callback") (checkCallback fields.callback)

/-- A request cannot be changed: setting a field is a fault of that field. A name that starts
    with an underscore is no field, and setting it leaves the request as it is, except for the
    parts that make up every value: its class cannot be set, all its fields only by a mapping,
    which leaves it without those that it had, and some of the others not at all. -/
def assign (request : SearchRequest) (name : String) (value : Value) :
    Except Error SearchRequest :=
  match name with
  | "__class__" => .error .wrongType
  | "__dict__" =>
    match value with
    | .mapping _ | .brokenMapping _ => .error .noSuchPart
    | _ => .error .wrongType
  | "__weakref__" | "__fields_set__" | "__fields__" => .error .noSuchPart
  | name =>
    if name.toList.head? == some '_' then .ok request
    else (Checked.inside (.field name) (.fail .frozen)).toExcept

/-- The index that a request runs against: its own if it names one, else the index of the
    record type. -/
def indexName (request : SearchRequest) : Value :=
  match request.index with
  | some index => if index.isEmpty then request.type.index else .str index
  | none => request.type.index

/-- The clauses of the constraints of a request. -/
def filters (request : SearchRequest) : List Clause := Clause.ofWheres request.wheres

/-- The free text of a request with the fields that it is matched against; an empty text
    matches everything and is left out. -/
def freeText (request : SearchRequest) : Except Error (Option FreeText) :=
  if request.query.isEmpty then .ok none
  else (fun fields => some ⟨request.query, fields⟩) <$> request.type.textFields

/-- The orders of a request; without any the backend sorts by relevance. -/
def sort (request : SearchRequest) : Option Value :=
  if request.orders.isEmpty then none else some (.list (request.orders.map orderValue))

/-- The value, if it counts as true. -/
def truthy? (v : Value) : Option Value := if v.isTruthy then some v else none

/-- The value, if it is not nothing. -/
def present? : Value → Option Value
  | .null => none
  | v => some v

/-- The parameters of a request with filters, a number of hits and a first position. Empty
    filters and a number of hits that is zero are left out, a position only if it is
    nothing. -/
def compose (request : SearchRequest) (filters size offset : Value) :
    Except Error SearchParams := do
  let freeText ← request.freeText
  return ⟨request.indexName,
    ⟨freeText, truthy? filters, request.sort, present? offset, truthy? size⟩⟩

/-- The number of hits that a limit asks for, or nothing. -/
def limitValue : Option Nat → Value
  | some n => .int n
  | none => .null

/-- The filters of a request as they are sent. -/
def filterValue (request : SearchRequest) : Value :=
  .list (request.filters.map Clause.toValue)

/-- The parameters that a request is sent with. -/
def params (request : SearchRequest) (size offset : Value) : Except Error SearchParams :=
  request.compose request.filterValue size offset

end SearchRequest

end RecordSearch
