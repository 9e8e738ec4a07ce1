import RecordSearch.Checked.Scalar

namespace RecordSearch

/-!
# Bulk operations

A bulk request holds one line for each removal and two lines for each upsert: a header that
names the document, and for an upsert a payload with the document itself.

* `Operation.check`: an operation from given fields;
* `Operation.lines`, `bulkLines`: the lines of one operation and of a whole request.
-/

/-- A write to one document: setting the given fields of a document, which is created if it
    is not there, or removing it. -/
inductive Operation where
  | upsert (id index : String) (document : Document)
  | remove (id index : String)

namespace Operation

/-- The word for the operation in a header. -/
def action : Operation → String
  | .upsert .. => "update"
  | .remove .. => "delete"

/-- The id of the document. -/
def id : Operation → String
  | .upsert id _ _ => id
  | .remove id _ => id

/-- The index of the document. -/
def index : Operation → String
  | .upsert _ index _ => index
  | .remove _ index => index

/-- The line that names the document. -/
def header (op : Operation) : Value :=
  .mapping [(op.action, .mapping [("_id", .str op.id), ("_index", .str op.index)])]

/-- The line with the document of an upsert. -/
def payload (document : Document) : Value :=
  .mapping [("doc", .mapping document), ("doc_as_upsert", .bool true)]

/-- The lines of an operation. -/
def lines (op : Operation) : List Value :=
  match op with
  | .upsert _ _ document => [op.header, payload document]
  | .remove .. => [op.header]

/-- An upsert from given fields. -/
def checkUpsert (fields : Document) : Checked Operation :=
  upsert
    <$> .field "id" (fields.get? "id") (.fail .missing) Checked.text
    <*> .field "index" (fields.get? "index") (.fail .missing) Checked.text
    <*> .field "document" (fields.get? "document") (.valid []) Checked.mapping

/-- A removal from given fields. -/
def checkRemove (fields : Document) : Checked Operation :=
  remove
    <$> .field "id" (fields.get? "id") (.fail .missing) Checked.text
    <*> .field "index" (fields.get? "index") (.fail .missing) Checked.text

/-- An operation from given fields, of which `action` tells the kind. -/
def check (v : Value) : Checked Operation :=
  match v.entries? with
  | some fields =>
    match fields.get? "action" with
    | none => .fail .noAction
    | some (.str "update") => .inside (.field "update") (checkUpsert fields)
    | some (.str "delete") => .inside (.field "delete") (checkRemove fields)
    | some _ => .fail .unknownAction
  | none => .fail .notOperation

end Operation

/-- The lines of a bulk request. -/
def bulkLines (operations : List Operation) : List Value := operations.flatMap Operation.lines

end RecordSearch
