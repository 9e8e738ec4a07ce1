import RecordSearch.Error

namespace RecordSearch

/-!
# Record types and records

A record type names the index that holds its documents and may declare the schema of its
fields. A record has an identity, which becomes the id of its document, and a document.

`RecordType.textFields` lists the fields that a free text is matched against, and `Record.id` is
the text of an identity.
-/

/-- A type of records: the index of its documents, the schema of its fields (nothing, if it
    declares none) and whether records can be loaded by their identities. -/
structure RecordType where
  name : String
  index : Value
  properties : Value
  loadable : Bool
deriving Repr

/-- The type that stands for all records. It has no index and no schema of its own. -/
def RecordType.anyRecord : RecordType := ⟨"Searchable", .null, .null, false⟩

/-- A record. -/
structure Record where
  type : RecordType
  key : Value
  document : Value

/-- The text of the identity of a record. -/
def Record.id (record : Record) : Except Unprintable String := Failure.textOf record.key

/-- Does the descriptor declare a field of text? -/
def declaresText (descriptor : Value) : Bool :=
  match descriptor.get? "type" with
  | some (.str kind) => kind == "text"
  | _ => false

/-- The fields that a schema declares as text, in its order. -/
def textFieldsOf (schema : Document) : List String :=
  (schema.filter fun e => declaresText e.2).map Prod.fst

/-- The fields that a record type declares as text; none without a schema. -/
def RecordType.textFields (type : RecordType) : Except Error (List String) :=
  match type.properties.entries? with
  | some schema => .ok (textFieldsOf schema)
  | none => if type.properties.isTruthy then .error .notAMapping else .ok []

end RecordSearch
