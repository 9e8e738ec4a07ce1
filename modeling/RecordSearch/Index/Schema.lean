import RecordSearch.Checked.Scalar

namespace RecordSearch

/-!
# Index schemas

What an index is created from: its name, and the descriptors of its fields if they are to be
fixed. Without descriptors the backend derives them from the documents.
-/

/-- The definition of an index. -/
structure IndexSchema where
  name : String
  properties : Option Document
deriving Repr

namespace IndexSchema

/-- A schema from a name and descriptors. -/
def check (name properties : Option Value) : Checked IndexSchema :=
  IndexSchema.mk
    <$> .field "name" name (.fail .missing) Checked.nonemptyText
    <*> .field "properties" properties (.valid none) (Checked.optional Checked.mapping)

/-- The body of the request that creates the index; none without descriptors. -/
def body? (schema : IndexSchema) : Option Value :=
  match schema.properties with
  | none | some [] => none
  | some properties =>
    some (.mapping [("mappings", .mapping [("properties", .mapping properties)])])

/-- The number of fields with a descriptor. -/
def fieldCount (schema : IndexSchema) : Nat := (schema.properties.getD []).length

end IndexSchema

end RecordSearch
