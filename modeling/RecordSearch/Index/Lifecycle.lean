import RecordSearch.Program
import RecordSearch.Index.Schema

namespace RecordSearch.Index

/-!
# Index lifecycle

Indices are created on demand and deleted on request. That an index exists is found out, not
reserved: of two callers that create one index at the same time both succeed, because an
index that is there already counts as created.

* `Index.ensure`: creates an index unless it is there; tells whether it did;
* `Index.create`: creates an index; tells whether it was not there before;
* `Index.delete`, `Index.flush`: deletes an index, the latter whether or not it succeeds.
-/

/-- Creates the index of a schema. The result tells whether this request created it. -/
def createFrom (schema : IndexSchema) : Program Bool :=
  .ask (.createIndex schema.name schema.body?) fun
    | .ok _ => do
      Program.log (.indexCreated schema.name schema.fieldCount)
      return true
    | .error failure =>
      match failure.isAlreadyExists with
      -- Another caller was faster: the index is there, but this request has not created it.
      | .ok true => do
        Program.log (.indexCreatedConcurrently schema.name)
        return false
      | .ok false =>
        Program.failWith failure (.indexFailed .create schema.name failure)
      | .error problem => .fail (.ofUnprintable problem)

/-- Creates an index with a given name and descriptors. -/
def create (name properties : Value) : Program Bool := do
  let schema ← Program.ofChecked (IndexSchema.check (some name) (some properties))
  createFrom schema

/-- Creates an index unless the backend finds it. -/
def ensure (name properties : Value) : Program Bool :=
  .ask (.getIndex name) fun
    | .ok _ => .done false
    | .error failure =>
      if failure.isNotFound then do
        Program.log (.indexNotFound name)
        create name properties
      else Program.failWith failure (.indexFailed .check name.text failure)

/-- Deletes an index. -/
def delete (name : Value) : Program Unit :=
  .ask (.deleteIndex name) fun
    | .ok _ => Program.log (.indexDeleted name)
    | .error failure => Program.failWith failure (.indexFailed .delete name.text failure)

/-- Deletes an index and ignores every failure that leaves the program running. -/
def flush (name : Value) : Program Unit :=
  .ask (.deleteIndex name) fun
    | .ok _ => .done ()
    | .error failure =>
      -- Not even a missing index is told apart from other failures.
      if failure.kind.isOrdinary then Program.log (.flushFailed name)
      else .fail (.raised failure)

end RecordSearch.Index
