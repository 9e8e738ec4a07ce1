import RecordSearch.Index.Lifecycle
import RecordSearch.Write.Operation

namespace RecordSearch

/-!
# Writing records

A batch of records is written by one bulk request. Before documents are set the index of the
batch is created if it is not there. The operations that the backend reports as failed are
raised as one error; nothing is sent again.

* `update`: sets the documents of records;
* `delete`: removes the documents of records;
* `failedItems`: what a response reports as failed.
-/

/-! ### Responses -/

/-- Does a text hold the word? -/
def holdsWord (word : List Char) : List Char → Bool
  | [] => word.isEmpty
  | c :: cs => word.isPrefixOf (c :: cs) || holdsWord word cs

/-- Does the result of an operation name an error? A mapping does by a key, a list by a
    member, a text by a part. -/
def namesError (result : Value) : Except Error Bool :=
  match result with
  | .mapping _ | .brokenMapping _ => .ok (result.get? "error").isSome
  | .str s => .ok (holdsWord "error".toList s.toList)
  | .brokenStr codes =>
    .ok (holdsWord "error".toList (codes.map fun c => if c.isValidChar then Char.ofNat c else ' '))
  | .list items | .tuple items | .set items =>
    .ok (items.any fun v => v.sameKey (.str "error"))
  | _ => .error .wrongType

/-- Does one of the results name an error? Those after the first that does are not read. -/
def anyNamesError : List Value → Except Error Bool
  | [] => .ok false
  | result :: results => do
    if ← namesError result then return true else anyNamesError results

/-- Did the operation of a reported item fail? -/
def itemFailed (item : Value) : Except Error Bool :=
  match item with
  | .mapping results => anyNamesError (results.map Prod.snd)
  | .brokenMapping results => anyNamesError (results.map Prod.snd)
  | _ => .error .notAMapping

/-- The items that failed, in their order. -/
def selectFailed : List Value → Except Error (List Value)
  | [] => .ok []
  | item :: items => do
    let failed ← itemFailed item
    let rest ← selectFailed items
    return if failed then item :: rest else rest

/-- The failed items of a response, or nothing if the response reports no errors. -/
def failedItems (response : Value) : Except Error (Option (List Value)) :=
  match response.entries? with
  | some fields =>
    if ((fields.get? "errors").getD .null).isTruthy then
      match ((fields.get? "items").getD (.list [])).elements? with
      | some items => some <$> selectFailed items
      | none => .error .wrongType
    else .ok none
  | none => .error .notAMapping

/-! ### Batches -/

/-- The upsert that sets the document of a record with an id. -/
def Record.upsert (record : Record) (id : String) : Checked Operation :=
  (fun index document => .upsert id index document)
    <$> .inside (.field "index") (Checked.text record.type.index)
    <*> .inside (.field "document") (Checked.mapping record.document)

/-- The removal of the document of a record with an id. -/
def Record.removal (record : Record) (id : String) : Checked Operation :=
  .remove id <$> .inside (.field "index") (Checked.text record.type.index)

/-- Sends the operations of a batch. -/
def submit (operations : List Operation) : Program Unit := do
  Program.log (.submitting operations.length)
  .ask (.bulk (bulkLines operations)) fun
    | .error failure => Program.failWith failure (.bulkFailed failure)
    | .ok response => do
      match ← Program.ofExcept (failedItems response) with
      | none => return
      -- The other operations have taken effect, and none is sent again.
      | some failed =>
        Program.log (.itemsFailed failed.length)
        .fail (.itemsFailed failed)

/-- The operations of a batch; the first record that has none decides the error. -/
def operationsOf (operation : Record → (id : String) → Checked Operation)
    (records : List Record) : Except Error (List Operation) :=
  records.mapM fun record => do
    (operation record (← record.id.mapError .ofUnprintable)).toExcept

/-- Sets the documents of records, after making sure of the index of the first one. -/
def update (records : List Record) : Program Unit :=
  match records with
  | [] => .done ()
  | first :: _ => do
    -- Other indices of the batch are left to the backend.
    let _ ← Index.ensure first.type.index first.type.properties
    let operations ← Program.ofExcept (operationsOf Record.upsert records)
    submit operations

/-- Removes the documents of records. -/
def delete (records : List Record) : Program Unit :=
  match records with
  | [] => .done ()
  | _ :: _ => do
    let operations ← Program.ofExcept (operationsOf Record.removal records)
    submit operations

end RecordSearch
