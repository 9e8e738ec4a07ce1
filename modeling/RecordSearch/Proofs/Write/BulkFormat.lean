import RecordSearch.Proofs.Write.Rendering

namespace RecordSearch

/-!
# Reading the lines of a bulk request

A bulk request is a plain list of lines, in which the line after the header of an update is its
payload, whatever the document in it looks like. A reader that takes the lines one at a time finds
the operations again.

* `header?`, `payload?`: what a single line says;
* `Reader`, `Reader.take`: the state of a reader, and one line that it takes;
* `readBulk`: lines read to their end, with a function that acts on each operation;
* `readOperations`: the operations that are read.

`foldlM_take_bulkLines` says that a reader acts on the operations of a request, one after the other.
`bulkLines_uniquely_decodable` concludes that the format is uniquely decodable.
-/

variable {β : Type}

/-- The action and the address that a header gives: a line with a single key, under which are an
    id and an index. -/
def header? : Value → Option (String × Address)
  | .mapping [(action, .mapping fields)] =>
    match Document.get? fields "_id", Document.get? fields "_index" with
    | some (.str id), some (.str index) => some (action, ⟨index, id⟩)
    | _, _ => none
  | _ => none

/-- The document in a payload, which says that the document is created if it is not there. -/
def payload? : Value → Option Document
  | .mapping fields =>
    match Document.get? fields "doc", Document.get? fields "doc_as_upsert" with
    | some (.mapping document), some (.bool true) => some document
    | _, _ => none
  | _ => none

/-- A reader of lines: what came of the operations so far, and the address that a header has given,
    if its payload is still to come. -/
structure Reader (β : Type) where
  result : β
  pending : Option Address

/-- A reader takes a line. After the header of an update the line is its payload, else it is a
    header: that of an update, or that of a removal, which is all of its operation. -/
def Reader.take (act : β → Operation → β) (reader : Reader β) (line : Value) : Option (Reader β) :=
  match reader.pending with
  | some address =>
    match payload? line with
    | some document => some ⟨act reader.result (.upsert address.id address.index document), none⟩
    | none => none
  | none =>
    match header? line with
    | some (action, address) =>
      if action = "update" then some ⟨reader.result, some address⟩
      else if action = "delete" then
        some ⟨act reader.result (.remove address.id address.index), none⟩
      else none
    | none => none

/-- Reads lines to their end, where no payload may be missing. -/
def readBulk (act : β → Operation → β) (start : β) (lines : List Value) : Option β := do
  let reader ← lines.foldlM (Reader.take act) ⟨start, none⟩
  if reader.pending.isNone then some reader.result else none

/-- The header of an operation gives its action and its address. -/
@[simp] theorem header?_header (operation : Operation) :
    header? operation.header = some (operation.action, operation.address) := rfl

/-- The payload of an upsert holds its document, whatever keys that has. -/
@[simp] theorem payload?_payload (document : Document) :
    payload? (Operation.payload document) = some document := rfl

/-- A reader takes the lines of an operation and acts on that operation. -/
theorem foldlM_take_lines (act : β → Operation → β) (result : β) (operation : Operation) :
    operation.lines.foldlM (Reader.take act) ⟨result, none⟩
      = some ⟨act result operation, none⟩ := by
  cases operation with
  | upsert id index document =>
    -- The header leaves its address pending, and the payload completes the operation.
    have hheader : Reader.take act ⟨result, none⟩ (Operation.upsert id index document).header
        = some ⟨result, some ⟨index, id⟩⟩ := by
      rw [Reader.take, header?_header]
      exact if_pos rfl
    have hpayload : Reader.take act ⟨result, some ⟨index, id⟩⟩ (Operation.payload document)
        = some ⟨act result (.upsert id index document), none⟩ := by
      rw [Reader.take, payload?_payload]
    rw [Operation.lines, List.foldlM_cons, hheader, Option.bind_eq_bind, Option.bind_some,
      List.foldlM_cons, hpayload]
    rfl
  | remove id index =>
    have hheader : Reader.take act ⟨result, none⟩ (Operation.remove id index).header
        = some ⟨act result (.remove id index), none⟩ := by
      rw [Reader.take, header?_header]
      exact (if_neg (by decide : "delete" ≠ "update")).trans (if_pos rfl)
    rw [Operation.lines, List.foldlM_cons, hheader]
    rfl

/-- **A reader acts on the operations of a request**, one after the other, and is ready for what
    follows. -/
theorem foldlM_take_bulkLines (act : β → Operation → β) (result : β) (operations : List Operation) :
    (bulkLines operations).foldlM (Reader.take act) ⟨result, none⟩
      = some ⟨operations.foldl act result, none⟩ := by
  induction operations generalizing result with
  | nil => rfl
  | cons operation operations ih =>
    rw [bulkLines, List.flatMap_cons, List.foldlM_append, foldlM_take_lines, List.foldl_cons]
    exact ih (act result operation)

/-- What comes of the lines of a request is what comes of its operations. -/
theorem readBulk_eq_foldl (act : β → Operation → β) (start : β) (operations : List Operation) :
    readBulk act start (bulkLines operations) = some (operations.foldl act start) := by
  rw [readBulk, foldlM_take_bulkLines]
  rfl

/-- The operations that are read from lines, in their order. -/
def readOperations (lines : List Value) : Option (List Operation) :=
  readBulk (fun operations operation => operations ++ [operation]) [] lines

/-- From the lines of a request its operations are read. -/
theorem readOperations_bulkLines (operations : List Operation) :
    readOperations (bulkLines operations) = some operations := by
  rw [readOperations, readBulk_eq_foldl, List.foldl_append_eq_append, List.nil_append,
    ← List.flatMap_def, List.flatMap_singleton']

/-- Operations have two lines for each update and one for each removal. -/
theorem length_bulkLines (operations : List Operation) :
    (bulkLines operations).length =
      2 * operations.countP (fun operation => operation.action = "update")
        + operations.countP fun operation => operation.action = "delete" := by
  induction operations with
  | nil => rfl
  | cons operation operations ih =>
    rw [bulkLines] at ih ⊢
    cases operation <;>
      simp [Operation.lines, Operation.action, ih] <;> omega

/-- **The format is uniquely decodable.** The lines of any operations, whatever their ids, indices
    and documents are, are read to their end as these operations. So different operations have
    different lines. There are two lines for each update and one for each removal, and requests that
    are put together have the lines of both. -/
theorem bulkLines_uniquely_decodable :
    (∀ operations, readOperations (bulkLines operations) = some operations)
      ∧ Function.Injective bulkLines
      ∧ (∀ operations : List Operation, (bulkLines operations).length =
          2 * operations.countP (fun operation => operation.action = "update")
            + operations.countP fun operation => operation.action = "delete")
      ∧ ∀ first second, bulkLines (first ++ second) = bulkLines first ++ bulkLines second := by
  refine ⟨readOperations_bulkLines, fun first second heq => ?_, length_bulkLines, ?_⟩
  · have hread : some first = some second := by
      rw [← readOperations_bulkLines first, heq, readOperations_bulkLines]
    exact Option.some.inj hread
  · intro first second
    exact List.flatMap_append

/-- A document that looks like a removal is read as the payload that it is in. -/
example :
    readBulk (fun ids operation => ids ++ [(operation.action, operation.id)]) []
      (bulkLines [.upsert "1" "notes" [("delete", .mapping [("_id", .str "2")])],
        .remove "1" "notes"])
      = some [("update", "1"), ("delete", "1")] := by
  decide

end RecordSearch
