import RecordSearch.Proofs.Checked
import RecordSearch.Proofs.Traversal
import RecordSearch.Write.Writer

namespace RecordSearch

/-!
# The lines of a record

A record is written by the lines of one operation, which name the address of its document. A record
without an address, or without a document where one is to be set, has no lines.

* `Address`, `Record.address?`: where the document of a record is;
* `Record.settingLines?`, `Record.removalLines?`: the lines that set or remove the document;
* `Renders`: which lines the operations of records have (`renders_upsert`, `renders_removal`).
-/

/-- Where a document is: in an index, under an id. -/
structure Address where
  index : String
  id : String
deriving DecidableEq, Repr

/-- The address of the document of a record: the index of its type, and the text of its identity. -/
def Record.address? (record : Record) : Option Address :=
  match Checked.text record.type.index, record.id with
  | .valid index, .ok id => some ⟨index, id⟩
  | _, _ => none

/-- A record with an identity and an index has these as its address. -/
theorem Record.address?_eq {record : Record} {index id : String}
    (hindex : record.type.index = .str index) (hid : record.id = .ok id) :
    record.address? = some ⟨index, id⟩ := by
  rw [address?, hindex, hid]
  rfl

/-- The fields of the document of a record. -/
def Record.fields? (record : Record) : Option Document :=
  match record.document with
  | .mapping fields => some fields
  | _ => none

/-- The line that names an address, and what is done to the document there. -/
def headerLine (action : String) (address : Address) : Value :=
  .mapping [(action, .mapping [("_id", .str address.id), ("_index", .str address.index)])]

/-- The lines that set the document of a record: a header, and the document, which is created if it
    is not there. -/
def Record.settingLines? (record : Record) : Option (List Value) :=
  match record.address?, record.fields? with
  | some address, some fields =>
    some [headerLine "update" address,
      .mapping [("doc", .mapping fields), ("doc_as_upsert", .bool true)]]
  | _, _ => none

/-- The line that removes the document of a record: a header alone. -/
def Record.removalLines? (record : Record) : Option (List Value) :=
  record.address?.map fun address => [headerLine "delete" address]

/-! ### Operations of records -/

/-- The address that an operation is about. -/
def Operation.address (operation : Operation) : Address := ⟨operation.index, operation.id⟩

/-- The operation of a record, for which the identity must have a text. -/
def operationOf (operation : Record → (id : String) → Checked Operation) (record : Record) :
    Except Error Operation := do
  (operation record (← record.id.mapError .ofUnprintable)).toExcept

/-- The operations of a batch are those of its records. -/
theorem operationsOf_eq (operation : Record → (id : String) → Checked Operation)
    (records : List Record) :
    operationsOf operation records = records.mapM (operationOf operation) := rfl

/-- A record has an upsert if it has an address and its document has fields. -/
theorem operationOf_upsert_eq_ok_iff {record : Record} {operation : Operation} :
    operationOf Record.upsert record = .ok operation ↔
      ∃ address fields, record.address? = some address ∧ record.fields? = some fields
        ∧ operation = .upsert address.id address.index fields := by
  unfold operationOf Record.upsert Record.address? Record.fields?
  cases hid : record.id with
  | error problem =>
    simp [Except.mapError, bind, Except.bind]
  | ok id =>
    cases hindex : Checked.text record.type.index with
    -- The document is checked even if the index has a fault.
    | invalid faults =>
      cases hdocument : Checked.mapping record.document <;>
        simp [Except.mapError, bind, Except.bind, Checked.inside]
    | valid index =>
      cases hdocument : record.document <;>
        simp [Except.mapError, bind, Except.bind, Checked.inside, Checked.mapping, Checked.fail,
          eq_comm]

/-- A record has a removal if it has an address. -/
theorem operationOf_removal_eq_ok_iff {record : Record} {operation : Operation} :
    operationOf Record.removal record = .ok operation ↔
      ∃ address, record.address? = some address ∧ operation = .remove address.id address.index := by
  unfold operationOf Record.removal Record.address?
  cases hid : record.id with
  | error problem =>
    simp [Except.mapError, bind, Except.bind]
  | ok id =>
    cases hindex : Checked.text record.type.index with
    | invalid faults => simp [Except.mapError, bind, Except.bind, Checked.inside]
    | valid index => simp [Except.mapError, bind, Except.bind, eq_comm]

/-- **The lines are those of the operation.** A record has lines if and only if it has an operation,
    and then they are the lines of that one. -/
def Renders (operation : Record → (id : String) → Checked Operation)
    (lines? : Record → Option (List Value)) : Prop :=
  ∀ record, lines? record = (operationOf operation record).toOption.map Operation.lines

/-- It is enough that the lines are those of the operation if there is one, and that there is one if
    there are lines. -/
theorem Renders.of_forall {operation : Record → (id : String) → Checked Operation}
    {lines? : Record → Option (List Value)}
    (hlines : ∀ record done, operationOf operation record = .ok done →
      lines? record = some done.lines)
    (hoperation : ∀ record lines, lines? record = some lines →
      ∃ done, operationOf operation record = .ok done) : Renders operation lines? := by
  intro record
  cases hdone : operationOf operation record with
  | ok done => exact hlines record done hdone
  | error problem =>
    cases hsome : lines? record with
    | none => rfl
    | some lines =>
      obtain ⟨done, hok⟩ := hoperation record lines hsome
      rw [hdone] at hok
      cases hok

/-- The lines that set documents are those of upserts. -/
theorem renders_upsert : Renders Record.upsert Record.settingLines? := by
  refine .of_forall (fun record done hdone => ?_) (fun record lines hlines => ?_)
  · obtain ⟨address, fields, haddress, hfields, rfl⟩ := operationOf_upsert_eq_ok_iff.1 hdone
    rw [Record.settingLines?, haddress, hfields]
    rfl
  · rw [Record.settingLines?] at hlines
    cases haddress : record.address? with
    | none =>
      rw [haddress] at hlines
      cases hlines
    | some address =>
      cases hfields : record.fields? with
      | none =>
        rw [haddress, hfields] at hlines
        cases hlines
      | some fields => exact ⟨_, operationOf_upsert_eq_ok_iff.2 ⟨_, _, haddress, hfields, rfl⟩⟩

/-- The lines that remove documents are those of removals. -/
theorem renders_removal : Renders Record.removal Record.removalLines? := by
  refine .of_forall (fun record done hdone => ?_) (fun record lines hlines => ?_)
  · obtain ⟨address, haddress, rfl⟩ := operationOf_removal_eq_ok_iff.1 hdone
    rw [Record.removalLines?, haddress]
    rfl
  · obtain ⟨address, haddress, -⟩ := Option.map_eq_some_iff.1 hlines
    exact ⟨_, operationOf_removal_eq_ok_iff.2 ⟨_, haddress, rfl⟩⟩

/-- The operations of a batch have the lines of its records, in their order. -/
theorem Renders.forall₂ {operation : Record → (id : String) → Checked Operation}
    {lines? : Record → Option (List Value)} (h : Renders operation lines?) {records : List Record}
    {operations : List Operation} (hoperations : operationsOf operation records = .ok operations) :
    List.Forall₂ (fun record lines => lines? record = some lines) records
      (operations.map Operation.lines) := by
  rw [operationsOf_eq] at hoperations
  rw [List.forall₂_map_right_iff]
  refine (forall₂_of_mapM_eq_ok hoperations).imp fun record one hone => ?_
  rw [h record, hone]
  rfl

/-- If a batch has no operations, some record in it has no lines. -/
theorem Renders.exists_eq_none {operation : Record → (id : String) → Checked Operation}
    {lines? : Record → Option (List Value)} (h : Renders operation lines?) {records : List Record}
    {problem : Error} (hproblem : operationsOf operation records = .error problem) :
    ∃ record ∈ records, lines? record = none := by
  rw [operationsOf_eq] at hproblem
  obtain ⟨record, hmem, hfails⟩ := exists_of_mapM_eq_error hproblem
  refine ⟨record, hmem, ?_⟩
  rw [h record, hfails]
  rfl

end RecordSearch
