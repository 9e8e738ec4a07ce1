import Mathlib.Data.List.Induction
import RecordSearch.Proofs.Write.Batch
import RecordSearch.Proofs.Write.BulkFormat

namespace RecordSearch

/-!
# Writes as changes of a document store

To a caller a backend is a store of documents at their addresses: an update merges the documents of
its records into the entries at their addresses, a removal takes those entries out. Between the two
are the lines of bulk requests, which the backend reads.

* `Store`, `Write.apply`: the store, and what a batch does to it;
* `DocumentBackend`: a backend that has the indices, and acts on the lines that it reads;
* `DocumentBackend.HasEffect`: a program ends well from any state, with an effect on the store;
* `DocumentBackend.hasEffect_program`, `runWrites`: the effect of one batch, and runs of batches.

`runWrites_refines_store` says that a run of batches does what the batches do to the store.
-/

variable {σ δ : Type}

/-! ### The store -/

/-- Documents at their addresses. -/
abbrev Store (δ : Type) := Address → Option δ

/-- What an operation does to the store. What it sets is merged with what was there. -/
def Operation.apply (merge : Option δ → Document → δ) (store : Store δ) : Operation → Store δ
  | .upsert id index document =>
    Function.update store ⟨index, id⟩ (some (merge (store ⟨index, id⟩) document))
  | .remove id index => Function.update store ⟨index, id⟩ none

/-- Merges the document of a record into the entry at its address. -/
def Record.setIn (merge : Option δ → Document → δ) (store : Store δ) (record : Record) : Store δ :=
  match record.address?, record.fields? with
  | some address, some fields =>
    Function.update store address (some (merge (store address) fields))
  | _, _ => store

/-- Takes out the entry at the address of a record. -/
def Record.removeFrom (store : Store δ) (record : Record) : Store δ :=
  match record.address? with
  | some address => Function.update store address none
  | none => store

/-- A batch that is written: records whose documents are set or removed. -/
inductive Write where
  | update (records : List Record)
  | delete (records : List Record)

namespace Write

/-- The records of a batch. -/
def records : Write → List Record
  | .update records | .delete records => records

/-- The program that writes a batch. -/
def program : Write → Program Unit
  | .update records => RecordSearch.update records
  | .delete records => RecordSearch.delete records

/-- What a batch does to the store, record by record. -/
def apply (merge : Option δ → Document → δ) (store : Store δ) : Write → Store δ
  | .update records => records.foldl (Record.setIn merge) store
  | .delete records => records.foldl Record.removeFrom store

end Write

/-- Records with another address leave an entry as it is. -/
theorem foldl_apply_of_ne {effect : Store δ → Record → Store δ} {address : Address}
    (heffect : ∀ store record, record.address? ≠ some address →
      effect store record address = store address)
    {records : List Record} (hne : ∀ record ∈ records, record.address? ≠ some address)
    (store : Store δ) : records.foldl effect store address = store address := by
  induction records generalizing store with
  | nil => rfl
  | cons record records ih =>
    rw [List.foldl_cons, ih fun other hmem => hne other (List.mem_cons_of_mem record hmem)]
    exact heffect store record (hne record List.mem_cons_self)

/-- A document is set at the address of its record only. -/
theorem Record.setIn_of_ne (merge : Option δ → Document → δ) {address : Address} (store : Store δ)
    (record : Record) (hne : record.address? ≠ some address) :
    record.setIn merge store address = store address := by
  rw [setIn]
  cases haddress : record.address? with
  | none => rfl
  | some other =>
    cases record.fields? with
    | none => rfl
    | some fields =>
      have hother : address ≠ other := fun heq => hne (heq ▸ haddress)
      exact Function.update_of_ne hother _ store

/-- A document is removed at the address of its record only. -/
theorem Record.removeFrom_of_ne {address : Address} (store : Store δ) (record : Record)
    (hne : record.address? ≠ some address) : record.removeFrom store address = store address := by
  rw [removeFrom]
  cases haddress : record.address? with
  | none => rfl
  | some other =>
    have hother : address ≠ other := fun heq => hne (heq ▸ haddress)
    exact Function.update_of_ne hother none store

/-- A batch leaves entries as they are at addresses that none of its records has. -/
theorem Write.apply_of_ne (merge : Option δ → Document → δ) {address : Address} {write : Write}
    (hne : ∀ record ∈ write.records, record.address? ≠ some address) (store : Store δ) :
    write.apply merge store address = store address := by
  cases write with
  | update records => exact foldl_apply_of_ne (Record.setIn_of_ne merge) hne store
  | delete records => exact foldl_apply_of_ne Record.removeFrom_of_ne hne store

/-- After a removal no record of it has an entry, also if the batch names a record twice. -/
theorem foldl_removeFrom_eq_none {record : Record} {address : Address}
    (haddress : record.address? = some address) {records : List Record} (hmem : record ∈ records)
    (store : Store δ) : records.foldl Record.removeFrom store address = none := by
  -- The last record decides, unless it is at another address.
  induction records using List.reverseRecOn with
  | nil => cases hmem
  | append_singleton records last ih =>
    rw [List.foldl_append, List.foldl_cons, List.foldl_nil]
    by_cases hlast : last.address? = some address
    · rw [Record.removeFrom, hlast]
      exact Function.update_self _ _ _
    · rw [Record.removeFrom_of_ne _ last hlast]
      refine ih ((List.mem_append.1 hmem).resolve_right fun hsingle => hlast ?_)
      rw [← List.mem_singleton.1 hsingle, haddress]

/-! ### Backends with documents -/

/-- **A backend with documents.** It finds the indices that it has, and executes the lines of a bulk
    request for these in their order, whenever they can be read to their end: what an update sets is
    merged with the entry that was there, and a removal takes the entry out. It reports no errors
    then. -/
structure DocumentBackend (σ δ : Type) (merge : Option δ → Document → δ) extends
    Surroundings σ where
  /-- The documents in a state. -/
  stored : σ → Store δ
  /-- The backend has an index of this name. -/
  has : String → Prop
  /-- An index that there is is found, which changes no document. -/
  finds : ∀ state name, has name →
    (∃ v, (answer state (.getIndex (.str name))).1 = .ok v)
      ∧ stored (answer state (.getIndex (.str name))).2 = stored state
  /-- Lines for indices that there are take effect in their order. -/
  executes : ∀ state lines store, (∀ name ∈ headerIndices lines, has name) →
    readBulk (Operation.apply merge) (stored state) lines = some store →
    Accepted (answer state (.bulk lines)).1 ∧ stored (answer state (.bulk lines)).2 = store

/-- The record has the text of an identity, and its index is one of those that there are. -/
def Record.IsAddressed (has : String → Prop) (record : Record) : Prop :=
  ∃ index id, record.type.index = .str index ∧ record.id = .ok id ∧ has index

/-- All records of the batch can be written: they have addresses in indices that there are, and
    documents where these are to be set. -/
def Write.IsValid (has : String → Prop) : Write → Prop
  | .update records =>
    ∀ record ∈ records, record.IsAddressed has ∧ ∃ fields, record.fields? = some fields
  | .delete records => ∀ record ∈ records, record.IsAddressed has

/-- Writes batches one after the other; each starts from the state that the last one left. -/
def runWrites (surroundings : Surroundings σ) : List Write → σ → List (Except Error Unit) × σ
  | [], state => ([], state)
  | write :: writes, state =>
    let ending := write.program.run surroundings state
    let rest := runWrites surroundings writes ending.state
    (ending.outcome :: rest.1, rest.2)

namespace DocumentBackend

variable {α β : Type} {merge : Option δ → Document → δ} {backend : DocumentBackend σ δ merge}

/-- From every state the program ends well, and has the effect on the store. -/
def HasEffect (backend : DocumentBackend σ δ merge) (p : Program α) (effect : Store δ → Store δ) :
    Prop :=
  ∀ state, (∃ a, (p.run backend.toSurroundings state).outcome = .ok a)
    ∧ backend.stored (p.run backend.toSurroundings state).state = effect (backend.stored state)

/-- A result is had without an effect. -/
theorem hasEffect_done (a : α) : backend.HasEffect (.done a) id := fun _ => ⟨⟨a, rfl⟩, rfl⟩

/-- The effects of programs that follow each other do so too. -/
theorem HasEffect.bind {p : Program α} {f : α → Program β} {first second : Store δ → Store δ}
    (hp : backend.HasEffect p first) (hf : ∀ a, backend.HasEffect (f a) second) :
    backend.HasEffect (p >>= f) (second ∘ first) := by
  intro state
  obtain ⟨⟨a, houtcome⟩, hstored⟩ := hp state
  rw [Program.run_bind]
  rcases hrun : p.run backend.toSurroundings state with ⟨outcome, events, later⟩
  rw [hrun] at houtcome hstored
  cases houtcome
  obtain ⟨hends, hlater⟩ := hf a later
  exact ⟨hends, hlater.trans (congrArg second hstored)⟩

/-- To make sure of an index that there is has no effect. -/
theorem hasEffect_ensure {name : String} (hhas : backend.has name) (properties : Value) :
    backend.HasEffect (Index.ensure (.str name) properties) id := by
  intro state
  obtain ⟨⟨v, hanswer⟩, hstored⟩ := backend.finds state name hhas
  rw [Index.ensure, Program.run, hanswer]
  exact ⟨⟨false, rfl⟩, hstored⟩

/-- To send operations has the effects of all of them. -/
theorem hasEffect_submit {operations : List Operation}
    (hhas : ∀ operation ∈ operations, backend.has operation.index) :
    backend.HasEffect (submit operations) fun store =>
      operations.foldl (Operation.apply merge) store := by
  intro state
  have hindices : ∀ name ∈ headerIndices (bulkLines operations), backend.has name := by
    rw [headerIndices_bulkLines]
    exact List.forall_mem_map.2 hhas
  obtain ⟨⟨response, fields, hanswer, hfields, hnone⟩, hstored⟩ :=
    backend.executes state _ _ hindices
      (readBulk_eq_foldl (Operation.apply merge) (backend.stored state) operations)
  -- An accepted response reports no failed items, and the run ends there.
  have hfailed : failedItems response = .ok none :=
    (failedItems_eq_none_iff _).2 ⟨response, fields, rfl, hfields, hnone⟩
  rw [submit, Program.log, Program.tell_bind, Program.done_bind, Program.run, Program.run, hanswer]
  dsimp only
  rw [hfailed]
  exact ⟨⟨(), rfl⟩, hstored⟩

/-- To send the operations of records has the effects of the records, if those of their operations
    are the same. -/
theorem hasEffect_records {operation : Record → (id : String) → Checked Operation}
    {effect : Store δ → Record → Store δ} {records : List Record}
    (h : ∀ record ∈ records, ∃ sent, operationOf operation record = .ok sent
      ∧ backend.has sent.index ∧ ∀ store, effect store record = sent.apply merge store) :
    backend.HasEffect (Program.ofExcept (operationsOf operation records) >>= submit) fun store =>
      records.foldl effect store := by
  rw [operationsOf_eq]
  cases hoperations : records.mapM (operationOf operation) with
  | error problem =>
    obtain ⟨record, hmem, hfails⟩ := exists_of_mapM_eq_error hoperations
    obtain ⟨sent, hsent, -⟩ := h record hmem
    rw [hfails] at hsent
    cases hsent
  | ok operations =>
    -- The operations inherit what is known of their records.
    have hsame : List.Forall₂ (fun record sent => backend.has sent.index
        ∧ ∀ store, effect store record = sent.apply merge store) records operations := by
      refine ((List.forall₂_and_left _ _).2 ⟨h, forall₂_of_mapM_eq_ok hoperations⟩).imp ?_
      rintro record sent ⟨⟨other, hother, hholds⟩, hsent⟩
      rw [hsent] at hother
      cases hother
      exact hholds
    have hhas : ∀ sent ∈ operations, backend.has sent.index := by
      intro sent hmem
      obtain ⟨record, -, hindex, -⟩ := exists_of_mem_right hsame hmem
      exact hindex
    have heffect : (fun store => records.foldl effect store)
        = fun store => operations.foldl (Operation.apply merge) store := by
      funext store
      refine List.rel_foldl (P := Eq) ?_ rfl hsame
      rintro store _ rfl record sent ⟨-, heq⟩
      exact heq store
    rw [heffect]
    exact hasEffect_submit hhas

/-- **One batch.** To write a valid batch does to the store what the batch does. -/
theorem hasEffect_program {write : Write} (hvalid : write.IsValid backend.has) :
    backend.HasEffect write.program (write.apply merge ·) := by
  cases write with
  | update records =>
    cases records with
    | nil => exact hasEffect_done ()
    | cons first rest =>
      obtain ⟨⟨name, -, hindex, -, hhas⟩, -⟩ := hvalid first List.mem_cons_self
      rw [Write.program, update, hindex]
      -- Making sure of the index leaves all documents as they are.
      refine (hasEffect_ensure hhas _).bind fun _ => hasEffect_records fun record hmem => ?_
      obtain ⟨⟨index, id, hindex, hid, hhas⟩, fields, hfields⟩ := hvalid record hmem
      have haddress := Record.address?_eq hindex hid
      refine ⟨.upsert id index fields, ?_, hhas, fun store => ?_⟩
      · exact operationOf_upsert_eq_ok_iff.2 ⟨_, _, haddress, hfields, rfl⟩
      · rw [Record.setIn, haddress, hfields]
        rfl
  | delete records =>
    cases records with
    | nil => exact hasEffect_done ()
    | cons first rest =>
      refine hasEffect_records fun record hmem => ?_
      obtain ⟨index, id, hindex, hid, hhas⟩ := hvalid record hmem
      have haddress := Record.address?_eq hindex hid
      refine ⟨.remove id index, ?_, hhas, fun store => ?_⟩
      · exact operationOf_removal_eq_ok_iff.2 ⟨_, haddress, rfl⟩
      · rw [Record.removeFrom, haddress]
        rfl

end DocumentBackend

/-! ### Runs of batches -/

variable {merge : Option δ → Document → δ}

/-- A run of valid batches ends well, and does to the store what the batches do in their order. -/
theorem runWrites_eq_foldl (backend : DocumentBackend σ δ merge) {writes : List Write}
    (hvalid : ∀ write ∈ writes, write.IsValid backend.has) (state : σ) :
    (runWrites backend.toSurroundings writes state).1 = List.replicate writes.length (.ok ())
      ∧ backend.stored (runWrites backend.toSurroundings writes state).2
        = writes.foldl (Write.apply merge) (backend.stored state) := by
  induction writes generalizing state with
  | nil => exact ⟨rfl, rfl⟩
  | cons write writes ih =>
    obtain ⟨⟨result, houtcome⟩, hstored⟩ :=
      DocumentBackend.hasEffect_program (hvalid write List.mem_cons_self) state
    obtain ⟨houtcomes, hrest⟩ := ih (fun other hmem => hvalid other (List.mem_cons_of_mem _ hmem))
      (write.program.run backend.toSurroundings state).state
    exact ⟨congrArg₂ List.cons houtcome houtcomes,
      hrest.trans (congrArg (writes.foldl (Write.apply merge)) hstored)⟩

/-- A run of batches leaves entries as they are at addresses that no record of it has. -/
theorem foldl_write_of_ne {address : Address} {writes : List Write}
    (hne : ∀ write ∈ writes, ∀ record ∈ write.records, record.address? ≠ some address)
    (store : Store δ) : writes.foldl (Write.apply merge) store address = store address := by
  induction writes generalizing store with
  | nil => rfl
  | cons write writes ih =>
    rw [List.foldl_cons, ih fun other hmem => hne other (List.mem_cons_of_mem write hmem)]
    exact write.apply_of_ne merge (hne write List.mem_cons_self) store

/-- **Writes are changes of the store.** A run of valid batches, of any length and with any records,
    ends well each time. The documents that are stored after it are those that come of the batches,
    record by record, in their order. Entries at addresses that no record has are as before. If the
    run ends with a removal, no record of that has an entry. -/
theorem runWrites_refines_store (backend : DocumentBackend σ δ merge) (writes : List Write)
    (hvalid : ∀ write ∈ writes, write.IsValid backend.has) (state : σ) :
    (runWrites backend.toSurroundings writes state).1 = List.replicate writes.length (.ok ())
      ∧ backend.stored (runWrites backend.toSurroundings writes state).2
        = writes.foldl (Write.apply merge) (backend.stored state)
      ∧ (∀ address,
          (∀ write ∈ writes, ∀ record ∈ write.records, record.address? ≠ some address) →
          backend.stored (runWrites backend.toSurroundings writes state).2 address
            = backend.stored state address)
      ∧ ∀ before records, writes = before ++ [.delete records] →
          ∀ record ∈ records, ∃ address, record.address? = some address
            ∧ backend.stored (runWrites backend.toSurroundings writes state).2 address = none := by
  obtain ⟨houtcomes, hstored⟩ := runWrites_eq_foldl backend hvalid state
  refine ⟨houtcomes, hstored, fun address hne => ?_, ?_⟩
  · rw [hstored, foldl_write_of_ne hne]
  · rintro before records rfl record hmem
    obtain ⟨index, id, hindex, hid, -⟩ :=
      hvalid (.delete records) (List.mem_append_right before List.mem_cons_self) record hmem
    have haddress := Record.address?_eq hindex hid
    refine ⟨_, haddress, ?_⟩
    -- Nothing comes after the last write, which removes the record.
    rw [hstored, List.foldl_append]
    exact foldl_removeFrom_eq_none haddress hmem _

/-- Documents whose fields are set over those that are there. -/
def overlay (old : Option Document) (document : Document) : Document :=
  Document.update (old.getD []) document

/-- A backend with notes and letters, whose state are the documents themselves. -/
def drawer : DocumentBackend (Store Document) Document overlay where
  answer store query :=
    match query with
    | .bulk lines =>
      match readBulk (Operation.apply overlay) store lines with
      | some later => (.ok (.mapping [("errors", .bool false)]), later)
      | none => (.error ⟨.backend .request, [], []⟩, store)
    | .getIndex (.str name) =>
      if name = "notes" ∨ name = "letters" then (.ok (.mapping []), store)
      else (.error ⟨.backend .notFound, [], []⟩, store)
    | _ => (.error ⟨.backend .request, [], []⟩, store)
  resolve _ _ := .ok (.records [])
  stored := id
  has name := name = "notes" ∨ name = "letters"
  finds store name hhas := by
    dsimp only
    rw [if_pos hhas]
    exact ⟨⟨_, rfl⟩, rfl⟩
  executes store lines later _ hread := by
    rw [id_eq] at hread
    dsimp only
    rw [hread]
    exact ⟨⟨_, _, rfl, rfl, rfl⟩, rfl⟩

/-- A letter about tea. -/
def teaLetter : Record := ⟨letter, .str "a", .mapping [("body", .str "tea")]⟩

/-- A note is written twice in a batch, with a letter between, and is removed then. -/
def noteAndLetter : List Write :=
  [.update [milkNote, teaLetter, milkNote], .delete [milkNote]]

/-- The letter is there after the run, but the note is not. -/
theorem letter_stored :
    (∀ write ∈ noteAndLetter, write.IsValid drawer.has)
      ∧ (runWrites drawer.toSurroundings noteAndLetter fun _ => none).1 = [.ok (), .ok ()]
      ∧ drawer.stored (runWrites drawer.toSurroundings noteAndLetter fun _ => none).2
        ⟨"letters", "a"⟩ = some [("body", .str "tea")]
      ∧ drawer.stored (runWrites drawer.toSurroundings noteAndLetter fun _ => none).2
        ⟨"notes", "1"⟩ = none := by
  have hmilk : milkNote.IsAddressed drawer.has ∧ ∃ fields, milkNote.fields? = some fields :=
    ⟨⟨"notes", "1", rfl, rfl, .inl rfl⟩, _, rfl⟩
  have htea : teaLetter.IsAddressed drawer.has ∧ ∃ fields, teaLetter.fields? = some fields :=
    ⟨⟨"letters", "a", rfl, rfl, .inr rfl⟩, _, rfl⟩
  have hvalid : ∀ write ∈ noteAndLetter, write.IsValid drawer.has := by
    simp [noteAndLetter, Write.IsValid, hmilk, htea]
  obtain ⟨houtcomes, hstored, -, hremoved⟩ :=
    runWrites_refines_store drawer noteAndLetter hvalid fun _ => none
  obtain ⟨address, haddress, hnone⟩ :=
    hremoved [.update [milkNote, teaLetter, milkNote]] [milkNote] rfl milkNote List.mem_cons_self
  cases haddress
  refine ⟨hvalid, houtcomes, ?_, hnone⟩
  rw [hstored]
  rfl

end RecordSearch
