import RecordSearch.Proofs.Index.Ensuring
import RecordSearch.Proofs.Write.Rendering

namespace RecordSearch

/-!
# Batches are written whole or not at all

An update makes sure of the index of its first record and then sends the lines of all records in
one bulk request; a removal sends its lines without asking for any index. Nothing is sent if the
index is refused or if a single record has no lines.

* `Accepted`: the answer to a bulk request that reports no errors;
* `Sending`: what sending a batch does;
* `Updating`: what an update does.

`writes_all_or_nothing` says that every run of an update or a removal is of these kinds.
-/

variable {σ : Type}

/-! ### Sending the lines of a batch -/

/-- The backend took all operations of a bulk request: it answers without reporting errors. -/
def Accepted (answer : Except Failure Value) : Prop :=
  ∃ response fields, answer = .ok response ∧ response.entries? = some fields
    ∧ ((fields.get? "errors").getD .null).isTruthy = false

/-- Nothing counts as failed in a response if and only if that is a mapping which reports no
    errors. -/
theorem failedItems_eq_none_iff (response : Value) :
    failedItems response = .ok none ↔ Accepted (.ok response) := by
  unfold Accepted
  rw [failedItems]
  cases hentries : response.entries? with
  | none => simp [hentries]
  | some fields =>
    dsimp only
    cases herrors : ((fields.get? "errors").getD .null).isTruthy with
    | false => simp [hentries, herrors]
    | true =>
      rw [if_pos rfl]
      cases hitems : ((fields.get? "items").getD (.list [])).elements? with
      | none => simp [hentries, herrors]
      | some items =>
        cases hselected : selectFailed items <;>
          simp [hselected, hentries, herrors, Functor.map, Except.map]

/-- Sending operations is one bulk request, and ends well if and only if that is accepted. -/
theorem hasTranscript_submit {operations : List Operation} {exchanges : List Exchange}
    {outcome : Except Error Unit} (h : (submit operations).HasTranscript exchanges outcome) :
    ∃ answer, exchanges = [(.bulk (bulkLines operations), answer)]
      ∧ (outcome = .ok () ↔ Accepted answer) := by
  rw [submit] at h
  cases h with
  | tell hask =>
    cases hask with
    | ask answer hnext =>
      refine ⟨answer, ?_⟩
      cases answer with
      | error failure =>
        obtain ⟨rfl, error, rfl⟩ := Program.hasTranscript_failWith hnext
        exact ⟨rfl, by simp [Accepted]⟩
      | ok response =>
        dsimp only at hnext
        rw [← failedItems_eq_none_iff]
        -- A response that cannot be read ends the run as one that reports failed items does.
        cases hfailed : failedItems response with
        | error problem =>
          rw [hfailed] at hnext
          cases hnext
          exact ⟨rfl, by simp⟩
        | ok failed =>
          rw [hfailed] at hnext
          cases failed with
          | none =>
            cases hnext
            exact ⟨rfl, by simp⟩
          | some items =>
            cases hnext with
            | tell hfail =>
              cases hfail
              exact ⟨rfl, by simp⟩

/-- **What sending a batch does.** If a record has no lines, nothing is sent and the run ends with
    an error. Else there is one bulk request with the lines of all records, in their order, and the
    run ends well if that is accepted. -/
inductive Sending (lines? : Record → Option (List Value)) (records : List Record) :
    List Exchange → Except Error Unit → Prop where
  | unwritable {record : Record} (hmem : record ∈ records) (hnone : lines? record = none)
      (error : Error) : Sending lines? records [] (.error error)
  | sent {groups : List (List Value)}
      (hlines : List.Forall₂ (fun record lines => lines? record = some lines) records groups)
      (answer : Except Failure Value) {outcome : Except Error Unit}
      (hends : outcome = .ok () ↔ Accepted answer) :
      Sending lines? records [(.bulk groups.flatten, answer)] outcome

/-- Every transcript of sending the operations of a batch is of this kind. -/
theorem sending_of_hasTranscript {operation : Record → (id : String) → Checked Operation}
    {lines? : Record → Option (List Value)} (hrenders : Renders operation lines?)
    {records : List Record} {exchanges : List Exchange} {outcome : Except Error Unit}
    (h : (Program.ofExcept (operationsOf operation records) >>= submit).HasTranscript
      exchanges outcome) :
    Sending lines? records exchanges outcome := by
  rcases Program.hasTranscript_bind h with ⟨error, hfails, rfl⟩
    | ⟨operations, first, rest, hfirst, hrest, rfl⟩
  · obtain ⟨rfl, hproblem⟩ := Program.hasTranscript_ofExcept hfails
    obtain ⟨record, hmem, hnone⟩ := hrenders.exists_eq_none hproblem.symm
    exact .unwritable hmem hnone error
  · obtain ⟨rfl, hoperations⟩ := Program.hasTranscript_ofExcept hfirst
    obtain ⟨answer, rfl, hends⟩ := hasTranscript_submit hrest
    rw [List.nil_append, bulkLines, List.flatMap_def]
    exact .sent (hrenders.forall₂ hoperations.symm) answer hends

/-! ### Updates and removals -/

/-- **What an update does.** If making sure of the index fails, that is all. Else the batch is
    sent. -/
inductive Updating (name : String) (body : Option Value) (records : List Record) :
    List Exchange → Except Error Unit → Prop where
  | refused {exchanges : List Exchange} {error : Error}
      (hindex : Index.Ensuring name body exchanges (.error error)) :
      Updating name body records exchanges (.error error)
  | written {first rest : List Exchange} {created : Bool} {outcome : Except Error Unit}
      (hindex : Index.Ensuring name body first (.ok created))
      (hsending : Sending Record.settingLines? records rest outcome) :
      Updating name body records (first ++ rest) outcome

/-- Every transcript of an update is of this kind. -/
theorem updating_of_hasTranscript {first : Record} {rest : List Record} {name : String}
    (hindex : first.type.index = .str name) (hname : name ≠ "")
    (hschema : IsSchema first.type.properties) {exchanges : List Exchange}
    {outcome : Except Error Unit} (h : (update (first :: rest)).HasTranscript exchanges outcome) :
    Updating name (creationBody first.type.properties) (first :: rest) exchanges outcome := by
  rw [update, hindex] at h
  rcases Program.hasTranscript_bind h with ⟨error, hfails, rfl⟩
    | ⟨created, before, after, hbefore, hafter, rfl⟩
  · exact .refused (Index.ensuring_of_hasTranscript hname hschema hfails)
  · exact .written (Index.ensuring_of_hasTranscript hname hschema hbefore)
      (sending_of_hasTranscript renders_upsert hafter)

/-- Every transcript of a removal is that of sending the batch. -/
theorem sending_of_hasTranscript_delete {first : Record} {rest : List Record}
    {exchanges : List Exchange} {outcome : Except Error Unit}
    (h : (delete (first :: rest)).HasTranscript exchanges outcome) :
    Sending Record.removalLines? (first :: rest) exchanges outcome :=
  sending_of_hasTranscript renders_removal h

/-- **All or nothing.** Writing no records does nothing. An update of records, of which the first
    names an index and has a schema or none, asks for that index once, creates it only if it is not
    found, and sends the lines of all records in one bulk request only if that went well and each
    record has lines. A removal of records sends their lines in one bulk request, only if each
    record has some, and asks for no index. -/
theorem writes_all_or_nothing (surroundings : Surroundings σ) (state : σ) :
    (update []).run surroundings state = ⟨.ok (), [], state⟩
      ∧ (delete []).run surroundings state = ⟨.ok (), [], state⟩
      ∧ (∀ first rest name, first.type.index = .str name → name ≠ "" →
          IsSchema first.type.properties →
          Updating name (creationBody first.type.properties) (first :: rest)
            ((update (first :: rest)).exchanges surroundings state)
            ((update (first :: rest)).run surroundings state).outcome)
      ∧ ∀ first rest,
          Sending Record.removalLines? (first :: rest)
            ((delete (first :: rest)).exchanges surroundings state)
            ((delete (first :: rest)).run surroundings state).outcome := by
  refine ⟨rfl, rfl, ?_, ?_⟩
  · intro first rest name hindex hname hschema
    exact updating_of_hasTranscript hindex hname hschema
      (Program.hasTranscript_run surroundings _ state)
  · intro first rest
    exact sending_of_hasTranscript_delete (Program.hasTranscript_run surroundings _ state)

/-- A note about milk. -/
def milkNote : Record := ⟨note, .int 1, .mapping [("body", .str "milk")]⟩

/-- A note without a document. -/
def bareNote : Record := ⟨note, .str "b", .null⟩

/-- A note is written to an index that is created for it. With a second one that has no document,
    the index is created but nothing is written. -/
theorem notes_written :
    milkNote.type.index = .str "notes" ∧ "notes" ≠ "" ∧ IsSchema milkNote.type.properties
      ∧ (∃ found created sent,
        (update [milkNote]).exchanges emptyBackend () = [found, created, sent]
        ∧ Updating "notes" (creationBody note.properties) [milkNote] [found, created, sent]
          ((update [milkNote]).run emptyBackend ()).outcome)
      ∧ ∃ found created,
        (update [milkNote, bareNote]).exchanges emptyBackend () = [found, created]
        ∧ Updating "notes" (creationBody note.properties) [milkNote, bareNote] [found, created]
          ((update [milkNote, bareNote]).run emptyBackend ()).outcome := by
  have hschema : IsSchema milkNote.type.properties := .inr ⟨_, rfl⟩
  obtain ⟨-, -, hupdating, -⟩ := writes_all_or_nothing emptyBackend ()
  refine ⟨rfl, by decide, hschema, ⟨_, _, _, rfl, ?_⟩, _, _, rfl, ?_⟩
  · exact hupdating milkNote [] "notes" rfl (by decide) hschema
  · exact hupdating milkNote [bareNote] "notes" rfl (by decide) hschema

end RecordSearch
