import RecordSearch.Proofs.Value.Keyed
import RecordSearch.Proofs.Write.DocumentStore

namespace RecordSearch

/-!
# The report on failed items

The answer to a bulk request says by a flag whether operations failed, and has an item for each
operation: a mapping from actions to results. With the flag a batch ends with an error that keeps
the items of the failed operations. Without it the items are not looked at.

* `ItemReport`, `Reports`: items of results, and the answers that have them;
* `warnings`: the lines of a run that warn;
* `Program.IsPreparation`: a program that warns of nothing and sends no documents.

`batch_reports_failed_items` says which items the error keeps, and that all that is said of them
gives their number.
-/

variable {σ α β : Type}

/-! ### Items -/

/-- An item of an answer: each action that it tells of, with the fields of its result. -/
abbrev ItemReport := List (String × Document)

namespace ItemReport

/-- The item as it stands in the answer. -/
def toValue (item : ItemReport) : Value :=
  .mapping (item.map fun action => (action.1, .mapping action.2))

/-- An item failed if the result of one of its actions has an error. -/
def HasFailed (item : ItemReport) : Prop :=
  ∃ action ∈ item, "error" ∈ Document.keys action.2

instance (item : ItemReport) : Decidable item.HasFailed :=
  inferInstanceAs (Decidable (∃ action ∈ item, "error" ∈ Document.keys action.2))

end ItemReport

/-- The operations of a batch are said to have failed, or not. -/
def reportsErrors (response : Document) : Bool :=
  ((Document.get? response "errors").getD .null).isTruthy

/-- The items of an answer. One that has no place for items has none. -/
def Reports (response : Document) (items : List ItemReport) : Prop :=
  (Document.get? response "items" = none ∧ items = [])
    ∨ Document.get? response "items" = some (.list (items.map ItemReport.toValue))

/-- Results are read up to the first that has an error. -/
theorem anyNamesError_map_mapping (results : List Document) :
    anyNamesError (results.map .mapping)
      = .ok (decide (∃ fields ∈ results, "error" ∈ Document.keys fields)) := by
  induction results with
  | nil => rfl
  | cons fields results ih =>
    have hfirst : namesError (.mapping fields) = .ok (decide ("error" ∈ Document.keys fields)) := by
      rw [namesError, Except.ok.injEq, Bool.eq_iff_iff, decide_eq_true_iff]
      exact isSome_get?_iff
    rw [List.map_cons, anyNamesError, hfirst]
    by_cases herror : "error" ∈ Document.keys fields
    · simp only [herror, List.exists_mem_cons_iff, true_or, decide_true]
      rfl
    · simp only [herror, List.exists_mem_cons_iff, false_or, decide_false]
      exact ih

/-- An item is taken for failed if and only if it failed. -/
theorem itemFailed_toValue (item : ItemReport) :
    itemFailed item.toValue = .ok (decide item.HasFailed) := by
  have hiff : (∃ fields ∈ item.map Prod.snd, "error" ∈ Document.keys fields) ↔ item.HasFailed := by
    constructor
    · rintro ⟨fields, hmem, herror⟩
      obtain ⟨action, haction, rfl⟩ := List.mem_map.1 hmem
      exact ⟨action, haction, herror⟩
    · rintro ⟨action, haction, herror⟩
      exact ⟨action.2, List.mem_map_of_mem haction, herror⟩
  have hresults : (item.map fun action => (action.1, Value.mapping action.2)).map Prod.snd
      = (item.map Prod.snd).map .mapping := by
    rw [List.map_map, List.map_map]
    rfl
  rw [ItemReport.toValue, itemFailed, hresults, anyNamesError_map_mapping, decide_eq_decide.2 hiff]

/-- The items that are selected are those that failed, in their order. -/
theorem selectFailed_map_toValue (items : List ItemReport) :
    selectFailed (items.map ItemReport.toValue)
      = .ok ((items.filter fun item => item.HasFailed).map ItemReport.toValue) := by
  induction items with
  | nil => rfl
  | cons item items ih =>
    rw [List.map_cons, selectFailed, itemFailed_toValue, ih]
    by_cases hfailed : item.HasFailed
    · simp only [List.filter_cons, hfailed, decide_true, if_true]
      rfl
    · simp only [List.filter_cons, hfailed, decide_false, Bool.false_eq_true, if_false]
      rfl

/-- What counts as failed in an answer with errors are the items that failed. -/
theorem failedItems_of_reports {response : Document} {items : List ItemReport}
    (herrors : reportsErrors response = true) (hitems : Reports response items) :
    failedItems (.mapping response)
      = .ok (some ((items.filter fun item => item.HasFailed).map ItemReport.toValue)) := by
  have helements : ((Document.get? response "items").getD (.list [])).elements?
      = some (items.map ItemReport.toValue) := by
    -- A response without items reports on none.
    rcases hitems with ⟨hnone, rfl⟩ | hsome
    · rw [hnone]
      rfl
    · rw [hsome]
      rfl
  unfold reportsErrors at herrors
  rw [failedItems, Value.entries?_mapping]
  dsimp only
  rw [if_pos herrors, helements]
  dsimp only
  rw [selectFailed_map_toValue]
  rfl

/-! ### Warnings -/

/-- The line of an event that warns. -/
def Event.warning? : Event → Option LogEntry
  | .log entry => if entry.severity = .warning then some entry else none
  | _ => none

/-- The lines that warn, in their order. -/
def warnings (events : List Event) : List LogEntry := events.filterMap Event.warning?

namespace Program

/-- **A preparation**: whatever the answers are, no line of the program warns, and no documents
    are sent. -/
def IsPreparation : Program α → Prop
  | .done _ => True
  | .fail _ => True
  | .tell event next => event.warning? = none ∧ next.IsPreparation
  | .ask query next => (∀ lines, query ≠ .bulk lines) ∧ ∀ answer, (next answer).IsPreparation
  | .resolve _ _ next => ∀ answer, (next answer).IsPreparation

/-- A preparation may be continued by preparations. -/
theorem IsPreparation.bind {p : Program α} {f : α → Program β} (hp : p.IsPreparation)
    (hf : ∀ a, (f a).IsPreparation) : (p >>= f).IsPreparation := by
  induction p with
  | done a => exact hf a
  | fail e => trivial
  | tell event next ih =>
    obtain ⟨hevent, hnext⟩ := hp
    exact ⟨hevent, ih hnext⟩
  | ask query next ih =>
    obtain ⟨hquery, hnext⟩ := hp
    exact ⟨hquery, fun answer => ih answer (hnext answer)⟩
  | resolve type ids next ih => exact fun answer => ih answer (hp answer)

/-- A computation is a preparation. -/
theorem isPreparation_ofExcept (result : Except Error α) : (ofExcept result).IsPreparation := by
  cases result with
  | ok a => trivial
  | error e => trivial

/-- A failure is met in a preparation. -/
theorem isPreparation_failWith (failure : Failure) (error : String → Error) :
    (failWith failure error : Program α).IsPreparation := by
  obtain ⟨e, he⟩ := exists_failWith_eq (α := α) failure error
  rw [he]
  trivial

/-- No line of a preparation warns. -/
theorem IsPreparation.warnings_eq_nil {p : Program α} (hp : p.IsPreparation)
    (surroundings : Surroundings σ) (state : σ) :
    warnings (p.run surroundings state).events = [] := by
  induction p generalizing state with
  | done a => rfl
  | fail e => rfl
  | tell event next ih =>
    obtain ⟨hevent, hnext⟩ := hp
    exact (List.filterMap_cons_none hevent).trans (ih hnext state)
  | ask query next ih => exact ih _ (hp.2 _) _
  | resolve type ids next ih => exact ih _ (hp _) state

/-- No documents are sent in a preparation. -/
theorem IsPreparation.bulk_notMem {p : Program α} (hp : p.IsPreparation)
    {surroundings : Surroundings σ} {state : σ} {lines : List Value}
    {answer : Except Failure Value} : (.bulk lines, answer) ∉ p.exchanges surroundings state := by
  induction p generalizing state with
  | done a => exact List.not_mem_nil
  | fail e => exact List.not_mem_nil
  | tell event next ih => exact ih hp.2
  | ask query next ih =>
    intro hmem
    rcases List.mem_cons.1 hmem with heq | hmem
    · obtain ⟨hquery, -⟩ := Prod.mk.inj heq
      exact hp.1 lines hquery.symm
    · exact ih _ (hp.2 _) hmem
  | resolve type ids next ih => exact ih _ (hp _)

end Program

namespace Index

/-- Creating the index of a schema is a preparation. -/
theorem isPreparation_createFrom (schema : IndexSchema) : (createFrom schema).IsPreparation := by
  refine ⟨nofun, fun answer => ?_⟩
  cases answer with
  | ok v => exact ⟨rfl, trivial⟩
  | error failure =>
    dsimp only
    cases failure.isAlreadyExists with
    | error problem => trivial
    | ok there =>
      cases there with
      | true => exact ⟨rfl, trivial⟩
      | false => exact Program.isPreparation_failWith _ _

/-- Making sure of an index is a preparation. -/
theorem isPreparation_ensure (name properties : Value) :
    (ensure name properties).IsPreparation := by
  have hcreate : (create name properties).IsPreparation := by
    rcases create_eq name properties with ⟨schema, -, heq⟩ | ⟨error, heq⟩
    · rw [heq]
      exact isPreparation_createFrom schema
    · rw [heq]
      trivial
  refine ⟨nofun, fun answer => ?_⟩
  cases answer with
  | ok v => trivial
  | error failure =>
    dsimp only
    by_cases hmissing : failure.isNotFound = true
    · rw [if_pos hmissing]
      exact ⟨rfl, hcreate⟩
    · rw [if_neg hmissing]
      exact Program.isPreparation_failWith _ _

end Index

/-! ### Batches -/

/-- The operations of a batch are prepared and then sent; an empty batch is nothing. -/
theorem Write.program_eq (write : Write) :
    write.program = .done ()
      ∨ ∃ preparation : Program (List Operation), preparation.IsPreparation
        ∧ write.program = preparation >>= submit := by
  cases write with
  | update records =>
    cases records with
    | nil => exact .inl rfl
    | cons first rest =>
      refine .inr ⟨_, ?_, (bind_assoc _ (fun _ => Program.ofExcept _) submit).symm⟩
      exact (Index.isPreparation_ensure _ _).bind fun _ => Program.isPreparation_ofExcept _
  | delete records =>
    cases records with
    | nil => exact .inl rfl
    | cons first rest => exact .inr ⟨_, Program.isPreparation_ofExcept _, rfl⟩

/-- The run of a batch whose bulk request is answered: after its preparation, whose lines do not
    warn, the operations are sent, once, and the rest of the run is that. -/
theorem Write.exists_run_submit {write : Write} {surroundings : Surroundings σ} {state : σ}
    {before after : List Exchange} {lines : List Value} {answer : Except Failure Value}
    (h : write.program.exchanges surroundings state = before ++ (.bulk lines, answer) :: after) :
    (∀ again result, (.bulk again, result) ∉ before) ∧ after = []
      ∧ ∃ operations later,
        (surroundings.answer later (.bulk (bulkLines operations))).1 = answer
        ∧ (write.program.run surroundings state).outcome
          = ((submit operations).run surroundings later).outcome
        ∧ warnings (write.program.run surroundings state).events
          = warnings ((submit operations).run surroundings later).events := by
  rcases write.program_eq with hempty | ⟨preparation, hpreparation, hprogram⟩
  · rw [hempty] at h
    simp [Program.exchanges] at h
  · rw [hprogram, Program.exchanges_bind] at h
    rw [hprogram, Program.run_bind]
    have hquiet := hpreparation.warnings_eq_nil surroundings state
    rcases hrun : preparation.run surroundings state with ⟨outcome, events, later⟩
    rw [hrun] at h hquiet
    cases outcome with
    | error problem =>
      -- After an error in the preparation nothing is sent, but documents were.
      have hmem : (Query.bulk lines, answer) ∈ preparation.exchanges surroundings state := by
        rw [← List.append_nil (preparation.exchanges surroundings state), h]
        exact List.mem_append_right before List.mem_cons_self
      exact absurd hmem hpreparation.bulk_notMem
    | ok operations =>
      dsimp only at h hquiet ⊢
      rw [exchanges_submit] at h
      obtain ⟨rfl, heq, rfl⟩ := eq_of_append_singleton_eq h hpreparation.bulk_notMem
      refine ⟨fun _ _ => hpreparation.bulk_notMem, rfl, operations, later, ?_, rfl, ?_⟩
      · exact (Prod.mk.inj heq).2.symm
      · rw [warnings, List.filterMap_append]
        exact congrArg (· ++ _) hquiet

/-- Sending operations that are answered with a mapping: without failed items it ends well, and
    no line warns; else it ends with an error about these, and one line warns of them. -/
theorem run_submit_of_answer {surroundings : Surroundings σ} {operations : List Operation}
    {state : σ} {response : Document} {failed : Option (List Value)}
    (hanswer : (surroundings.answer state (.bulk (bulkLines operations))).1
      = .ok (.mapping response))
    (hfailed : failedItems (.mapping response) = .ok failed) :
    let ending := (submit operations).run surroundings state
    ending.outcome = failed.elim (.ok ()) (fun items => .error (.itemsFailed items))
      ∧ warnings ending.events
        = failed.elim [] fun items => [LogEntry.itemsFailed items.length] := by
  intro ending
  have hending : ending = (submit operations).run surroundings state := rfl
  rw [submit, Program.log, Program.tell_bind, Program.done_bind, Program.run, Program.run,
    hanswer] at hending
  dsimp only at hending
  rw [hfailed] at hending
  cases failed with
  | none =>
    rw [hending]
    exact ⟨rfl, rfl⟩
  | some items =>
    rw [hending]
    exact ⟨rfl, rfl⟩

/-- What is said of failed items. -/
def failedText (count : Nat) : String :=
  "Bulk request reported " ++ toString count ++ " failed items"

/-- **Failed items are reported exactly.** For every update or removal whose bulk request is
    answered with a mapping, that request is the only one. If the answer reports no errors, the
    call ends well and no line warns, whatever the items are. If it does, the call ends with the
    error that has no cause and keeps those items in which the result of some action has an error,
    in their order and no others; its message, and the one line that warns, say how many these
    are. -/
theorem batch_reports_failed_items (surroundings : Surroundings σ) (state : σ) (write : Write)
    (before after : List Exchange) (lines : List Value) (response : Document)
    (h : write.program.exchanges surroundings state
      = before ++ (.bulk lines, .ok (.mapping response)) :: after) :
    let ending := write.program.run surroundings state
    (∀ again answer, (.bulk again, answer) ∉ before ++ after)
      ∧ (reportsErrors response = false →
        ending.outcome = .ok () ∧ warnings ending.events = [])
      ∧ (reportsErrors response = true → ∀ items, Reports response items →
        let failed := items.filter fun item => item.HasFailed
        ∃ error line, ending.outcome = .error error
          ∧ (∃ reported, error = .itemsFailed reported)
          ∧ error.items = failed.map ItemReport.toValue
          ∧ (∀ v, v ∈ error.items ↔ ∃ item ∈ items, item.HasFailed ∧ item.toValue = v)
          ∧ error.cause? = none
          ∧ error.message = .ok (failedText failed.length)
          ∧ warnings ending.events = [line]
          ∧ line.text = failedText failed.length) := by
  obtain ⟨hbefore, rfl, operations, later, hanswer, houtcome, hwarnings⟩ :=
    Write.exists_run_submit h
  refine ⟨?_, ?_, ?_⟩
  · rw [List.append_nil]
    exact hbefore
  · intro herrors
    have hnone : failedItems (.mapping response) = .ok none :=
      (failedItems_eq_none_iff _).2 ⟨_, response, rfl, rfl, herrors⟩
    obtain ⟨hends, hquiet⟩ := run_submit_of_answer hanswer hnone
    exact ⟨houtcome.trans hends, hwarnings.trans hquiet⟩
  · intro herrors items hitems failed
    obtain ⟨hends, hwarned⟩ :=
      run_submit_of_answer hanswer (failedItems_of_reports herrors hitems)
    -- Both texts count the items that the error keeps.
    have hlength : (failed.map ItemReport.toValue).length = failed.length := List.length_map _
    refine ⟨.itemsFailed (failed.map ItemReport.toValue), .itemsFailed failed.length,
      houtcome.trans hends, ⟨_, rfl⟩, rfl, ?_, rfl, ?_, ?_, rfl⟩
    · intro v
      rw [Error.items, List.mem_map]
      simp only [failed, List.mem_filter, decide_eq_true_eq, and_assoc]
    · exact congrArg (fun count => Except.ok (failedText count)) hlength
    · rw [← hlength]
      exact hwarnings.trans hwarned

/-- A backend that has all indices and answers every bulk request alike. -/
def answering (response : Document) : Surroundings Unit where
  answer u query :=
    match query with
    | .bulk _ => (.ok (.mapping response), u)
    | _ => (.ok (.mapping []), u)
  resolve _ _ := .ok (.records [])

/-- The items of two notes, of which one was written and one was not. -/
def halfWritten : List ItemReport :=
  [[("update", [("status", .int 200)])],
    [("update", [("status", .int 400), ("error", .mapping [("type", .str "parsing")])])]]

/-- The answer to two notes of which one was written. -/
def halfAnswer : Document :=
  [("errors", .bool true), ("items", .list (halfWritten.map ItemReport.toValue))]

/-- Of two notes the one that was not written is reported. -/
theorem unwritten_note_reported :
    ∃ found lines,
      (Write.update [milkNote, ⟨note, .int 2, .mapping []⟩]).program.exchanges
          (answering halfAnswer) ()
        = [found] ++ (.bulk lines, .ok (.mapping halfAnswer)) :: []
      ∧ reportsErrors halfAnswer = true
      ∧ Reports halfAnswer halfWritten
      ∧ ∃ error, ((Write.update [milkNote, ⟨note, .int 2, .mapping []⟩]).program.run
            (answering halfAnswer) ()).outcome = .error error
          ∧ error.items = (halfWritten.drop 1).map ItemReport.toValue
          ∧ error.message = .ok "Bulk request reported 1 failed items" := by
  refine ⟨_, _, rfl, rfl, .inr rfl, ?_⟩
  obtain ⟨-, -, hreported⟩ :=
    batch_reports_failed_items (answering halfAnswer) ()
      (.update [milkNote, ⟨note, .int 2, .mapping []⟩]) [_] [] _ halfAnswer rfl
  obtain ⟨error, _, hends, -, hitems, -, -, hmessage, -⟩ := hreported rfl halfWritten (.inr rfl)
  exact ⟨error, hends, hitems, hmessage⟩

end RecordSearch
