import RecordSearch.Write.Writer
import RecordSearch.Proofs.Checked
import RecordSearch.Proofs.Exchanges
import RecordSearch.Proofs.Traversal

namespace RecordSearch

/-!
# The index of a batch

Before the documents of a batch are set, the index of its first record is made sure of: the
backend finds it, or it is created with the descriptors of the record type.

* `headerIndices`: the indices that the header lines of a bulk request name;
* `Ensured`: an index that is made sure of by some exchanges;
* `Index.EnsureTrace`: all that making sure of an index does.

`update_ensures_first_index` says which of the indices that a batch writes to are made sure of:
the one of the first record, and no other.
-/

variable {σ : Type}

/-! ### Header lines -/

/-- The index that a line names, if it is a header. -/
def headerIndex? : Value → Option String
  | .mapping [(_, .mapping fields)] =>
    match Document.get? fields "_index" with
    | some (.str name) => some name
    | _ => none
  | _ => none

/-- The indices that the header lines of a bulk request name. -/
def headerIndices (lines : List Value) : List String := lines.filterMap headerIndex?

/-- The header lines of operations name their indices, in order, and no other line does. -/
theorem headerIndices_bulkLines (operations : List Operation) :
    headerIndices (bulkLines operations) = operations.map Operation.index := by
  induction operations with
  | nil => rfl
  | cons operation operations ih =>
    have hfirst : headerIndices operation.lines = [operation.index] := by
      cases operation <;> rfl
    rw [bulkLines, List.flatMap_cons, headerIndices, List.filterMap_append, List.map_cons]
    exact congrArg₂ _ hfirst ih

/-- Each operation of a batch has the index of its record. -/
theorem indices_of_operationsOf {records : List Record} {operations : List Operation}
    (h : operationsOf Record.upsert records = .ok operations) :
    List.Forall₂ (fun record operation =>
      Checked.text record.type.index = .valid operation.index) records operations := by
  refine (forall₂_of_mapM_eq_ok h).imp fun record operation hoperation => ?_
  obtain ⟨id, -, hupsert⟩ := bind_eq_ok_iff.1 hoperation
  obtain ⟨_, document, hindex, -, rfl⟩ :=
    Checked.seq_eq_valid_iff.1 (Checked.toExcept_eq_ok_iff.1 hupsert)
  obtain ⟨index, htext, rfl⟩ := Checked.map_eq_valid_iff.1 hindex
  exact Checked.inside_eq_valid_iff.1 htext

/-! ### Making sure of an index -/

/-- The body that creates an index with descriptors; none without descriptors. -/
def creationBody (properties : Value) : Option Value :=
  match properties with
  | .mapping (first :: rest) =>
    some (.mapping [("mappings", .mapping [("properties", .mapping (first :: rest))])])
  | _ => none

/-- The index is there after an answer to its creation: it was created, or was there already. -/
def IsThere (answer : Except Failure Value) : Prop :=
  (∃ v, answer = .ok v) ∨ ∃ failure, answer = .error failure ∧ failure.isAlreadyExists = .ok true

/-- **Made sure of.** The backend found the index, or was asked to create it with the descriptors
    of the record type, so that it is there. -/
def Ensured (exchanges : List Exchange) (type : RecordType) (name : String) : Prop :=
  (∃ asked found, (.getIndex asked, .ok found) ∈ exchanges ∧ Checked.text asked = .valid name)
  ∨ ∃ answer, (.createIndex name (creationBody type.properties), answer) ∈ exchanges
    ∧ IsThere answer

/-- Text that is not empty is text. -/
theorem text_of_nonemptyText {v : Value} {s : String} (h : Checked.nonemptyText v = .valid s) :
    Checked.text v = .valid s := by
  unfold Checked.nonemptyText at h
  split at h
  · cases h
  · obtain ⟨t, ht, hs⟩ := Checked.andThen_eq_valid_iff.1 h
    rw [ht]
    split at hs
    · cases hs
    · exact hs

/-- The body of a schema whose descriptors pass the check. -/
theorem body?_of_optional_mapping {properties : Value} {checked : Option Document} (name : String)
    (h : Checked.optional Checked.mapping properties = .valid checked) :
    IndexSchema.body? ⟨name, checked⟩ = creationBody properties := by
  cases properties with
  | null =>
    cases h
    rfl
  | mapping entries =>
    cases h
    cases entries <;> rfl
  | _ => cases h

/-- A schema that passes its check has the name that is given, and the body of the
    descriptors. -/
theorem of_check_eq_valid {name properties : Value} {schema : IndexSchema}
    (h : IndexSchema.check (some name) (some properties) = .valid schema) :
    Checked.text name = .valid schema.name ∧ schema.body? = creationBody properties := by
  obtain ⟨_, checked, hnamed, hchecked, rfl⟩ := Checked.seq_eq_valid_iff.1 h
  obtain ⟨text, htext, rfl⟩ := Checked.map_eq_valid_iff.1 hnamed
  exact ⟨text_of_nonemptyText (Checked.inside_eq_valid_iff.1 htext),
    body?_of_optional_mapping text (Checked.inside_eq_valid_iff.1 hchecked)⟩

namespace Index

/-- Creating the index of a schema is one exchange. -/
theorem exchanges_createFrom (surroundings : Surroundings σ) (schema : IndexSchema) (state : σ) :
    (createFrom schema).exchanges surroundings state =
      [(.createIndex schema.name schema.body?,
        (surroundings.answer state (.createIndex schema.name schema.body?)).1)] := by
  rw [createFrom, Program.exchanges]
  cases (surroundings.answer state (.createIndex schema.name schema.body?)).1 with
  | ok v => rfl
  | error failure =>
    dsimp only
    cases failure.isAlreadyExists with
    | error problem => rfl
    | ok there =>
      cases there with
      | true => rfl
      | false => rw [Program.exchanges_failWith]

/-- If creating an index ends well, the index is there. -/
theorem isThere_of_run {surroundings : Surroundings σ} {schema : IndexSchema} {state : σ}
    {created : Bool} (h : ((createFrom schema).run surroundings state).outcome = .ok created) :
    IsThere (surroundings.answer state (.createIndex schema.name schema.body?)).1 := by
  rw [createFrom, Program.run] at h
  cases hanswer : (surroundings.answer state (.createIndex schema.name schema.body?)).1 with
  | ok v => exact .inl ⟨v, rfl⟩
  | error failure =>
    rw [hanswer] at h
    dsimp only at h
    -- A failed creation ends well only if the failure says that the index is there.
    refine .inr ⟨failure, rfl, ?_⟩
    cases hthere : failure.isAlreadyExists with
    | error problem =>
      rw [hthere] at h
      cases h
    | ok there =>
      cases there with
      | true => rfl
      | false =>
        rw [hthere] at h
        exact absurd h (Program.outcome_failWith_ne_ok _ _ _ _ _)

/-- Creating an index of a given name and descriptors: if the schema passes its check, that of
    the schema, else nothing but an error. -/
theorem create_eq (name properties : Value) :
    (∃ schema, IndexSchema.check (some name) (some properties) = .valid schema
      ∧ create name properties = createFrom schema)
    ∨ ∃ error, create name properties = .fail error := by
  rw [create]
  cases IndexSchema.check (some name) (some properties) with
  | valid schema => exact .inl ⟨schema, rfl, rfl⟩
  | invalid faults => exact .inr ⟨_, rfl⟩

/-- **What making sure of an index does.** The backend finds the index; or it does not, and the
    run ends with an error; or the index is created, and the run ends well only if it is there
    then. -/
inductive EnsureTrace (name properties : Value) (endsWell : Prop) : List Exchange → Prop where
  | found (v : Value) : EnsureTrace name properties endsWell [(.getIndex name, .ok v)]
  | refused (failure : Failure) (hfails : ¬ endsWell) :
      EnsureTrace name properties endsWell [(.getIndex name, .error failure)]
  | created (failure : Failure) {schema : IndexSchema} {answer : Except Failure Value}
      (hschema : IndexSchema.check (some name) (some properties) = .valid schema)
      (hthere : endsWell → IsThere answer) :
      EnsureTrace name properties endsWell
        [(.getIndex name, .error failure), (.createIndex schema.name schema.body?, answer)]

/-- Every run that makes sure of an index is of this kind. -/
theorem ensureTrace (surroundings : Surroundings σ) (name properties : Value) (state : σ) :
    EnsureTrace name properties
      (∃ created, ((ensure name properties).run surroundings state).outcome = .ok created)
      ((ensure name properties).exchanges surroundings state) := by
  rw [ensure, Program.run, Program.exchanges]
  cases (surroundings.answer state (.getIndex name)).1 with
  | ok v => exact .found v
  | error failure =>
    dsimp only
    by_cases hmissing : failure.isNotFound = true
    · rw [if_pos hmissing]
      -- A schema that is not valid is refused before anything is sent.
      rcases create_eq name properties with ⟨schema, hschema, hcreate⟩ | ⟨error, hcreate⟩
      · rw [hcreate, Program.log, Program.tell_bind, Program.done_bind, Program.run,
          Program.exchanges, exchanges_createFrom]
        refine .created failure hschema ?_
        rintro ⟨created, h⟩
        exact isThere_of_run h
      · rw [hcreate]
        refine .refused failure ?_
        rintro ⟨created, h⟩
        cases h
    · rw [if_neg hmissing, Program.exchanges_failWith]
      refine .refused failure ?_
      rintro ⟨created, h⟩
      exact Program.outcome_failWith_ne_ok _ _ _ _ _ h

/-- Making sure of an index asks for nothing else. -/
theorem EnsureTrace.of_mem {name properties : Value} {endsWell : Prop}
    {exchanges : List Exchange} (h : EnsureTrace name properties endsWell exchanges)
    {exchange : Exchange} (hmem : exchange ∈ exchanges) :
    exchange.1 = .getIndex name
      ∨ ∃ text body, exchange.1 = .createIndex text body ∧ Checked.text name = .valid text := by
  cases h with
  | found v =>
    rw [List.mem_singleton.1 hmem]
    exact .inl rfl
  | refused failure hfails =>
    rw [List.mem_singleton.1 hmem]
    exact .inl rfl
  | created failure hschema hthere =>
    rcases List.mem_cons.1 hmem with rfl | hmem
    · exact .inl rfl
    · rw [List.mem_singleton.1 hmem]
      exact .inr ⟨_, _, rfl, (of_check_eq_valid hschema).1⟩

/-- **Making sure of an index that ends well.** The index of a record type, if its name has a
    text, is found or created. -/
theorem EnsureTrace.ensured {type : RecordType} {endsWell : Prop} {exchanges : List Exchange}
    (h : EnsureTrace type.index type.properties endsWell exchanges) (hwell : endsWell)
    {name : String} (hname : Checked.text type.index = .valid name) :
    Ensured exchanges type name := by
  cases h with
  | found v => exact .inl ⟨type.index, v, List.mem_cons_self, hname⟩
  | refused failure hfails => exact absurd hwell hfails
  | created failure hschema hthere =>
    obtain ⟨htext, hbody⟩ := of_check_eq_valid hschema
    rw [hname, Checked.valid.injEq] at htext
    refine .inr ⟨_, ?_, hthere hwell⟩
    rw [← hbody, htext]
    exact List.mem_cons_of_mem _ List.mem_cons_self

/-- Only one index is made sure of. -/
theorem EnsureTrace.eq_of_ensured {index properties : Value} {endsWell : Prop}
    {exchanges : List Exchange} (h : EnsureTrace index properties endsWell exchanges)
    {name other : String} {type : RecordType} (hname : Checked.text index = .valid name)
    (hensured : Ensured exchanges type other) : other = name := by
  rcases hensured with ⟨asked, found, hmem, htext⟩ | ⟨answer, hmem, -⟩
  · rcases h.of_mem hmem with heq | ⟨_, _, heq, -⟩
    · cases heq
      exact Checked.valid.inj (htext.symm.trans hname)
    · cases heq
  · rcases h.of_mem hmem with heq | ⟨_, _, heq, hcreated⟩
    · cases heq
    · cases heq
      exact Checked.valid.inj (hcreated.symm.trans hname)

/-- Making sure of an index sends no documents. -/
theorem EnsureTrace.bulk_notMem {name properties : Value} {endsWell : Prop}
    {exchanges : List Exchange} (h : EnsureTrace name properties endsWell exchanges)
    {lines : List Value} {answer : Except Failure Value} : (.bulk lines, answer) ∉ exchanges := by
  intro hmem
  rcases h.of_mem hmem with heq | ⟨_, _, heq, -⟩
  · cases heq
  · cases heq

end Index

/-! ### Batches -/

/-- Sending operations is one exchange. -/
theorem exchanges_submit (surroundings : Surroundings σ) (operations : List Operation) (state : σ) :
    (submit operations).exchanges surroundings state = [(.bulk (bulkLines operations),
      (surroundings.answer state (.bulk (bulkLines operations))).1)] := by
  rw [submit, Program.log, Program.tell_bind, Program.done_bind, Program.exchanges,
    Program.exchanges]
  cases (surroundings.answer state (.bulk (bulkLines operations))).1 with
  | error failure =>
    dsimp only
    rw [Program.exchanges_failWith]
  | ok response =>
    dsimp only
    rw [Program.exchanges_bind, Program.exchanges_ofExcept]
    cases failedItems response with
    | error problem => rfl
    | ok failed => cases failed <;> rfl

/-- Where a member of a list comes last only, what comes before it is all else. -/
theorem eq_of_append_singleton_eq {α : Type} {as before after : List α} {a b : α}
    (h : as ++ [a] = before ++ b :: after) (hb : b ∉ as) : before = as ∧ b = a ∧ after = [] := by
  rcases List.append_eq_append_iff.1 h with ⟨between, rfl, heq⟩ | ⟨between, rfl, heq⟩
  · cases between with
    | nil =>
      obtain ⟨rfl, rfl⟩ := List.cons.inj heq
      exact ⟨List.append_nil as, rfl, rfl⟩
    | cons c between =>
      have hnil := (List.cons.inj heq).2
      simp at hnil
  · cases between with
    | nil =>
      obtain ⟨rfl, rfl⟩ := List.cons.inj heq
      exact ⟨(List.append_nil before).symm, rfl, rfl⟩
    | cons c between =>
      obtain ⟨rfl, -⟩ := List.cons.inj heq
      exact absurd (List.mem_append_right before List.mem_cons_self) hb

/-- When documents are sent, the index of the batch was made sure of, with all exchanges before,
    and the documents of all records are sent. -/
theorem exchanges_update {surroundings : Surroundings σ} {state : σ} {first : Record}
    {rest : List Record} {before after : List Exchange} {lines : List Value}
    {answer : Except Failure Value}
    (h : (update (first :: rest)).exchanges surroundings state
      = before ++ (.bulk lines, answer) :: after) :
    ∃ created operations,
      before = (Index.ensure first.type.index first.type.properties).exchanges surroundings state
      ∧ ((Index.ensure first.type.index first.type.properties).run surroundings state).outcome
        = .ok created
      ∧ operationsOf Record.upsert (first :: rest) = .ok operations
      ∧ lines = bulkLines operations := by
  have hmem : (Query.bulk lines, answer) ∈ (update (first :: rest)).exchanges surroundings state :=
    h ▸ List.mem_append_right before List.mem_cons_self
  have htrace := Index.ensureTrace surroundings first.type.index first.type.properties state
  rw [update, Program.exchanges_bind] at h hmem
  rcases hrun : (Index.ensure first.type.index first.type.properties).run surroundings state with
    ⟨outcome, events, later⟩
  rw [hrun] at h hmem
  -- Unless the index is made sure of and every record has an operation, nothing is sent.
  cases outcome with
  | error problem =>
    rw [List.append_nil] at hmem
    exact absurd hmem htrace.bulk_notMem
  | ok created =>
    dsimp only at h hmem
    cases hoperations : operationsOf Record.upsert (first :: rest) with
    | error problem =>
      rw [hoperations] at hmem
      change _ ∈ _ ++ [] at hmem
      rw [List.append_nil] at hmem
      exact absurd hmem htrace.bulk_notMem
    | ok operations =>
      rw [hoperations] at h
      change _ ++ (submit operations).exchanges surroundings later = _ at h
      rw [exchanges_submit] at h
      obtain ⟨hbefore, heq, -⟩ := eq_of_append_singleton_eq h htrace.bulk_notMem
      exact ⟨created, operations, hbefore, rfl, rfl, by cases heq; rfl⟩

/-- **The index of the first record is made sure of.** Whenever an update sends documents, each
    header line names the index of its record. The index of the first record was made sure of
    before, as that of its type, and no other index was. So if all records have one index, every
    index that is written to was made sure of. -/
theorem update_ensures_first_index (surroundings : Surroundings σ) (state : σ) (first : Record)
    (rest : List Record) (before after : List Exchange) (lines : List Value)
    (answer : Except Failure Value)
    (h : (update (first :: rest)).exchanges surroundings state
      = before ++ (.bulk lines, answer) :: after) :
    List.Forall₂ (fun record index => Checked.text record.type.index = .valid index)
        (first :: rest) (headerIndices lines)
      ∧ ∃ name, Checked.text first.type.index = .valid name
        ∧ Ensured before first.type name
        ∧ (∀ type other, Ensured before type other → other = name)
        ∧ ((∀ record ∈ rest, record.type.index = first.type.index) →
          ∀ index ∈ headerIndices lines, Ensured before first.type index) := by
  obtain ⟨created, operations, rfl, hrun, hoperations, rfl⟩ := exchanges_update h
  have hindices : List.Forall₂ (fun record index => Checked.text record.type.index = .valid index)
      (first :: rest) (headerIndices (bulkLines operations)) := by
    rw [headerIndices_bulkLines, List.forall₂_map_right_iff]
    exact indices_of_operationsOf hoperations
  obtain ⟨name, _, hname, -, -⟩ := List.forall₂_cons_left_iff.1 hindices
  have htrace := Index.ensureTrace surroundings first.type.index first.type.properties state
  have hensured := htrace.ensured ⟨created, hrun⟩ hname
  refine ⟨hindices, name, hname, hensured, fun type other => htrace.eq_of_ensured hname, ?_⟩
  intro hsame index hindex
  -- Every header belongs to some record, and all have the index of the first.
  obtain ⟨record, hrecord, htext⟩ := exists_of_mem_right hindices hindex
  have hfirst : record.type.index = first.type.index := by
    rcases List.mem_cons.1 hrecord with rfl | hrest
    · rfl
    · exact hsame record hrest
  rw [hfirst, hname, Checked.valid.injEq] at htext
  exact htext ▸ hensured

/-- Notes, with one field of text. -/
def note : RecordType :=
  ⟨"Note", .str "notes", .mapping [("body", .mapping [("type", .str "text")])], false⟩

/-- Letters, which have an index of their own. -/
def letter : RecordType := ⟨"Letter", .str "letters", .null, false⟩

/-- A backend without any index, which creates what is asked for. -/
def emptyBackend : Surroundings Unit where
  answer u query :=
    match query with
    | .getIndex _ => (.error ⟨.backend .notFound, [], []⟩, u)
    | _ => (.ok (.mapping []), u)
  resolve _ _ := .ok (.records [])

/-- The index of notes is made sure of before notes are sent. -/
theorem notes_ensured :
    ∃ found created lines answer,
      (update [⟨note, .int 1, .mapping []⟩, ⟨note, .int 2, .mapping []⟩]).exchanges emptyBackend ()
        = [found, created] ++ (.bulk lines, answer) :: []
      ∧ ∀ index ∈ headerIndices lines, Ensured [found, created] note index := by
  refine ⟨_, _, _, _, rfl, ?_⟩
  obtain ⟨-, name, -, -, -, hall⟩ :=
    update_ensures_first_index emptyBackend () ⟨note, .int 1, .mapping []⟩
      [⟨note, .int 2, .mapping []⟩] [_, _] [] _ _ rfl
  refine hall fun record hrecord => ?_
  rw [List.mem_singleton.1 hrecord]

/-- The index of a letter that comes after a note is not made sure of. -/
theorem letters_not_ensured :
    ∃ found created lines answer,
      (update [⟨note, .int 1, .mapping []⟩, ⟨letter, .int 2, .mapping []⟩]).exchanges emptyBackend
          () = [found, created] ++ (.bulk lines, answer) :: []
      ∧ "letters" ∈ headerIndices lines
      ∧ ∀ type, ¬ Ensured [found, created] type "letters" := by
  refine ⟨_, _, _, _, rfl, by decide, ?_⟩
  rintro type (⟨asked, found, hmem, -⟩ | ⟨answer, hmem, -⟩)
  · simp [emptyBackend] at hmem
  · simp at hmem

end RecordSearch
