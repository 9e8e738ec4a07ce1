import RecordSearch.Search.Execution
import RecordSearch.Write.Writer
import RecordSearch.Proofs.Index.Ensuring
import RecordSearch.Proofs.Requests
import RecordSearch.Proofs.Search.Meaning

namespace RecordSearch

/-!
# Failed requests

Wherever a request to the backend fails, the failure becomes an error of the library that is made
of the request alone, and the operation ends there. There are two exceptions: an index that is
not found is created, and one that was there already when it was to be created counts as created.

* `Failure.IsReported`: a failure with all that the backend reports with it;
* `Translates`: the error that a failed request leads to, with `Error.Reports` what it says;
* `Query.Recovers`: the failures after which an operation goes on;
* `MeetsFailures`: what a program does at a request that fails;
* `RaisesFailures`: the same for requests that are not about finding or creating an index.

Each operation comes with a lemma that all its requests are of this kind. Only a deletion whose
failures are ignored is not (`Index.eachRequest_flush`).
-/

/-! ### Failures and their errors -/

/-- **A failure as the backend reports it**: of its own family, with a status, an error and further
    information, and with a text. -/
structure Failure.IsReported (failure : Failure) (reason : String) : Prop where
  backend : failure.isBackend = true
  args : ∃ status error info, failure.args = [status, error, info]
  text : failure.text = .ok reason

/-- The index that a request is about. -/
def Query.index? : Query → Option Value
  | .getIndex index => some index
  | .createIndex name _ => some (.str name)
  | .deleteIndex index => some index
  | .search params => some params.index
  | .bulk _ => none
  | .close => none

/-- **The error of a failed request.** -/
inductive Translates (failure : Failure) (reason : String) : Query → Error → Prop where
  | check (name : String) :
      Translates failure reason (.getIndex (.str name)) (.indexFailed .check name failure reason)
  | create (name : String) (body : Option Value) :
      Translates failure reason (.createIndex name body)
        (.indexFailed .create name failure reason)
  | delete (name : String) :
      Translates failure reason (.deleteIndex (.str name))
        (.indexFailed .delete name failure reason)
  | bulk (lines : List Value) : Translates failure reason (.bulk lines) (.bulkFailed failure reason)
  | search {params : SearchParams} {name : String} (hindex : params.index = .str name) :
      Translates failure reason (.search params) (.searchFailed name failure reason)

/-- **What the error of a failed request says.** It keeps the failure, reports on no single
    operation, and its message ends with the text of the failure. Unless many documents were to be
    written, the message names the index in quotes. -/
structure Error.Reports (error : Error) (query : Query) (failure : Failure) (reason : String) :
    Prop where
  cause : error.cause? = some failure
  items : error.items = []
  reason : ∃ start, error.message = .ok (start ++ reason)
  index : (∃ lines, query = .bulk lines)
    ∨ ∃ name start rest, query.index? = some (.str name)
      ∧ error.message = .ok (start ++ ("'" ++ name ++ "'") ++ rest)

/-- The message of an error about an index. -/
theorem message_indexFailed (action : IndexAction) (name : String) (failure : Failure)
    (reason : String) : (Error.indexFailed action name failure reason).message =
      .ok ("Failed to " ++ action.word ++ " index '" ++ name ++ "': " ++ reason) := rfl

/-- The message of an error about a search. -/
theorem message_searchFailed (name : String) (failure : Failure) (reason : String) :
    (Error.searchFailed name failure reason).message =
      .ok ("Search on index '" ++ name ++ "' failed: " ++ reason) := rfl

/-- The message of an error about documents that were to be written. -/
theorem message_bulkFailed (failure : Failure) (reason : String) :
    (Error.bulkFailed failure reason).message = .ok ("Bulk request failed: " ++ reason) := rfl

/-- An error about an index says what failed. -/
theorem reports_indexFailed {query : Query} {name : String}
    (hindex : query.index? = some (.str name)) (action : IndexAction) (failure : Failure)
    (reason : String) :
    (Error.indexFailed action name failure reason).Reports query failure reason where
  cause := rfl
  items := rfl
  reason := ⟨_, message_indexFailed action name failure reason⟩
  index := by
    refine .inr ⟨name, "Failed to " ++ action.word ++ " index ", ": " ++ reason, hindex, ?_⟩
    -- The quotes are taken out of the texts beside the name.
    have hopen : " index '" = " index " ++ "'" := rfl
    have hclose : "': " = "'" ++ ": " := rfl
    rw [message_indexFailed, hopen, hclose]
    simp only [String.append_assoc, -String.reduceAppend]

/-- An error about a search says what failed. -/
theorem reports_searchFailed {params : SearchParams} {name : String}
    (hindex : params.index = .str name) (failure : Failure) (reason : String) :
    (Error.searchFailed name failure reason).Reports (.search params) failure reason where
  cause := rfl
  items := rfl
  reason := ⟨_, message_searchFailed name failure reason⟩
  index := by
    refine .inr ⟨name, "Search on index ", " failed: " ++ reason, congrArg some hindex, ?_⟩
    have hopen : "Search on index '" = "Search on index " ++ "'" := rfl
    have hclose : "' failed: " = "'" ++ " failed: " := rfl
    rw [message_searchFailed, hopen, hclose]
    simp only [String.append_assoc, -String.reduceAppend]

/-- The error of a failed request says what failed. -/
theorem Translates.reports {failure : Failure} {reason : String} {query : Query} {error : Error}
    (h : Translates failure reason query error) : error.Reports query failure reason := by
  cases h with
  | check name => exact reports_indexFailed rfl .check failure reason
  | create name body => exact reports_indexFailed rfl .create failure reason
  | delete name => exact reports_indexFailed rfl .delete failure reason
  | bulk lines => exact ⟨rfl, rfl, ⟨_, message_bulkFailed failure reason⟩, .inl ⟨lines, rfl⟩⟩
  | search hindex => exact reports_searchFailed hindex failure reason

namespace Failure.IsReported

variable {failure : Failure} {reason : String}

/-- A reported failure becomes an error with its text. -/
theorem failWith_eq (h : failure.IsReported reason) {α : Type} (error : String → Error) :
    (Program.failWith failure error : Program α) = .fail (error reason) := by
  rw [Program.failWith, if_pos h.backend, h.text]

/-- A reported failure tells whether an index was there already. -/
theorem exists_isAlreadyExists_eq (h : failure.IsReported reason) :
    ∃ there, failure.isAlreadyExists = .ok there := by
  obtain ⟨status, error, info, hargs⟩ := h.args
  unfold Failure.isAlreadyExists
  rw [hargs]
  split
  · exact ⟨_, rfl⟩
  · exact ⟨false, rfl⟩
  · -- There are three arguments, so that the second one is there.
    rename_i hnone
    exact (hnone status error [info] rfl).elim
  · exact ⟨false, rfl⟩

end Failure.IsReported

/-! ### Requests that fail -/

/-- The failures after which an operation goes on: an index was not found, or it was there already
    when it was to be created. -/
def Query.Recovers (query : Query) (failure : Failure) : Prop :=
  match query with
  | .getIndex _ => failure.isNotFound = true
  | .createIndex .. => failure.isAlreadyExists = .ok true
  | _ => False

section

variable {α β : Type}

/-- **What a program does at a request that fails.** If an index is not found, the next request
    creates it. If it was there already, the program goes on as the given one. Any other reported
    failure ends the program with the error of the request. -/
structure MeetsFailures (goesOn : Program α) (query : Query)
    (next : Except Failure Value → Program α) : Prop where
  missing : ∀ {index : Value} {failure : Failure}, query = .getIndex index →
    failure.isNotFound = true → ∃ line name body answered, index = .str name
      ∧ next (.error failure) = .tell (.log line) (.ask (.createIndex name body) answered)
  alreadyThere : ∀ {name : String} {body : Option Value} {failure : Failure},
    query = .createIndex name body → failure.isAlreadyExists = .ok true →
      ∃ line, next (.error failure) = .tell (.log line) goesOn
  raised : ∀ {failure : Failure} {reason : String}, failure.IsReported reason →
    ¬ query.Recovers failure →
      ∃ error, Translates failure reason query error ∧ next (.error failure) = .fail error

/-- **What a program does at a request that it cannot do without.** The request neither looks for
    an index nor creates one, and every reported failure ends the program with its error. -/
structure RaisesFailures (query : Query) (next : Except Failure Value → Program α) : Prop where
  notGet : ∀ index, query ≠ .getIndex index
  notCreate : ∀ name body, query ≠ .createIndex name body
  raised : ∀ {failure : Failure} {reason : String}, failure.IsReported reason →
    ∃ error, Translates failure reason query error ∧ next (.error failure) = .fail error

/-- A continuation changes nothing about the failures that are met before it. -/
theorem MeetsFailures.bind {goesOn : Program α} {query : Query}
    {next : Except Failure Value → Program α} (h : MeetsFailures goesOn query next)
    (f : α → Program β) : MeetsFailures (goesOn >>= f) query fun answer => next answer >>= f where
  missing hquery hmissing := by
    obtain ⟨line, name, body, answered, hname, hnext⟩ := h.missing hquery hmissing
    exact ⟨line, name, body, fun answer => answered answer >>= f, hname, by rw [hnext]; rfl⟩
  alreadyThere hquery hthere := by
    obtain ⟨line, hnext⟩ := h.alreadyThere hquery hthere
    exact ⟨line, by rw [hnext]; rfl⟩
  raised hreported hnot := by
    obtain ⟨error, herror, hnext⟩ := h.raised hreported hnot
    exact ⟨error, herror, by rw [hnext]; rfl⟩

/-- A continuation changes nothing about the failures that are raised before it. -/
theorem RaisesFailures.bind {query : Query} {next : Except Failure Value → Program α}
    (h : RaisesFailures query next) (f : α → Program β) :
    RaisesFailures query fun answer => next answer >>= f where
  notGet := h.notGet
  notCreate := h.notCreate
  raised hreported := by
    obtain ⟨error, herror, hnext⟩ := h.raised hreported
    exact ⟨error, herror, by rw [hnext]; rfl⟩

/-- A program that raises every failure has nothing to recover from, so that it does not matter
    how it would go on. -/
theorem RaisesFailures.meets {query : Query} {next : Except Failure Value → Program α}
    (h : RaisesFailures query next) (goesOn : Program α) : MeetsFailures goesOn query next where
  missing hquery := absurd hquery (h.notGet _)
  alreadyThere hquery := absurd hquery (h.notCreate _ _)
  raised hreported _ := h.raised hreported

end

/-! ### Operations on indices -/

namespace Index

/-- Creating an index of a schema meets failures. If the index was there already, this request did
    not create it. -/
theorem meetsFailures_createFrom (schema : IndexSchema) :
    (createFrom schema).EachRequest (MeetsFailures (.done false)) := by
  rw [createFrom, Program.EachRequest]
  constructor
  · constructor
    · intro index failure hquery
      cases hquery
    · intro name body failure hquery hthere
      exact ⟨_, by dsimp only; rw [hthere]; rfl⟩
    · intro failure reason hreported hnot
      refine ⟨_, .create schema.name schema.body?, ?_⟩
      obtain ⟨there, hthere⟩ := hreported.exists_isAlreadyExists_eq
      cases there with
      | true => exact absurd hthere hnot
      | false =>
        dsimp only
        rw [hthere]
        exact hreported.failWith_eq _
  · intro answer
    cases answer with
    | ok v => trivial
    | error failure =>
      dsimp only
      -- Nothing is asked after a failure, whether or not the index was there already.
      cases failure.isAlreadyExists with
      | error problem => trivial
      | ok there =>
        cases there with
        | true => trivial
        | false => exact Program.eachRequest_failWith _ _

/-- An index with a name, and a schema or none, is created from the schema that these make. -/
theorem exists_create_eq {name : String} {properties : Value} (hname : name ≠ "")
    (hschema : IsSchema properties) :
    ∃ schema, create (.str name) properties = createFrom schema ∧ schema.name = name := by
  obtain ⟨schema, hcheck, hschemaName, -⟩ := exists_check_eq_valid hname hschema
  refine ⟨schema, ?_, hschemaName⟩
  rw [create, hcheck]
  rfl

/-- Creating an index with a name meets failures. -/
theorem meetsFailures_create {name : String} {properties : Value} (hname : name ≠ "")
    (hschema : IsSchema properties) :
    (create (.str name) properties).EachRequest (MeetsFailures (.done false)) := by
  obtain ⟨schema, hcreate, -⟩ := exists_create_eq hname hschema
  rw [hcreate]
  exact meetsFailures_createFrom schema

/-- Making sure of an index with a name meets failures. If the index was there already when it was
    to be created, this request did not create it. -/
theorem meetsFailures_ensure {name : String} {properties : Value} (hname : name ≠ "")
    (hschema : IsSchema properties) :
    (ensure (.str name) properties).EachRequest (MeetsFailures (.done false)) := by
  -- The first request looks for the index. If that is missing, the requests of a creation follow.
  rw [ensure, Program.EachRequest]
  constructor
  · constructor
    · intro index failure hquery hmissing
      obtain ⟨schema, hcreate, rfl⟩ := exists_create_eq hname hschema
      cases hquery
      dsimp only
      rw [if_pos hmissing, hcreate]
      exact ⟨_, _, _, _, rfl, rfl⟩
    · intro other body failure hquery
      cases hquery
    · intro failure reason hreported hnot
      have hfound : ¬ failure.isNotFound = true := hnot
      refine ⟨_, .check name, ?_⟩
      dsimp only
      rw [if_neg hfound]
      exact hreported.failWith_eq _
  · intro answer
    cases answer with
    | ok v => trivial
    | error failure =>
      dsimp only
      by_cases hmissing : failure.isNotFound = true
      · rw [if_pos hmissing]
        exact meetsFailures_create hname hschema
      · rw [if_neg hmissing]
        exact Program.eachRequest_failWith _ _

/-- Deleting an index with a name raises failures. -/
theorem raisesFailures_delete (name : String) :
    (delete (.str name)).EachRequest RaisesFailures := by
  rw [delete, Program.EachRequest]
  constructor
  · constructor
    · intro index hquery
      cases hquery
    · intro other body hquery
      cases hquery
    · intro failure reason hreported
      exact ⟨_, .delete name, hreported.failWith_eq _⟩
  · intro answer
    cases answer with
    | ok v => trivial
    | error failure => exact Program.eachRequest_failWith _ _

/-- A deletion whose failures are ignored is one request, and ends well whenever the backend
    fails. -/
theorem eachRequest_flush (index : Value) :
    (flush index).EachRequest fun query next => query = .deleteIndex index
      ∧ ∀ failure, failure.isBackend = true →
        ∃ line, next (.error failure) = .tell (.log line) (.done ()) := by
  rw [flush, Program.EachRequest]
  constructor
  · refine ⟨rfl, fun failure hbackend => ?_⟩
    -- Whatever comes from the backend leaves the program running.
    have hordinary : failure.kind.isOrdinary = true := by
      rw [Failure.isBackend] at hbackend
      cases hkind : failure.kind with
      | backend kind => rfl
      | other name =>
        rw [hkind] at hbackend
        cases hbackend
    exact ⟨_, by dsimp only; rw [if_pos hordinary]; rfl⟩
  · intro answer
    cases answer with
    | ok v => trivial
    | error failure =>
      dsimp only
      by_cases hordinary : failure.kind.isOrdinary = true
      · rw [if_pos hordinary]
        trivial
      · rw [if_neg hordinary]
        trivial

end Index

/-! ### Writing and searching -/

/-- Sending operations raises failures. -/
theorem raisesFailures_submit (operations : List Operation) :
    (submit operations).EachRequest RaisesFailures := by
  rw [submit]
  constructor
  · constructor
    · intro index hquery
      cases hquery
    · intro name body hquery
      cases hquery
    · intro failure reason hreported
      exact ⟨_, .bulk _, hreported.failWith_eq _⟩
  · intro answer
    cases answer with
    | error failure => exact Program.eachRequest_failWith _ _
    | ok response =>
      -- Once the answer is there, nothing more is asked for.
      refine Program.eachRequest_ofExcept_bind fun failed _ => ?_
      cases failed with
      | none => trivial
      | some items => trivial

/-- The sending of a batch whose index was made sure of. -/
def sendUpserts (records : List Record) : Program Unit :=
  Program.ofExcept (operationsOf Record.upsert records) >>= submit

/-- An update meets failures. If the index was there already when it was to be created, the batch
    is sent all the same. -/
theorem meetsFailures_update {first : Record} {rest : List Record} {name : String}
    (hindex : first.type.index = .str name) (hname : name ≠ "")
    (hschema : IsSchema first.type.properties) :
    (update (first :: rest)).EachRequest (MeetsFailures (sendUpserts (first :: rest))) := by
  rw [update, hindex]
  refine Program.eachRequest_bind (Index.meetsFailures_ensure hname hschema) ?_ fun _ => ?_
  · exact fun _ _ h => h.bind fun _ => sendUpserts (first :: rest)
  · refine Program.eachRequest_ofExcept_bind fun operations _ => ?_
    exact (raisesFailures_submit operations).imp fun _ _ h => h.meets _

/-- A removal raises failures. -/
theorem raisesFailures_delete (records : List Record) :
    (delete records).EachRequest RaisesFailures := by
  cases records with
  | nil => trivial
  | cons first rest => exact Program.eachRequest_ofExcept_bind fun _ _ => raisesFailures_submit _

variable {request : SearchRequest} {name : String}

/-- Performing a search without callback raises failures, if the request runs against a named
    index. -/
theorem raisesFailures_performSearch (hcallback : request.callback = none)
    (hindex : request.indexName = .str name) (size offset : Value) :
    (performSearch request size offset).EachRequest RaisesFailures := by
  rw [performSearch, hcallback]
  refine Program.eachRequest_ofExcept_bind fun params hparams => ?_
  -- The name in the message is the one that the request asks for.
  have hname : params.index = .str name := (index_of_params hparams).trans hindex
  constructor
  · constructor
    · intro index hquery
      cases hquery
    · intro other body hquery
      cases hquery
    · intro failure reason hreported
      refine ⟨_, .search hname, ?_⟩
      dsimp only
      rw [hreported.failWith_eq, hname, Value.text_str]
  · intro answer
    cases answer with
    | error failure => exact Program.eachRequest_failWith _ _
    | ok response =>
      dsimp only
      rw [map_eq_pure_bind]
      exact Program.eachRequest_ofExcept_bind fun _ _ => trivial

/-- A search without callback raises failures. -/
theorem raisesFailures_search (hcallback : request.callback = none)
    (hindex : request.indexName = .str name) : (search request).EachRequest RaisesFailures :=
  raisesFailures_performSearch hcallback hindex _ _

/-- A page without callback raises failures. -/
theorem raisesFailures_paginate (hcallback : request.callback = none)
    (hindex : request.indexName = .str name) (perPage page : Value) :
    (paginate request perPage page).EachRequest RaisesFailures := by
  rw [paginate]
  cases Amount.ofValue? perPage with
  | none => trivial
  | some amount =>
    dsimp only
    by_cases hsmall : amount.isBelowOne = true
    · rw [if_pos hsmall]
      trivial
    · rw [if_neg hsmall, searchPage]
      refine Program.eachRequest_ofExcept_bind fun number _ => ?_
      refine Program.eachRequest_ofExcept_bind fun offset _ => ?_
      refine Program.eachRequest_bind (raisesFailures_performSearch hcallback hindex _ _)
        (fun _ _ h => h.bind _) fun reply => ?_
      -- The number of pages is computed without a request.
      cases reply with
      | results results =>
        dsimp only
        rw [map_eq_pure_bind]
        exact Program.eachRequest_ofExcept_bind fun _ _ => trivial
      | value v => trivial

end RecordSearch
