import RecordSearch.Session
import RecordSearch.Proofs.FailedRequests
import RecordSearch.Proofs.Search.Callback
import RecordSearch.Proofs.Search.StaleHits
import RecordSearch.Proofs.Write.Batch

namespace RecordSearch

/-!
# Failed steps of a session

In a session of any length, at any step but the closing of the connection, a failure that the
backend reports for a request is met in the way of that request alone: the operation recovers from
it, ignores it, or ends at once with the error of the request.

* `Session.after`, `Session.exchanges`: a session after some steps, and the exchanges of a step;
* `Step.callback?`, `Step.IsIndexed`: the callback of a step, and the steps whose indices have names
  and schemas;
* `Step.Meets`: what a step does after a request that failed.

`failures_are_translated` says that each step of a session is of this kind.
-/

/-! ### Steps in their session -/

namespace Session

/-- A session after steps. -/
def after (resolvers : List (String × ResolverScript)) : Session → List Step → Session
  | session, [] => session
  | session, step :: steps => after resolvers (session.step resolvers step).2 steps

/-- The exchanges of a step with the backend. -/
def exchanges (resolvers : List (String × ResolverScript)) (session : Session) (step : Step) :
    List Exchange :=
  (step.program session.last).exchanges (surroundings resolvers) session.script

/-- Further steps run in the session that the first ones have left. -/
theorem run_append (resolvers : List (String × ResolverScript)) (session : Session)
    (first second : List Step) :
    run resolvers session (first ++ second) =
      run resolvers session first ++ run resolvers (session.after resolvers first) second := by
  induction first generalizing session with
  | nil => rfl
  | cons step first ih => exact congrArg _ (ih (session.step resolvers step).2)

end Session

/-- The callback among what may be given as one. -/
def givenCallback : Option CallbackArgument → Option Callback
  | some (.callback callback) => some callback
  | _ => none

/-- The callback that a step gives with its request. -/
def Step.callback? : Step → Option Callback
  | .search fields | .paginate fields _ _ => givenCallback fields.callback
  | _ => none

/-- The name of an index: a text that is not empty. -/
def IsName (index : Value) : Prop := ∃ name, name ≠ "" ∧ index = .str name

/-- A record type whose index has a name, and which has a schema or none. -/
def RecordType.IsIndexed (type : RecordType) : Prop := IsName type.index ∧ IsSchema type.properties

/-- **The indices of a step have names and schemas**, as far as it gives any. -/
def Step.IsIndexed : Step → Prop
  | .update records | .delete records => ∀ record ∈ records, record.type.IsIndexed
  | .search fields | .paginate fields _ _ | .load fields _ =>
    ∀ type, fields.type = some (.type type) → type.IsIndexed
  | .flush type => type.IsIndexed
  | .createIndex args | .ensureIndex args =>
    (∀ name, args.head? = some name → IsName name) ∧ ∀ properties ∈ args.tail, IsSchema properties
  | .deleteIndex name => IsName name
  | .ids _ | .total _ | .close | .fails _ => True

/-- How a step goes on if its index was there already when it was to be created: an update sends
    its batch, and any other step did not create the index. -/
def Step.goesOn : Step → Program StepResult
  | .update records => do
    sendUpserts records
    return .nothing
  | _ => .done (.created false)

/-- **What a step does after a request that failed.** If an index is not found, it is created next.
    If it was there already when it was to be created, an update sends its batch and any other step
    ends with the result that it did not create it. A flush ends well. Otherwise nothing happens
    after the request: the step ends with the error of the request, which says what failed. -/
structure Step.Meets (step : Step) (query : Query) (failure : Failure) (reason : String)
    (after : List Exchange) (ending : Ending Script StepResult) : Prop where
  missing : ∀ index, query = .getIndex index → failure.isNotFound = true →
    ∃ name body answer later, index = .str name
      ∧ after = (.createIndex name body, answer) :: later
  alreadyThere : ∀ name body, query = .createIndex name body →
    failure.isAlreadyExists = .ok true → (∀ records, step ≠ .update records) →
      after = [] ∧ ending.outcome = .ok (.created false)
  sentAllTheSame : ∀ name body records, query = .createIndex name body →
    failure.isAlreadyExists = .ok true → step = .update records →
      ∃ sent, Sending Record.settingLines? records after sent
        ∧ ending.outcome = sent.map fun _ => .nothing
  ignored : ∀ type, step = .flush type → after = [] ∧ ending.outcome = .ok .nothing
  raised : (∀ type, step ≠ .flush type) → ¬ query.Recovers failure →
    after = [] ∧ (∃ before, ending.events = before ++ [.query query])
      ∧ ∃ error, ending.outcome = .error error ∧ Translates failure reason query error
        ∧ error.Reports query failure reason

/-! ### The requests of a step -/

/-- Only a record type passes the check of the record type. -/
theorem checkType_eq_valid_iff (given : Option TypeArgument) (type : RecordType) :
    SearchRequest.checkType given = .valid type ↔ given = some (.type type) := by
  match given with
  | none => simp [SearchRequest.checkType, Checked.fail]
  | some (.type other) => simp [SearchRequest.checkType]
  | some .other => simp [SearchRequest.checkType, Checked.fail]

/-- A request that passes its check has the record type and the callback that are given. -/
theorem parts_of_check {fields : RequestFields} {request : SearchRequest}
    (h : SearchRequest.check fields = .valid request) :
    fields.type = some (.type request.type)
      ∧ SearchRequest.checkCallback fields.callback = .valid request.callback := by
  obtain ⟨_, callback, hindexed, hcallback, rfl⟩ := Checked.seq_eq_valid_iff.1 h
  obtain ⟨_, index, hlimited, -, rfl⟩ := Checked.seq_eq_valid_iff.1 hindexed
  obtain ⟨_, limit, hordered, -, rfl⟩ := Checked.seq_eq_valid_iff.1 hlimited
  obtain ⟨_, orders, hfiltered, -, rfl⟩ := Checked.seq_eq_valid_iff.1 hordered
  obtain ⟨_, wheres, hqueried, -, rfl⟩ := Checked.seq_eq_valid_iff.1 hfiltered
  obtain ⟨_, query, htyped, -, rfl⟩ := Checked.seq_eq_valid_iff.1 hqueried
  obtain ⟨type, htype, rfl⟩ := Checked.map_eq_valid_iff.1 htyped
  rw [Checked.inside_eq_valid_iff] at htype hcallback
  exact ⟨(checkType_eq_valid_iff _ _).1 htype, hcallback⟩

/-- A request on a record type whose index has a name runs against a named index. -/
theorem exists_indexName_eq {request : SearchRequest} (h : IsName request.type.index) :
    ∃ name, request.indexName = .str name := by
  obtain ⟨own, -, hown⟩ := h
  rw [SearchRequest.indexName]
  cases request.index with
  | none => exact ⟨own, hown⟩
  | some index =>
    dsimp only
    by_cases hempty : index.isEmpty = true
    · rw [if_pos hempty]
      exact ⟨own, hown⟩
    · rw [if_neg hempty]
      exact ⟨index, rfl⟩

/-- The callback that passes its check is the one that is given. -/
theorem callback_of_checkCallback {given : Option CallbackArgument} {callback : Option Callback}
    (h : SearchRequest.checkCallback given = .valid callback) :
    givenCallback given = callback := by
  match given, h with
  | none, h => exact Checked.valid.inj h
  | some .none, h => exact Checked.valid.inj h
  | some (.callback own), h => exact Checked.valid.inj h
  | some .other, h => cases h

/-- A request that passes its check has the callback of the step that it belongs to. -/
theorem callback_of_check {fields : RequestFields} {request : SearchRequest}
    (h : SearchRequest.check fields = .valid request) :
    (Step.search fields).callback? = request.callback :=
  callback_of_checkCallback (parts_of_check h).2

/-- Results are taken from an argument without a request. -/
theorem eachRequest_results_bind {α : Type}
    {holds : Query → (Except Failure Value → Program α) → Prop} (last : SearchResults)
    (argument : ResultsArgument) {f : SearchResults → Program α}
    (hf : ∀ results, (f results).EachRequest holds) :
    (argument.results last >>= f).EachRequest holds := by
  cases argument with
  | fields given => exact Program.eachRequest_ofChecked_bind fun results _ => hf results
  | last => exact hf last
  | other => trivial

namespace Step

variable {step : Step}

/-- A program whose failures are all raised can stand for a part of any step. -/
theorem meetsFailures_of_raises {α : Type} {p : Program α} (hp : p.EachRequest RaisesFailures)
    (f : α → StepResult) (goesOn : Program StepResult) :
    (p >>= fun a => .done (f a)).EachRequest (MeetsFailures goesOn) :=
  Program.eachRequest_bind hp (fun _ _ h => (h.bind _).meets goesOn) fun _ => trivial

/-- An operation on an index meets failures if it does with each name and schema. -/
theorem meetsFailures_onIndex {operation : (name properties : Value) → Program Bool}
    (hoperation : ∀ name properties, name ≠ "" → IsSchema properties →
      (operation (.str name) properties).EachRequest (MeetsFailures (.done false)))
    {args : List Value} (hname : ∀ name, args.head? = some name → IsName name)
    (hschema : ∀ properties ∈ args.tail, IsSchema properties) :
    (onIndex operation args).EachRequest (MeetsFailures (.done (.created false))) := by
  have hcreated : ∀ {p : Program Bool}, p.EachRequest (MeetsFailures (.done false)) →
      (StepResult.created <$> p).EachRequest
        (MeetsFailures (.done (StepResult.created false))) := by
    intro p hp
    rw [map_eq_pure_bind]
    refine Program.eachRequest_bind hp (fun _ _ h => ?_) fun _ => trivial
    exact h.bind fun created => pure (StepResult.created created)
  -- With no arguments, or too many, there is no request at all.
  match args, hname, hschema with
  | [], _, _ => trivial
  | [_], hname, _ =>
    obtain ⟨name, hne, rfl⟩ := hname _ rfl
    exact hcreated (hoperation name .null hne (.inl rfl))
  | [_, properties], hname, hschema =>
    obtain ⟨name, hne, rfl⟩ := hname _ rfl
    exact hcreated (hoperation name properties hne (hschema properties List.mem_cons_self))
  | _ :: _ :: _ :: _, _, _ => trivial

/-- An operation on a request meets failures if it raises them for each request without callback
    that runs against a named index. -/
theorem meetsFailures_request {fields : RequestFields} {operation : SearchRequest → Program Reply}
    (hoperation : ∀ request name, request.callback = none → request.indexName = .str name →
      (operation request).EachRequest RaisesFailures)
    (hcallback : (Step.search fields).callback? = none) (hindexed : (Step.search fields).IsIndexed)
    {goesOn : Program StepResult} :
    (Program.ofChecked (SearchRequest.check fields) >>= fun request =>
      .reply <$> operation request).EachRequest (MeetsFailures goesOn) := by
  refine Program.eachRequest_ofChecked_bind fun request hrequest => ?_
  obtain ⟨name, hname⟩ := exists_indexName_eq (hindexed _ (parts_of_check hrequest).1).1
  have hnone : request.callback = none := callback_of_check hrequest ▸ hcallback
  rw [map_eq_pure_bind]
  exact meetsFailures_of_raises (hoperation request name hnone hname) _ _

/-- **The requests of a step** meet failures, if the step gives no callback and its indices have
    names and schemas. A flush ignores failures instead, and closing passes them on. -/
theorem meetsFailures_program (hclose : step ≠ .close) (hflush : ∀ type, step ≠ .flush type)
    (hcallback : step.callback? = none) (hindexed : step.IsIndexed) (last : SearchResults) :
    (step.program last).EachRequest (MeetsFailures step.goesOn) := by
  -- One case for each step: those with requests end by raising, but for the creation of an index.
  cases step with
  | update records =>
    cases records with
    | nil => trivial
    | cons first rest =>
      obtain ⟨⟨name, hname, hindex⟩, hschema⟩ := hindexed first List.mem_cons_self
      exact Program.eachRequest_bind (meetsFailures_update hindex hname hschema)
        (fun _ _ h => h.bind _) fun _ => trivial
  | delete records => exact meetsFailures_of_raises (raisesFailures_delete records) _ _
  | search fields =>
    exact meetsFailures_request (fun _ _ => raisesFailures_search) hcallback hindexed
  | paginate fields perPage page =>
    refine meetsFailures_request (fun request name hnone hname => ?_) hcallback hindexed
    exact raisesFailures_paginate hnone hname perPage page
  | load fields argument =>
    refine Program.eachRequest_ofChecked_bind fun request _ => ?_
    refine eachRequest_results_bind last argument fun results => ?_
    rw [map_eq_pure_bind]
    exact meetsFailures_of_raises (eachRequest_loadHits request results) _ _
  | ids argument =>
    refine eachRequest_results_bind last argument fun results => ?_
    rw [map_eq_pure_bind]
    exact Program.eachRequest_ofExcept_bind fun _ _ => trivial
  | total argument => exact eachRequest_results_bind last argument fun _ => trivial
  | flush type => exact absurd rfl (hflush type)
  | createIndex args =>
    exact meetsFailures_onIndex (fun _ _ => Index.meetsFailures_create) hindexed.1 hindexed.2
  | ensureIndex args =>
    exact meetsFailures_onIndex (fun _ _ => Index.meetsFailures_ensure) hindexed.1 hindexed.2
  | deleteIndex name =>
    obtain ⟨name, -, rfl⟩ := hindexed
    exact meetsFailures_of_raises (Index.raisesFailures_delete name) _ _
  | close => exact absurd rfl hclose
  | fails failure => trivial

/-- An operation on a request leaves all requests to the callback if it does for each request with
    that callback. -/
theorem leavesTo_request {fields : RequestFields} {operation : SearchRequest → Program Reply}
    {callback : Callback}
    (hoperation : ∀ request : SearchRequest, request.callback = some callback →
      LeavesTo callback (operation request))
    (hcallback : (Step.search fields).callback? = some callback) :
    LeavesTo callback (Program.ofChecked (SearchRequest.check fields) >>= fun request =>
      StepResult.reply <$> operation request) := by
  refine leavesTo_ofExcept_bind fun request hrequest => ?_
  rw [Checked.toExcept_eq_ok_iff] at hrequest
  have hsome : request.callback = some callback := callback_of_check hrequest ▸ hcallback
  exact leavesTo_map (hoperation request hsome) _

/-- A step with a callback leaves all requests to it. -/
theorem leavesTo_program {callback : Callback} (hcallback : step.callback? = some callback)
    (last : SearchResults) : LeavesTo callback (step.program last) := by
  cases step with
  | search fields => exact leavesTo_request (fun _ => leavesTo_search) hcallback
  | paginate fields perPage page =>
    exact leavesTo_request (fun _ hsome => leavesTo_paginate hsome perPage page) hcallback
  | _ => cases hcallback

/-! ### Runs of a step -/

/-- Sending a batch on behalf of a step is sending it. -/
theorem exists_sending_of_goesOn {records : List Record} {exchanges : List Exchange}
    {outcome : Except Error StepResult}
    (h : (goesOn (.update records)).HasTranscript exchanges outcome) :
    ∃ sent, Sending Record.settingLines? records exchanges sent
      ∧ outcome = sent.map fun _ => .nothing := by
  have hmap : goesOn (.update records) = (fun _ => StepResult.nothing) <$> sendUpserts records := by
    rw [map_eq_pure_bind]
    rfl
  rw [hmap] at h
  obtain ⟨sent, hsent, houtcome⟩ := Program.hasTranscript_map h
  exact ⟨sent, sending_of_hasTranscript renders_upsert hsent, houtcome⟩

/-- Any step but an update goes on as one that did not create the index. -/
theorem goesOn_eq (hupdate : ∀ records, step ≠ .update records) :
    step.goesOn = .done (.created false) := by
  cases step with
  | update records => exact absurd rfl (hupdate records)
  | _ => rfl

variable {last : SearchResults} {surroundings : Surroundings Script} {script : Script}
  {before after : List Exchange} {query : Query} {failure : Failure} {reason : String}

/-- A flush ends well after a request that failed. -/
theorem meets_flush {type : RecordType} (hreported : failure.IsReported reason)
    (hexchanges : ((Step.flush type).program last).exchanges surroundings script =
      before ++ (query, .error failure) :: after) :
    (Step.flush type).Meets query failure reason after
      (((Step.flush type).program last).run surroundings script) := by
  -- A flush sends one request, and a line is all that comes of a failure.
  have heach : ((Step.flush type).program last).EachRequest fun query next =>
      query = .deleteIndex type.index ∧ ∀ failure, failure.isBackend = true →
        ∃ line, next (.error failure) = .tell (.log line) (.done .nothing) := by
    refine Program.eachRequest_bind (Index.eachRequest_flush type.index) ?_ fun _ => trivial
    rintro query next ⟨hquery, hnext⟩
    refine ⟨hquery, fun failure hbackend => ?_⟩
    obtain ⟨line, hline⟩ := hnext failure hbackend
    exact ⟨line, by dsimp only; rw [hline]; rfl⟩
  obtain ⟨next, later, events, ⟨rfl, hnext⟩, rfl, hrun⟩ := heach.of_exchanges hexchanges
  obtain ⟨line, hline⟩ := hnext failure hreported.backend
  rw [hline] at hrun ⊢
  constructor
  · intro index hquery
    cases hquery
  · intro name body hquery
    cases hquery
  · intro name body records hquery
    cases hquery
  · intro _ _
    rw [hrun]
    exact ⟨rfl, rfl⟩
  · exact fun hflush => absurd rfl (hflush type)

/-- **After a request that failed**, any step without callback does what is said of it. -/
theorem meets_of_exchanges (hclose : step ≠ .close) (hcallback : step.callback? = none)
    (hindexed : step.IsIndexed) (hreported : failure.IsReported reason)
    (hexchanges : (step.program last).exchanges surroundings script =
      before ++ (query, .error failure) :: after) :
    step.Meets query failure reason after ((step.program last).run surroundings script) := by
  by_cases hflush : ∃ type, step = .flush type
  · obtain ⟨type, rfl⟩ := hflush
    exact meets_flush hreported hexchanges
  · rw [not_exists] at hflush
    have heach := meetsFailures_program hclose hflush hcallback hindexed last
    -- What the step does with the answer ends its run.
    obtain ⟨next, later, events, hmeets, rfl, hrun⟩ := heach.of_exchanges hexchanges
    constructor
    · intro index hquery hmissing
      obtain ⟨line, name, body, answered, hname, hnext⟩ := hmeets.missing hquery hmissing
      rw [hnext]
      exact ⟨name, body, _, _, hname, rfl⟩
    · intro name body hquery hthere hupdate
      obtain ⟨line, hnext⟩ := hmeets.alreadyThere hquery hthere
      rw [goesOn_eq hupdate] at hnext
      rw [hrun, hnext]
      exact ⟨rfl, rfl⟩
    · intro name body records hquery hthere hupdate
      obtain ⟨line, hnext⟩ := hmeets.alreadyThere hquery hthere
      rw [hupdate] at hnext
      rw [hrun, hnext]
      exact exists_sending_of_goesOn (Program.hasTranscript_run surroundings _ later)
    · exact fun type h => absurd h (hflush type)
    · intro _ hnot
      obtain ⟨error, htranslates, hnext⟩ := hmeets.raised hreported hnot
      rw [hrun, hnext]
      exact ⟨rfl, ⟨events, rfl⟩, error, rfl, htranslates, htranslates.reports⟩

end Step

/-- **Failures are translated everywhere.** Any step of a session but the closing of the
    connection, whose indices have names and schemas, runs in the session that the steps before it
    have left. If it gives a callback, all requests are made by that. Else a failure that the
    backend reports for any of its requests is met in the way of that request. -/
theorem failures_are_translated (resolvers : List (String × ResolverScript)) (session : Session)
    (earlier later : List Step) (step : Step) (hclose : step ≠ .close)
    (hindexed : step.IsIndexed) :
    let here := session.after resolvers earlier
    let ending := (here.step resolvers step).1
    session.run resolvers (earlier ++ step :: later) =
        session.run resolvers earlier
          ++ ending :: (here.step resolvers step).2.run resolvers later
      ∧ (∀ callback, step.callback? = some callback → here.exchanges resolvers step = []
          ∨ ∃ params, here.exchanges resolvers step =
            (callback .own params).exchanges (Session.surroundings resolvers) here.script)
      ∧ (step.callback? = none → ∀ before query failure reason after,
          here.exchanges resolvers step = before ++ (query, .error failure) :: after →
          failure.IsReported reason → step.Meets query failure reason after ending) := by
  intro here ending
  refine ⟨Session.run_append resolvers session earlier (step :: later), ?_, ?_⟩
  · intro callback hcallback
    exact Step.leavesTo_program hcallback here.last _ _ here.script
  · intro hcallback before query failure reason after hexchanges hreported
    exact Step.meets_of_exchanges hclose hcallback hindexed hreported hexchanges

/-- A backend does not know an index. -/
def unknownIndex : Failure :=
  .ofBackend .notFound (.int 404) (.str "index_not_found_exception") .null

/-- A backend refuses to create an index. -/
def refusedIndex : Failure :=
  .ofBackend .request (.int 400) (.str "mapper_parsing_exception") .null

/-- A session that begins with a backend of these failures. -/
def refusingSession : Session :=
  .start { Script.empty with
    getIndex := [.error unknownIndex]
    createIndex := [.error refusedIndex] }

/-- An update of a note asks for the index, which is not found, and for its creation, which is
    refused. -/
theorem note_refused :
    Step.update [milkNote] ≠ .close ∧ (Step.update [milkNote]).IsIndexed
      ∧ (Step.update [milkNote]).callback? = none
      ∧ ∃ reason, refusedIndex.IsReported reason
        ∧ ∃ found created,
          (refusingSession.after [] [.flush note]).exchanges [] (.update [milkNote]) =
            [found] ++ (created, .error refusedIndex) :: []
          ∧ (Step.update [milkNote]).Meets created refusedIndex reason []
            ((refusingSession.after [] [.flush note]).step [] (.update [milkNote])).1 := by
  have hclose : Step.update [milkNote] ≠ .close := fun h => nomatch h
  have hindexed : (Step.update [milkNote]).IsIndexed := by
    intro record hrecord
    rw [List.mem_singleton] at hrecord
    subst hrecord
    exact ⟨⟨"notes", by decide, rfl⟩, .inr ⟨_, rfl⟩⟩
  obtain ⟨-, -, hmeets⟩ :=
    failures_are_translated [] refusingSession [.flush note] [] (.update [milkNote]) hclose hindexed
  have hreported : refusedIndex.IsReported _ := ⟨rfl, ⟨_, _, _, rfl⟩, rfl⟩
  exact ⟨hclose, hindexed, rfl, _, hreported, _, _, rfl, hmeets rfl [_] _ _ _ _ rfl hreported⟩

end RecordSearch
