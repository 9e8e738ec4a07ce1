import RecordSearch.Proofs.Independence
import RecordSearch.Proofs.Session.FailedSteps

namespace RecordSearch

/-!
# Steps that read and steps that write

A backend with written answers has them method by method, so that a search takes nothing from the
other methods. A step that reads makes no request but searches, and a step that writes makes all
other requests but no search, whatever answers it meets. Two such steps may change places.

* `Step.Reads`, `Step.Writes`: the steps that read, and those that write;
* `Program.Asks`: a program whose requests are all of one kind;
* `Ending.answer`: what is seen of a step: its result or error, and its events.

`independent_of_isSearch` is about two requests, and `swap_steps` about two steps. From these,
`reads_and_writes_swap` says that a session does not show the change anywhere else.
-/

variable {σ α β : Type}

/-! ### What steps do -/

/-- A step that searches and has no callback. -/
inductive Step.Reads : Step → Prop where
  | search {fields : RequestFields} (h : (Step.search fields).callback? = none) :
      Reads (.search fields)
  | paginate {fields : RequestFields} (h : (Step.search fields).callback? = none)
      (perPage page : Value) : Reads (.paginate fields perPage page)

/-- A step that writes records, or changes an index. -/
inductive Step.Writes : Step → Prop where
  | update (records : List Record) : Writes (.update records)
  | delete (records : List Record) : Writes (.delete records)
  | flush (type : RecordType) : Writes (.flush type)
  | createIndex (args : List Value) : Writes (.createIndex args)
  | ensureIndex (args : List Value) : Writes (.ensureIndex args)
  | deleteIndex (name : Value) : Writes (.deleteIndex name)

/-- What is seen of a run: the result or the error, and the events. -/
def Ending.answer (ending : Ending σ α) : Except Error α × List Event :=
  (ending.outcome, ending.events)

/-- Is the request a search? -/
def Query.isSearch : Query → Bool
  | .search _ => true
  | _ => false

/-- **Requests of one kind.** All requests that a program may make are searches, or none is. -/
def Program.Asks (searches : Bool) (p : Program α) : Prop :=
  p.EachRequest fun query _ => query.isSearch = searches

/-! ### Requests of the operations -/

section

variable {searches : Bool}

/-- A program that is continued makes the requests of both parts. -/
theorem asks_bind {p : Program β} {f : β → Program α} (hp : p.Asks searches)
    (hf : ∀ b, (f b).Asks searches) : (p >>= f).Asks searches :=
  Program.eachRequest_bind hp (fun _ _ h => h) hf

/-- To change the result changes no request. -/
theorem asks_map {p : Program β} (hp : p.Asks searches) (f : β → α) : (f <$> p).Asks searches := by
  rw [map_eq_pure_bind]
  exact asks_bind hp fun _ => trivial

/-- A computation makes no request of any kind. -/
theorem asks_ofExcept (result : Except Error α) : (Program.ofExcept result).Asks searches := by
  cases result with
  | ok a => trivial
  | error e => trivial

/-- To meet a failure makes no request of any kind. -/
theorem asks_failWith (failure : Failure) (error : String → Error) :
    (Program.failWith failure error : Program α).Asks searches :=
  Program.eachRequest_failWith failure error

end

namespace Index

/-- The creation of an index makes no search. -/
theorem asks_create (name properties : Value) : (create name properties).Asks false := by
  refine asks_bind (asks_ofExcept _) fun schema => ⟨rfl, fun answer => ?_⟩
  cases answer with
  | ok v => trivial
  | error failure =>
    dsimp only
    cases failure.isAlreadyExists with
    | error problem => trivial
    | ok there =>
      cases there with
      | true => trivial
      | false => exact asks_failWith _ _

/-- To make sure of an index makes no search. -/
theorem asks_ensure (name properties : Value) : (ensure name properties).Asks false := by
  refine ⟨rfl, fun answer => ?_⟩
  cases answer with
  | ok v => trivial
  | error failure =>
    dsimp only
    by_cases hmissing : failure.isNotFound = true
    · rw [if_pos hmissing]
      exact asks_create name properties
    · rw [if_neg hmissing]
      exact asks_failWith _ _

/-- The deletion of an index makes no search. -/
theorem asks_delete (name : Value) : (delete name).Asks false := by
  refine ⟨rfl, fun answer => ?_⟩
  cases answer with
  | ok v => trivial
  | error failure => exact asks_failWith _ _

/-- A flush makes no search. -/
theorem asks_flush (name : Value) : (flush name).Asks false :=
  (eachRequest_flush name).imp fun query _ h => by rw [h.1]; rfl

end Index

/-- Sending operations makes no search. -/
theorem asks_submit (operations : List Operation) : (submit operations).Asks false := by
  refine ⟨rfl, fun answer => ?_⟩
  cases answer with
  | error failure => exact asks_failWith _ _
  | ok response =>
    refine asks_bind (asks_ofExcept _) fun failed => ?_
    cases failed with
    | none => trivial
    | some items => trivial

/-- An update makes no search. -/
theorem asks_update (records : List Record) : (update records).Asks false := by
  cases records with
  | nil => trivial
  | cons first rest =>
    exact asks_bind (Index.asks_ensure _ _) fun _ => asks_bind (asks_ofExcept _) asks_submit

/-- A removal makes no search. -/
theorem asks_delete (records : List Record) : (delete records).Asks false := by
  cases records with
  | nil => trivial
  | cons first rest => exact asks_bind (asks_ofExcept _) asks_submit

section

variable {request : SearchRequest}

/-- Performing a search without callback makes no request but searches. -/
theorem asks_performSearch (hcallback : request.callback = none) (size offset : Value) :
    (performSearch request size offset).Asks true := by
  rw [performSearch, hcallback]
  refine asks_bind (asks_ofExcept _) fun params => ⟨rfl, fun answer => ?_⟩
  cases answer with
  | error failure => exact asks_failWith _ _
  | ok response => exact asks_map (asks_ofExcept _) _

/-- A page without callback makes no request but searches. -/
theorem asks_paginate (hcallback : request.callback = none) (perPage page : Value) :
    (paginate request perPage page).Asks true := by
  rw [paginate]
  cases Amount.ofValue? perPage with
  | none => trivial
  | some amount =>
    dsimp only
    by_cases hsmall : amount.isBelowOne = true
    · rw [if_pos hsmall]
      trivial
    · rw [if_neg hsmall, searchPage]
      refine asks_bind (asks_ofExcept _) fun number => asks_bind (asks_ofExcept _) fun offset => ?_
      refine asks_bind (asks_performSearch hcallback _ _) fun reply => ?_
      cases reply with
      | results results => exact asks_map (asks_ofExcept _) _
      | value v => trivial

end

namespace Step

variable {step : Step}

/-- A step that reads makes no request but searches. -/
theorem Reads.asks (h : step.Reads) (last : SearchResults) : (step.program last).Asks true := by
  cases h with
  | search hcallback =>
    refine Program.eachRequest_ofChecked_bind fun request hrequest => asks_map ?_ _
    have hnone : request.callback = none := callback_of_check hrequest ▸ hcallback
    exact asks_performSearch hnone _ _
  | paginate hcallback perPage page =>
    refine Program.eachRequest_ofChecked_bind fun request hrequest => asks_map ?_ _
    have hnone : request.callback = none := callback_of_check hrequest ▸ hcallback
    exact asks_paginate hnone perPage page

/-- An operation on an index makes no search if it does not with any name and descriptors. -/
theorem asks_onIndex {operation : (name properties : Value) → Program Bool}
    (h : ∀ name properties, (operation name properties).Asks false) (args : List Value) :
    (onIndex operation args).Asks false := by
  match args with
  | [name] => exact asks_map (h name .null) _
  | [name, properties] => exact asks_map (h name properties) _
  | [] => trivial
  | _ :: _ :: _ :: _ => trivial

/-- A step that writes makes no search. -/
theorem Writes.asks (h : step.Writes) (last : SearchResults) : (step.program last).Asks false := by
  cases h with
  | update records => exact asks_bind (asks_update records) fun _ => trivial
  | delete records => exact asks_bind (RecordSearch.asks_delete records) fun _ => trivial
  | flush type => exact asks_bind (Index.asks_flush type.index) fun _ => trivial
  | createIndex args => exact asks_onIndex Index.asks_create args
  | ensureIndex args => exact asks_onIndex Index.asks_ensure args
  | deleteIndex name => exact asks_bind (Index.asks_delete name) fun _ => trivial

/-- A step that writes does not look at the results of the last search. -/
theorem Writes.program_eq (h : step.Writes) (last other : SearchResults) :
    step.program last = step.program other := by
  cases h <;> rfl

/-- A step that reads does not look at the results of the last search. -/
theorem Reads.program_eq (h : step.Reads) (last other : SearchResults) :
    step.program last = step.program other := by
  cases h <;> rfl

end Step

/-! ### Results of steps that write -/

/-- A result of a program that ends by making a result of its own is such a result. -/
theorem exists_of_outcome_map {surroundings : Surroundings σ} {p : Program β} {f : β → α}
    {state : σ} {a : α} (h : ((f <$> p).run surroundings state).outcome = .ok a) :
    ∃ b, a = f b := by
  rw [map_eq_pure_bind, Program.run_bind] at h
  rcases hrun : p.run surroundings state with ⟨outcome, events, later⟩
  rw [hrun] at h
  cases outcome with
  | error e => cases h
  | ok b => exact ⟨b, (Except.ok.inj h).symm⟩

/-- A step that writes answers with no reply to a search. -/
theorem Step.Writes.not_reply {step : Step} (h : step.Writes) {last : SearchResults}
    {surroundings : Surroundings σ} {state : σ} {result : StepResult}
    (hresult : ((step.program last).run surroundings state).outcome = .ok result) (reply : Reply) :
    result ≠ .reply reply := by
  -- Steps that write end with nothing, or tell whether an index was created.
  have hunit : ∀ p : Program Unit, step.program last = (fun _ => StepResult.nothing) <$> p →
      result ≠ .reply reply := by
    intro p hp
    rw [hp] at hresult
    obtain ⟨_, rfl⟩ := exists_of_outcome_map hresult
    exact nofun
  have hindex : ∀ operation args, step.program last = onIndex operation args →
      result ≠ .reply reply := by
    intro operation args hp
    rw [hp] at hresult
    match args with
    | [name] =>
      obtain ⟨_, rfl⟩ := exists_of_outcome_map hresult
      exact nofun
    | [name, properties] =>
      obtain ⟨_, rfl⟩ := exists_of_outcome_map hresult
      exact nofun
    | [] => cases hresult
    | _ :: _ :: _ :: _ => cases hresult
  cases h with
  | update records => exact hunit _ (map_eq_pure_bind _ _).symm
  | delete records => exact hunit _ (map_eq_pure_bind _ _).symm
  | flush type => exact hunit _ (map_eq_pure_bind _ _).symm
  | createIndex args => exact hindex _ _ rfl
  | ensureIndex args => exact hindex _ _ rfl
  | deleteIndex name => exact hunit _ (map_eq_pure_bind _ _).symm

namespace Session

/-- The results of the last search stay what they are if a step does not answer with a reply. -/
theorem lastAfter_eq {outcome : Except Error StepResult}
    (h : ∀ result, outcome = .ok result → ∀ reply, result ≠ .reply reply) (last : SearchResults) :
    lastAfter last outcome = last := by
  match outcome with
  | .ok (.reply reply) => exact absurd rfl (h _ rfl reply)
  | .ok .nothing | .ok (.created _) | .ok (.items _) | .ok (.ids _) | .ok (.total _) => rfl
  | .error _ => rfl

/-! ### Two steps change places -/

/-- A script has its answers to searches apart from all others. -/
theorem answer_search_and_other (script : Script) (params : SearchParams) {b : Query}
    (hb : b.isSearch = false) :
    ((script.answer b).2.answer (.search params)).1 = (script.answer (.search params)).1
      ∧ ((script.answer (.search params)).2.answer b).1 = (script.answer b).1
      ∧ ((script.answer (.search params)).2.answer b).2 =
        ((script.answer b).2.answer (.search params)).2 := by
  cases b with
  | search other => cases hb
  | _ => exact ⟨rfl, rfl, rfl⟩

/-- **A search and another request** are independent for a backend with written answers: each takes
    its answer from its own method, if it can be written down at all. -/
theorem independent_of_isSearch (resolvers : List (String × ResolverScript)) {a b : Query}
    (ha : a.isSearch = true) (hb : b.isSearch = false) :
    (surroundings resolvers).Independent a b := by
  obtain ⟨params, rfl⟩ : ∃ params, a = .search params := by
    cases a with
    | search params => exact ⟨params, rfl⟩
    | _ => cases ha
  have hrefused : ∀ query, ¬ Value.areWritable query.arguments = true → ∀ script,
      (surroundings resolvers).answer script query = (.error Failure.wrongArguments, script) :=
    fun query hquery script => if_neg hquery
  -- A query that cannot be written down is refused, and leaves the script as it is.
  by_cases hfirst : Value.areWritable (Query.search params).arguments = true
  · by_cases hsecond : Value.areWritable b.arguments = true
    · have hanswer : ∀ query, Value.areWritable query.arguments = true → ∀ script,
          (surroundings resolvers).answer script query =
            ((script.answer query).1.mapError Failure.passedOn, (script.answer query).2) :=
        fun query hquery script => if_pos hquery
      constructor
      · intro script
        rw [hanswer _ hfirst, hanswer _ hsecond, hanswer _ hfirst,
          (answer_search_and_other script params hb).1]
      · intro script
        rw [hanswer _ hfirst, hanswer _ hsecond, hanswer _ hsecond,
          (answer_search_and_other script params hb).2.1]
      · intro script
        rw [hanswer _ hfirst, hanswer _ hsecond, hanswer _ hsecond, hanswer _ hfirst]
        exact (answer_search_and_other script params hb).2.2
    · exact (Surroundings.Independent.of_fixed (hrefused b hsecond) _).symm
  · exact .of_fixed (hrefused _ hfirst) b

/-- A step whose program does not depend on the results of the last search, in a session where the
    run of that program is known. -/
theorem step_eq_of_run {resolvers : List (String × ResolverScript)} {session : Session}
    {step : Step} {last : SearchResults} {ending : Ending Script StepResult}
    (hprogram : step.program session.last = step.program last)
    (hrun : (step.program last).run (surroundings resolvers) session.script = ending) :
    session.step resolvers step =
      (ending, ⟨ending.state, lastAfter session.last ending.outcome⟩) := by
  rw [Session.step, hprogram, hrun]

/-- **Two steps change places.** A step that reads and a step that writes are seen to do the same in
    either order, and leave the same session. -/
theorem swap_steps (resolvers : List (String × ResolverScript)) (session : Session)
    {read write : Step} (hread : read.Reads) (hwrite : write.Writes) :
    let reading := session.step resolvers read
    let writing := session.step resolvers write
    (reading.2.step resolvers write).1.answer = writing.1.answer
      ∧ (writing.2.step resolvers read).1.answer = reading.1.answer
      ∧ (reading.2.step resolvers write).2 = (writing.2.step resolvers read).2 := by
  intro reading writing
  have hindependent : (read.program session.last).EachRequest fun a _ =>
      (write.program session.last).EachRequest fun b _ =>
        (surroundings resolvers).Independent a b :=
    (hread.asks session.last).imp fun a _ ha => (hwrite.asks session.last).imp fun b _ hb =>
      independent_of_isSearch resolvers ha hb
  obtain ⟨hsecond, hfirst⟩ := Program.run_after_run hindependent session.script
  -- Neither step looks at the results of the last search, and only the one that reads sets them.
  have hwriting := step_eq_of_run (hwrite.program_eq reading.2.last session.last) hsecond
  have hreading := step_eq_of_run (hread.program_eq writing.2.last session.last) hfirst
  have hkept : ∀ last, lastAfter last writing.1.outcome = last :=
    lastAfter_eq fun result hresult => hwrite.not_reply hresult
  refine ⟨?_, ?_, ?_⟩
  · rw [hwriting]
    rfl
  · rw [hreading]
    rfl
  · rw [hwriting, hreading]
    show Session.mk _ (lastAfter (lastAfter session.last reading.1.outcome) writing.1.outcome) =
      Session.mk _ (lastAfter (lastAfter session.last writing.1.outcome) reading.1.outcome)
    rw [hkept, hkept]
    exact congrArg (fun script => Session.mk script _) (congrArg Ending.state hsecond).symm

end Session

/-! ### Main result -/

/-- **Reading and writing do not interfere.** In any session, a step that reads and a step that
    writes, one right after the other, are seen to do the same in either order, whether or not they
    fail. The steps before them and the steps after them run as if nothing had changed. -/
theorem reads_and_writes_swap (resolvers : List (String × ResolverScript)) (session : Session)
    (earlier later : List Step) {read write : Step} (hread : read.Reads) (hwrite : write.Writes) :
    ∃ reading reading' writing writing' after,
      session.run resolvers (earlier ++ read :: write :: later) =
          session.run resolvers earlier ++ reading :: writing :: after
        ∧ session.run resolvers (earlier ++ write :: read :: later) =
          session.run resolvers earlier ++ writing' :: reading' :: after
        ∧ reading.answer = reading'.answer ∧ writing.answer = writing'.answer := by
  let here := session.after resolvers earlier
  obtain ⟨hwriting, hreading, hsame⟩ := here.swap_steps resolvers hread hwrite
  refine ⟨(here.step resolvers read).1, ((here.step resolvers write).2.step resolvers read).1,
    ((here.step resolvers read).2.step resolvers write).1, (here.step resolvers write).1,
    ((here.step resolvers read).2.step resolvers write).2.run resolvers later,
    Session.run_append resolvers session earlier _, ?_, hreading.symm, hwriting⟩
  rw [Session.run_append, hsame]
  rfl

/-- A search for notes. -/
def noteSearch : RequestFields where
  type := some (.type note)
  query := some (.str "milk")
  wheres := none
  orders := none
  limit := none
  index := none
  callback := none

/-- An update of a note that is refused and a search for notes change places between a flush and a
    look at what was found. -/
theorem noteSearch_swapped :
    (Step.search noteSearch).Reads ∧ (Step.update [milkNote]).Writes
      ∧ ∃ reading reading' writing writing' after,
        refusingSession.run []
            ([.flush note] ++ .search noteSearch :: .update [milkNote] :: [.total .last]) =
          refusingSession.run [] [.flush note] ++ reading :: writing :: after
        ∧ refusingSession.run []
            ([.flush note] ++ .update [milkNote] :: .search noteSearch :: [.total .last]) =
          refusingSession.run [] [.flush note] ++ writing' :: reading' :: after
        ∧ reading.answer = reading'.answer ∧ writing.answer = writing'.answer :=
  ⟨.search rfl, .update _, reads_and_writes_swap [] refusingSession [.flush note] [.total .last]
    (.search rfl) (.update _)⟩

end RecordSearch
