import RecordSearch.Failure.Making
import RecordSearch.Search.Execution
import RecordSearch.Search.Loading
import RecordSearch.Write.Writer

namespace RecordSearch

/-!
# Scripted sessions

A session runs operations one after the other against a backend whose answers are written
down beforehand, method by method, and against record stores whose answers depend on the
identities alone. What each operation did is kept with its result, so that a session shows
what the library sends, in which order, and how it meets each answer.

* `Script`: the answers that are left, for each method of the backend;
* `ResolverScript`, `CallbackScript`: record stores and callbacks;
* `Step`, `Session.step`, `Session.run`: the operations and their runs.
-/

/-! ### The backend -/

/-- The answers that a backend has left, for each of its methods. -/
structure Script where
  getIndex : List (Except Failure Value)
  createIndex : List (Except Failure Value)
  deleteIndex : List (Except Failure Value)
  bulk : List (Except Failure Value)
  search : List (Except Failure Value)
  close : List (Except Failure Value)

/-- The first answer that is left, or else the given one, and the answers after it. -/
def nextAnswer (otherwise : Value) :
    List (Except Failure Value) → Except Failure Value × List (Except Failure Value)
  | [] => (.ok otherwise, [])
  | answer :: rest => (answer, rest)

namespace Script

/-- The answer to a change of an index, if none is written down. -/
def acknowledged : Value := .mapping [("acknowledged", .bool true)]

/-- The answer to a bulk request, if none is written down. -/
def noItems : Value :=
  .mapping [("took", .int 1), ("errors", .bool false), ("items", .list [])]

/-- The answer to a search, if none is written down. -/
def noHits : Value :=
  .mapping [("took", .int 1),
    ("hits", .mapping [("total", .mapping [("value", .int 0)]), ("hits", .list [])])]

/-- A script without any answer. -/
def empty : Script := ⟨[], [], [], [], [], []⟩

/-- The answer to a request, and the script without it. -/
def answer (script : Script) : Query → Except Failure Value × Script
  | .getIndex _ =>
    let (answer, rest) := nextAnswer (.mapping []) script.getIndex
    (answer, { script with getIndex := rest })
  | .createIndex .. =>
    let (answer, rest) := nextAnswer acknowledged script.createIndex
    (answer, { script with createIndex := rest })
  | .deleteIndex _ =>
    let (answer, rest) := nextAnswer acknowledged script.deleteIndex
    (answer, { script with deleteIndex := rest })
  | .bulk _ =>
    let (answer, rest) := nextAnswer noItems script.bulk
    (answer, { script with bulk := rest })
  | .search _ =>
    let (answer, rest) := nextAnswer noHits script.search
    (answer, { script with search := rest })
  | .close =>
    let (answer, rest) := nextAnswer .null script.close
    (answer, { script with close := rest })

end Script

/-! ### Record stores and callbacks -/

/-- How a record store answers: by raising a failure, with entries, or with records, of which
    it may leave out those whose identity was not asked for. -/
inductive ResolverScript where
  | raises (failure : Failure)
  | entries (pairs : List (Value × Item))
  | records (records : List Record) (knownOnly : Bool)

/-- The answer of a record store to identities that were written down. Entries must have what can
    be a key. -/
def ResolverScript.reply : ResolverScript → List Value → Except Failure Resolution
  | .raises failure, _ => .error failure
  | .entries pairs, _ =>
    if pairs.all fun e => e.1.isKey then .ok (.entries (Value.keyed pairs))
    else .error Failure.wrongArguments
  | .records rs knownOnly, ids =>
    if knownOnly then
      .records <$> rs.filterM fun r => do
        let text ← r.id.mapError Failure.ofUnprintable
        return ids.any fun id => id.sameKey (.str text)
    else .ok (.records rs)

/-- The answer of a record store to identities. They are written down first. -/
def ResolverScript.answer (script : ResolverScript) (ids : List Value) :
    Except Failure Resolution :=
  if Value.areWritable ids then script.reply ids else .error Failure.wrongArguments

/-- What a callback does: it raises a failure, makes results from fields, searches with the
    parameters, or returns the parameters or a value. -/
inductive CallbackScript where
  | raises (failure : Failure)
  | results (fields : Value)
  | searches
  | returnsParams
  | returns (v : Value)

/-- What a callback does with a client after the parameters were written down. -/
def CallbackScript.program (client : Client) (params : SearchParams) :
    CallbackScript → Program Reply
  | .raises failure => .fail (.raised failure.passedOn)
  -- A fault of the fields is raised by the callback itself.
  | .results (.mapping fields) => .results <$> Program.ofChecked (SearchResults.check fields)
  | .results _ => .fail .wrongType
  | .searches => do
    match ← client.send (.search params) with
    | .ok v => return .value v
    | .error failure => .fail (.raised failure)
  | .returnsParams => .done (.value params.toValue)
  | .returns v => .done (.value v)

/-- The callback of a script. The parameters are written down first. -/
def CallbackScript.callback (script : CallbackScript) : Callback := fun client params =>
  if params.toValue.isWritable then
    .tell (.callback client.number params) (script.program client params)
  else .fail .wrongType

/-! ### Steps -/

/-- Where a step takes its results from: from given fields, or from the last search. Anything
    else gives none. -/
inductive ResultsArgument where
  | fields (fields : Document)
  | last
  | other

/-- A step of a session: an operation, or nothing but the failure to begin one. -/
inductive Step where
  | update (records : List Record)
  | delete (records : List Record)
  | search (request : RequestFields)
  | paginate (request : RequestFields) (perPage page : Value)
  | load (request : RequestFields) (results : ResultsArgument)
  | ids (results : ResultsArgument)
  | total (results : ResultsArgument)
  | flush (type : RecordType)
  | createIndex (args : List Value)
  | ensureIndex (args : List Value)
  | deleteIndex (name : Value)
  | close
  | fails (failure : Failure)

/-- What a step answers with. -/
inductive StepResult where
  | nothing
  | created (created : Bool)
  | reply (reply : Reply)
  | items (items : List Item)
  | ids (ids : List Value)
  | total (total : Nat)

/-- The results that an argument stands for. -/
def ResultsArgument.results (last : SearchResults) : ResultsArgument → Program SearchResults
  | .fields given => Program.ofChecked (SearchResults.check given)
  | .last => return last
  | .other => .fail .wrongType

/-- Closes the connection to the backend. -/
def close : Program Unit :=
  .ask .close fun
    | .ok _ => .done ()
    | .error failure => .fail (.raised failure)

/-- An operation on an index with a name and descriptors that may be left out. -/
def onIndex (operation : (name properties : Value) → Program Bool) :
    List Value → Program StepResult
  | [name] => .created <$> operation name .null
  | [name, properties] => .created <$> operation name properties
  | _ => .fail .wrongType

/-- The program of a step, where `last` are the results of the last search. -/
def Step.program (last : SearchResults) : Step → Program StepResult
  | .update records => do
    RecordSearch.update records
    return .nothing
  | .delete records => do
    RecordSearch.delete records
    return .nothing
  | .search fields => do
    let request ← Program.ofChecked (SearchRequest.check fields)
    .reply <$> RecordSearch.search request
  | .paginate fields perPage page => do
    let request ← Program.ofChecked (SearchRequest.check fields)
    .reply <$> RecordSearch.paginate request perPage page
  | .load fields argument => do
    let request ← Program.ofChecked (SearchRequest.check fields)
    let results ← argument.results last
    .items <$> loadHits request results
  | .ids argument => do
    let results ← argument.results last
    .ids <$> Program.ofExcept results.ids
  | .total argument => do
    let results ← argument.results last
    return .total results.total
  | .flush type => do
    Index.flush type.index
    return .nothing
  | .createIndex args => onIndex Index.create args
  | .ensureIndex args => onIndex Index.ensure args
  | .deleteIndex name => do
    Index.delete name
    return .nothing
  | .close => do
    RecordSearch.close
    return .nothing
  | .fails failure => .fail (.raised failure)

/-! ### Sessions -/

/-- A session between two steps: the answers that the backend has left, and the results of the
    last search. -/
structure Session where
  script : Script
  last : SearchResults

namespace Session

/-- A session at its start. -/
def start (script : Script) : Session := ⟨script, .empty⟩

/-- The results of the last search after a step. -/
def lastAfter (last : SearchResults) : Except Error StepResult → SearchResults
  | .ok (.reply (.results results)) => results
  | _ => last

/-- What surrounds the programs of a session. A request that cannot be written down is not
    answered by the script, but fails. -/
def surroundings (resolvers : List (String × ResolverScript)) : Surroundings Script where
  answer script query :=
    if Value.areWritable query.arguments then
      let (answer, script) := script.answer query
      (answer.mapError Failure.passedOn, script)
    else (.error Failure.wrongArguments, script)
  resolve type ids :=
    match resolvers.lookup type.name with
    | some resolver => (resolver.answer ids).mapError Failure.passedOn
    | none => .ok (.records [])

/-- Runs one step. -/
def step (resolvers : List (String × ResolverScript)) (session : Session) (step : Step) :
    Ending Script StepResult × Session :=
  let ending := (step.program session.last).run (surroundings resolvers) session.script
  (ending, ⟨ending.state, lastAfter session.last ending.outcome⟩)

/-- Runs the steps one after the other. -/
def run (resolvers : List (String × ResolverScript)) :
    Session → List Step → List (Ending Script StepResult)
  | _, [] => []
  | session, step :: steps =>
    let (ending, session) := session.step resolvers step
    ending :: run resolvers session steps

end Session

end RecordSearch
