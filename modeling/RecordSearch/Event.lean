import RecordSearch.RecordType
import RecordSearch.Search.Params

namespace RecordSearch

/-!
# Requests and log lines

What an operation does that others can see: the requests that it makes of the backend and of
the record store, the callbacks that it runs, and the lines that it logs.

* `Query`: a request, with the method of a client that it calls and what it calls it with;
* `LogEntry`: a line;
* `Event`: something that was done.
-/

/-- A request to the search backend. -/
inductive Query where
  | getIndex (index : Value)
  | createIndex (index : String) (body : Option Value)
  | deleteIndex (index : Value)
  | bulk (lines : List Value)
  | search (params : SearchParams)
  | close

/-- The values that a request holds. -/
def Query.arguments : Query → List Value
  | .getIndex index | .deleteIndex index => [index]
  | .createIndex _ body => body.toList
  | .bulk lines => lines
  | .search params => [params.toValue]
  | .close => []

/-- The method of a client that a request calls. -/
def Query.method : Query → String
  | .getIndex _ => "indices.get"
  | .createIndex .. => "indices.create"
  | .deleteIndex _ => "indices.delete"
  | .bulk _ => "bulk"
  | .search _ => "search"
  | .close => "close"

/-- What the method is called with, by the names of its parameters. -/
def Query.namedArguments : Query → Document
  | .getIndex index | .deleteIndex index => [("index", index)]
  | .createIndex index body => ("index", .str index) :: body.toList.map fun v => ("body", v)
  | .bulk lines => [("body", .list lines)]
  | .search params => [("index", params.index), ("body", params.body.toValue)]
  | .close => []

/-- A line that is logged. -/
inductive LogEntry where
  | indexNotFound (index : Value)
  | indexCreatedConcurrently (index : String)
  | indexCreated (index : String) (fields : Nat)
  | indexDeleted (index : Value)
  | flushFailed (index : Value)
  | submitting (operations : Nat)
  | itemsFailed (count : Nat)
  | searching (index : Value)
  | hitsDropped (count : Nat)
deriving Repr

/-- How much a line matters. -/
inductive Severity where
  | debug
  | info
  | warning
deriving DecidableEq, Repr

/-- The name of a severity in a log. -/
def Severity.name : Severity → String
  | .debug => "DEBUG"
  | .info => "INFO"
  | .warning => "WARNING"

namespace LogEntry

/-- How much the line matters. -/
def severity : LogEntry → Severity
  | .indexCreated .. | .indexDeleted _ => .info
  | .itemsFailed _ => .warning
  | _ => .debug

/-- The logger of the line: one for each part of the library. -/
def logger : LogEntry → String
  | .indexNotFound _ | .indexCreatedConcurrently _ | .indexCreated .. | .indexDeleted _
  | .flushFailed _ => "elasticscout.core.indices"
  | .submitting _ | .itemsFailed _ => "elasticscout.core.bulk"
  | .searching _ => "elasticscout.core.engine"
  | .hitsDropped _ => "elasticscout.core.mapper"

/-- The text of the line. -/
def text : LogEntry → String
  | .indexNotFound index => "Index " ++ index.text ++ " not found, creating it"
  | .indexCreatedConcurrently index => "Index " ++ index ++ " was created concurrently"
  | .indexCreated index fields =>
    "Created index " ++ index ++ " (" ++ toString fields ++ " mapped fields)"
  | .indexDeleted index => "Deleted index " ++ index.text
  | .flushFailed index => "Flush of index " ++ Failure.shownText index ++ " failed, ignoring"
  | .submitting operations =>
    "Submitting bulk request with " ++ toString operations ++ " operations"
  | .itemsFailed count => "Bulk request reported " ++ toString count ++ " failed items"
  | .searching index => "Searching index " ++ Failure.shownText index
  | .hitsDropped count =>
    "Dropped " ++ toString count ++ " hits with no matching record"

end LogEntry

/-- Something that an operation did. A callback is given a client, which is known by its number. -/
inductive Event where
  | query (query : Query)
  | resolve (type : RecordType) (ids : List Value)
  | callback (client : Nat) (params : SearchParams)
  | log (entry : LogEntry)

end RecordSearch
