namespace RecordSearch

/-!
# Kinds of failure

What a search backend, a record store or a callback raises has a kind. The kinds of the
backend form a family, whose members say what happened to a request; every other kind is known
by its name alone.

* `FailureKind.named?`: the kind with a given name, if there is one;
* `FailureKind.isOrdinary`: does the kind leave the program running?
* `systemKinds`: the kinds that report an error of the system, by its number.
-/

/-- The kinds of failure of a search backend. -/
inductive BackendKind where
  | general
  | transport
  | connection
  | tls
  | timeout
  | notFound
  | conflict
  | request
  | authentication
  | authorization
  | serialization
deriving DecidableEq, Repr

/-- The name of a kind of failure of a search backend. -/
def BackendKind.name : BackendKind → String
  | .general => "OpenSearchException"
  | .transport => "TransportError"
  | .connection => "ConnectionError"
  | .tls => "SSLError"
  | .timeout => "ConnectionTimeout"
  | .notFound => "NotFoundError"
  | .conflict => "ConflictError"
  | .request => "RequestError"
  | .authentication => "AuthenticationException"
  | .authorization => "AuthorizationException"
  | .serialization => "SerializationError"

/-- All kinds of failure of a search backend. -/
def BackendKind.all : List BackendKind :=
  [.general, .transport, .connection, .tls, .timeout, .notFound, .conflict, .request,
    .authentication, .authorization, .serialization]

/-- A kind of failure: one of the backend, or any other by name. -/
inductive FailureKind where
  | backend (kind : BackendKind)
  | other (name : String)
deriving DecidableEq, Repr

/-! ### Kinds by name -/

/-- Kinds of failure that ask the program itself to end, or that stand for all failures. -/
def fatalKinds : List String :=
  ["BaseException", "BaseExceptionGroup", "GeneratorExit", "KeyboardInterrupt", "SystemExit"]

/-- The kinds of failure of the system, with the numbers of the errors that they stand for. The
    first one stands for all the other errors. -/
def systemKinds : List (String × List Int) :=
  [("OSError", []), ("BlockingIOError", [11, 114, 115]), ("BrokenPipeError", [32, 108]),
    ("ChildProcessError", [10]), ("ConnectionAbortedError", [103]),
    ("ConnectionRefusedError", [111]), ("ConnectionResetError", [104]),
    ("FileExistsError", [17]), ("FileNotFoundError", [2]), ("InterruptedError", [4]),
    ("IsADirectoryError", [21]), ("NotADirectoryError", [20]), ("PermissionError", [1, 13]),
    ("ProcessLookupError", [3]), ("TimeoutError", [110])]

/-- The kinds of failure of programs in general. -/
def generalKinds : List String :=
  ["ArithmeticError", "AssertionError", "AttributeError", "BufferError", "BytesWarning",
    "DeprecationWarning", "EOFError", "EncodingWarning", "Exception", "ExceptionGroup",
    "FloatingPointError", "FutureWarning", "ImportError", "ImportWarning", "IndentationError",
    "IndexError", "KeyError", "LookupError", "MemoryError", "ModuleNotFoundError", "NameError",
    "NotImplementedError", "OverflowError", "PendingDeprecationWarning", "RecursionError",
    "ReferenceError", "ResourceWarning", "RuntimeError", "RuntimeWarning", "StopAsyncIteration",
    "StopIteration", "SyntaxError", "SyntaxWarning", "SystemError", "TabError", "TypeError",
    "UnboundLocalError", "UnicodeDecodeError", "UnicodeEncodeError", "UnicodeError",
    "UnicodeTranslateError", "UnicodeWarning", "UserWarning", "ValueError", "Warning",
    "ZeroDivisionError"]

/-- Further kinds of failure around a search backend, none of which is about a request. -/
def clientKinds : List String :=
  ["ImproperlyConfigured", "OpenSearchWarning", "OpenSearchDslException", "UnknownDslObject",
    "ValidationException", "IllegalOperation"]

/-- Second names of kinds, each with the name that the kind goes by. -/
def secondNames : List (String × String) :=
  [("IOError", "OSError"), ("EnvironmentError", "OSError"),
    ("OpenSearchDeprecationWarning", "OpenSearchWarning")]

/-- Is it the name of a kind of failure of the system? -/
def isSystemKind (name : String) : Bool := (systemKinds.lookup name).isSome

namespace FailureKind

/-- The kind with a given name. Where two have it, that of the backend comes first. -/
def named? (name : String) : Option FailureKind :=
  match BackendKind.all.find? fun kind => kind.name == name with
  | some kind => some (.backend kind)
  | none =>
    let name := (secondNames.lookup name).getD name
    if isSystemKind name || generalKinds.contains name || fatalKinds.contains name
      || clientKinds.contains name then some (.other name)
    else none

/-- The name of a kind. -/
def name : FailureKind → String
  | .backend kind => kind.name
  | .other name => name

/-- Does a failure of this kind leave the program running? -/
def isOrdinary : FailureKind → Bool
  | .backend _ => true
  | .other name => !fatalKinds.contains name

end FailureKind

end RecordSearch
