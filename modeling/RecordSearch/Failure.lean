import RecordSearch.Value.Text

namespace RecordSearch

/-!
# Failures of the surroundings

What a search backend, a record store or a callback raises: a kind and arguments.

* `Failure.isBackend`, `Failure.isNotFound`, `Failure.isAlreadyExists`: the questions that
  decide how a failure is met;
* `Failure.passedOn`: a failure as a request answers with it.
-/

/-- A failure: a kind, arguments, and the files that a failure of the system names. -/
structure Failure where
  kind : FailureKind
  args : List Value
  files : List Value
deriving Repr

instance : Inhabited Failure := ⟨⟨.backend .general, [], []⟩⟩

namespace Failure

/-- The failure of a kind with a name, with arguments and without files. -/
def ofName (name : String) (args : List Value) : Failure := ⟨.other name, args, []⟩

/-- The failure of asking for the text of a failure that has none. -/
def ofUnprintable : Unprintable → Failure
  | .wrongType => ofName "TypeError" []
  | .missingArgument => ofName "IndexError" []
  | .tooManyDigits => ofName "ValueError" [.str Unprintable.digitsMessage]

/-- The failure as a value. -/
def toValue (f : Failure) : Value := .failure f.kind f.args f.files

/-- A failure as a request answers with it: the sign that an iteration has ended is meant for
    the iteration alone, and to raise it out of a request is a failure of its own. -/
def passedOn (f : Failure) : Failure :=
  if f.kind = .other "StopIteration" then
    ofName "RuntimeError" [.str "coroutine raised StopIteration"]
  else f

/-- The failure of a backend for a request: status, error and further information. -/
def ofBackend (kind : BackendKind) (status error info : Value) : Failure :=
  ⟨.backend kind, [status, error, info], []⟩

/-- Does the failure belong to the family of the backend? -/
def isBackend (f : Failure) : Bool :=
  match f.kind with
  | .backend _ => true
  | .other _ => false

/-- Did the backend not find what was asked for? -/
def isNotFound (f : Failure) : Bool :=
  match f.kind with
  | .backend .notFound => true
  | _ => false

/-- The error by which a backend says that an index was there already. -/
def alreadyExists : String := "resource_already_exists_exception"

/-- Did the backend refuse a request because the index was there already? The error of a
    refused request is its second argument. -/
def isAlreadyExists (f : Failure) : Except Unprintable Bool :=
  match f.kind, f.args with
  | .backend .request, _ :: .str error :: _ => .ok (error == alreadyExists)
  | .backend .request, _ :: _ :: _ => .ok false
  | .backend .request, _ => .error .missingArgument
  | _, _ => .ok false

end Failure

end RecordSearch
