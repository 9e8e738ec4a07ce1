import RecordSearch.Failure.Text

namespace RecordSearch

/-!
# Making failures

A failure is made from a kind and arguments, and some kinds are particular about these. What
cannot be made is met as another failure: the one of the attempt.

* `Failure.make`: the failure of a kind with arguments, or the failure of the attempt.
-/

namespace Failure

/-- An attempt with arguments of a wrong number or type. -/
def wrongArguments : Failure := ofName "TypeError" []

/-- An attempt with a value that will not do. -/
def wrongValue (reason : String) : Failure := ofName "ValueError" [.str reason]

/-! ### Failures of the system -/

/-- The name of the kind that reports the error with a number, where the general failure of the
    system has been asked for. -/
def nameByNumber (number : Value) : String :=
  match number.integer? with
  | some n =>
    match systemKinds.find? fun kind => kind.2.contains n with
    | some kind => kind.1
    | none => "OSError"
  | none => "OSError"

/-- Is the value nothing? -/
def isNothing : Value → Bool
  | .null => true
  | _ => false

/-- The third argument of a failure that would have blocked is a count if it is a number, which
    must then be an integer. -/
def checkCount (count : Value) : Except Failure Unit :=
  match count with
  | .float _ => .error wrongArguments
  | v => match v.integer? with
    | some n =>
      if Value.isInt64 n then .ok ()
      else .error (wrongValue "cannot fit 'int' into an index-sized integer")
    | none => .ok ()

/-- Is the value a number? -/
def isNumber (v : Value) : Bool :=
  match v with
  | .bool _ | .int _ | .float _ => true
  | _ => false

/-- The files among the arguments after the reason: the first one of them, and the third. -/
def filesOf : List Value → List Value
  | file :: rest =>
    if isNothing file then []
    else match rest with
      | [_, other] => if isNothing other then [file] else [file, other]
      | _ => [file]
  | [] => []

/-- The failure of the system that reports an error with a number, a reason and further
    arguments. Files are no longer among its arguments. -/
def makeReport (name : String) (number reason : Value) (rest : List Value) :
    Except Failure Failure := do
  -- Only the general kind is replaced by the one for the number.
  let name := if name = "OSError" then nameByNumber number else name
  let count := (rest.head?).filter fun v => name = "BlockingIOError" && isNumber v
  match count with
  | some count =>
    checkCount count
    return ofName name (number :: reason :: rest)
  | none =>
    match filesOf rest with
    | [] => return ofName name (number :: reason :: rest)
    | files => return ⟨.other name, [number, reason], files⟩

/-! ### Failures that name a position -/

/-- A failure about a source text names the file, the line, the column and the text itself, and
    may name the line and the column of the end. -/
def checkSourceDetails (details : Value) : Except Failure Unit :=
  match details.elements? with
  | some members =>
    if members.length = 4 || members.length = 6 then .ok () else .error wrongArguments
  | none => .error wrongArguments

/-- An argument that must be text. -/
def checkText (v : Value) : Except Failure Unit :=
  if v.codes?.isSome then .ok () else .error wrongArguments

/-- An argument that must be a position. -/
def checkPosition (v : Value) : Except Failure Unit :=
  match v.integer? with
  | some n =>
    if Value.isInt64 n then .ok ()
    else .error (ofName "OverflowError" [.str "Python int too large to convert to C ssize_t"])
  | none => .error wrongArguments

/-- The arguments of a failure to convert, one after the other, and the object at the end. -/
def checkConversion (name : String) (args : List Value) : Except Failure Unit :=
  match name, args with
  | "UnicodeDecodeError", [encoding, object, start, stop, reason] => do
    checkText encoding
    checkPosition start
    checkPosition stop
    checkText reason
    if object.bytes?.isSome then return else throw wrongArguments
  | "UnicodeEncodeError", [encoding, object, start, stop, reason] => do
    checkText encoding
    checkText object
    checkPosition start
    checkPosition stop
    checkText reason
  | "UnicodeTranslateError", [object, start, stop, reason] => do
    checkText object
    checkPosition start
    checkPosition stop
    checkText reason
  | _, _ => .error wrongArguments

/-- The kinds of failure to convert. -/
def conversionKinds : List String :=
  ["UnicodeDecodeError", "UnicodeEncodeError", "UnicodeTranslateError"]

/-! ### Failures of several -/

/-- The members of a group, which must be given in a sequence that may be text. -/
def groupMembers? : Value → Option (List Value)
  | .str s => (Value.str s).elements?
  | .brokenStr codes => (Value.brokenStr codes).elements?
  | .bytes bs => some (Value.ofBytes bs)
  | v => v.sequence?

/-- The kinds of the members of a group, which must all be failures; the first one has the
    given position. -/
def memberKinds : Nat → List Value → Except Failure (List FailureKind)
  | _, [] => .ok []
  | position, .failure kind _ _ :: members => (kind :: ·) <$> memberKinds (position + 1) members
  | position, _ :: _ =>
    .error (wrongValue ("Item " ++ toString position
      ++ " of second argument (exceptions) is not an exception"))

/-- A group of failures. One of ordinary failures alone is ordinary itself, and an ordinary one
    holds no other failures. -/
def makeGroup (name : String) (args : List Value) : Except Failure Failure :=
  match args with
  | [message, group] => do
    checkText message
    match groupMembers? group with
    | none => throw wrongArguments
    | some [] => throw (wrongValue "second argument (exceptions) must be a non-empty sequence")
    | some members =>
      let kinds ← memberKinds 0 members
      -- A group with failures that are not ordinary keeps the kind that was asked for.
      if kinds.all FailureKind.isOrdinary then return ofName "ExceptionGroup" args
      else if name = "ExceptionGroup" then throw wrongArguments
      else return ofName name args
  | _ => .error wrongArguments

/-! ### All kinds -/

/-- The failure of a kind with arguments, or the failure of the attempt to make it. -/
def make (kind : FailureKind) (args : List Value) : Except Failure Failure :=
  match kind with
  | .backend kind => .ok ⟨.backend kind, args, []⟩
  | .other name =>
    if groupKinds.contains name then makeGroup name args
    else if conversionKinds.contains name then do
      checkConversion name args
      return ofName name args
    else match args with
      | number :: reason :: rest =>
        if isSystemReport name args then makeReport name number reason rest
        else if sourceKinds.contains name && rest.isEmpty then do
          checkSourceDetails reason
          return ofName name args
        else .ok (ofName name args)
      | _ => .ok (ofName name args)

end Failure

end RecordSearch
