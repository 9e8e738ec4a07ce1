import RecordSearch.Failure

namespace RecordSearch

/-!
# The text of a failure

A failure says what happened by its arguments, in a way that depends on its kind: most kinds
give one argument as it is and several as a tuple, those of the backend name a status, an error
and a cause, and those about source texts and encodings name a position.

* `Failure.text`: the text of a failure, which may itself fail to render;
* `Failure.textOf`, `Failure.shownText`: the text of any value, and that or its literal.
-/

namespace Failure

/-! ### Causes that a backend gives -/

/-- The first root cause that a backend gives. None may be given at all. -/
def firstRootCause (causes : Value) : Except Unprintable (Option Value) :=
  match causes with
  | .list items | .tuple items => .ok items.head?
  | .str s => if s.isEmpty then .ok none else .error .wrongType
  | .brokenStr codes => if codes.isEmpty then .ok none else .error .wrongType
  | .bytes bs | .buffer bs => if bs.isEmpty then .ok none else .error .wrongType
  | .mapping _ | .brokenMapping _ => .ok none
  | _ => .error .wrongType

/-- A part of a cause that is written as it is: left out if empty, and text otherwise. -/
def rawPart (part : Option Value) : Except Unprintable (List String) :=
  match part with
  | some (.str s) => .ok (if s.isEmpty then [] else [s])
  | some v => if v.isTruthy then .error .wrongType else .ok []
  | none => .ok []

/-- The text of a root cause: its reason quoted, and the id and the type of its resource. -/
def rootCauseText (cause : Value) : Except Unprintable (Option String) :=
  match cause.entries? with
  | some d =>
    match d.get? "reason" with
    | none => .ok none
    | some reason => do
      let id ← rawPart (d.get? "resource.id")
      let type ← rawPart (d.get? "resource.type")
      return some (Value.commaSeparated ((← reason.literal?) :: id ++ type))
  | none => .error .wrongType

/-- The cause that the information of a failure gives, if it is a mapping with an error. -/
def causeText (info : Option Value) : Except Unprintable (Option String) :=
  match info.bind (Value.get? · "error") with
  | none => .ok none
  | some error =>
    match error.entries? with
    | none => some <$> error.literal?
    | some entries =>
      match entries.get? "root_cause" with
      | none => .ok none
      | some causes => do
        match ← firstRootCause causes with
        | none => return none
        | some cause => rootCauseText cause

/-- The text of a failed request: its kind around the status, the error quoted and the cause,
    each left out if empty. -/
def requestText (kind : BackendKind) (status error : String) (cause : Option String) :
    String :=
  let parts := [status, error, cause.getD ""].filter fun part => !part.isEmpty
  kind.name ++ "(" ++ Value.commaSeparated parts ++ ")"

/-! ### Failures of the system -/

/-- Does a failure with this name and arguments report an error of the system? Its arguments are
    the number of the error, a reason, and up to three others that tell about files. -/
def isSystemReport (name : String) (args : List Value) : Bool :=
  isSystemKind name && 2 ≤ args.length && args.length ≤ 5

/-- The files that a failure of the system names, after its reason. -/
def filesText : List Value → Except Unprintable String
  | [] => .ok ""
  | [file] => (": " ++ ·) <$> file.literal?
  | file :: other :: _ => do return ": " ++ (← file.literal?) ++ " -> " ++ (← other.literal?)

/-! ### Failures that name a position -/

/-- The last part of a path. -/
def lastPart (path : String) : String :=
  String.ofList (path.toList.reverse.takeWhile (· != '/')).reverse

/-- A line number as it is written: one beyond 64 bits is written as -1. -/
def lineText (line : Int) : String :=
  if Value.isInt64 line then toString line else "-1"

/-- The place that a failure about a source text names: a file and a line, if the details of the
    failure give them. -/
def placeText (details : List Value) : String :=
  let file : List String := match details with
    | .str path :: _ => [lastPart path]
    | .brokenStr codes :: _ => [lastPart (Text.ofCodes codes)]
    | _ => []
  let line : List String := match details with
    | _ :: .int line :: _ => ["line " ++ lineText line]
    | _ => []
  match file ++ line with
  | [] => ""
  | parts => " (" ++ Value.commaSeparated parts ++ ")"

/-- The details of a failure about a source text, which are the members of a second argument if
    there is no third one. -/
def sourceDetails : List Value → List Value
  | [_, details] => details.elements?.getD []
  | _ => []

/-- One code point by its number. -/
def codeName (code : Nat) : String :=
  String.ofList <|
    if code < 0x100 then '\\' :: 'x' :: Text.hexDigits 2 code
    else if code < 0x10000 then '\\' :: 'u' :: Text.hexDigits 4 code
    else '\\' :: 'U' :: Text.hexDigits 8 code

/-- The position of the one thing that cannot be converted, or of the first and the last one. -/
def spanText (one several : String) (thing : Option String) (start stop : Int) : String :=
  match thing with
  | some thing => one ++ " " ++ thing ++ " in position " ++ toString start
  | none => several ++ " in position " ++ toString start ++ "-" ++ toString (stop - 1)

/-- The member at a start, if the stop comes right after it. -/
def soleMember {α : Type} (members : List α) (start stop : Int) : Option α :=
  if stop = start + 1 ∧ 0 ≤ start then members[start.toNat]? else none

/-- The text of a failure to convert, by the arguments of its kind: bytes that are no text, or a
    text with characters that cannot be written. -/
def conversionText (name : String) (args : List Value) : Option String :=
  match name, args with
  | "UnicodeDecodeError", [encoding, object, start, stop, reason] => do
    let bytes ← object.bytes?
    let start ← start.integer?
    let stop ← stop.integer?
    let thing := (soleMember bytes start stop).map fun byte =>
      "0x" ++ String.ofList (Text.hexDigits 2 byte.toNat)
    return "'" ++ encoding.text ++ "' codec can't decode "
      ++ spanText "byte" "bytes" thing start stop ++ ": " ++ reason.text
  | "UnicodeEncodeError", [encoding, object, start, stop, reason] => do
    let codes ← object.codes?
    let start ← start.integer?
    let stop ← stop.integer?
    let thing := (soleMember codes start stop).map fun code => "'" ++ codeName code ++ "'"
    return "'" ++ encoding.text ++ "' codec can't encode "
      ++ spanText "character" "characters" thing start stop ++ ": " ++ reason.text
  | "UnicodeTranslateError", [object, start, stop, reason] => do
    let codes ← object.codes?
    let start ← start.integer?
    let stop ← stop.integer?
    let thing := (soleMember codes start stop).map fun code => "'" ++ codeName code ++ "'"
    return "can't translate " ++ spanText "character" "characters" thing start stop ++ ": "
      ++ reason.text
  | _, _ => none

/-! ### Failures of several -/

/-- How many failures there are in a group. -/
def groupSize (members : Value) : String :=
  match (members.elements?.getD []).length with
  | 1 => " (1 sub-exception)"
  | n => " (" ++ toString n ++ " sub-exceptions)"

/-! ### All kinds -/

/-- The kinds of failure about source texts. -/
def sourceKinds : List String := ["SyntaxError", "IndentationError", "TabError"]

/-- The kinds of failure that stand for a group of others. -/
def groupKinds : List String := ["ExceptionGroup", "BaseExceptionGroup"]

mutual

/-- The text of a value: what a failure says, and of any other value the value as text. -/
def textOf : Value → Except Unprintable String
  | .failure (.backend .general) args _ => plainText "" args []
  | .failure (.backend .serialization) args _ => plainText "" args []
  | .failure (.backend .connection) args _ => connectionText args
  | .failure (.backend .tls) args _ => connectionText args
  | .failure (.backend .timeout) args _ => timeoutText args
  | .failure (.backend kind) args _ => statusText kind args
  | .failure (.other name) args files => plainText name args files
  | v => v.text?

/-- A single argument as it is, several as a tuple. The name of a missing key is quoted, a
    failure of the system starts with the number of its error, one about a source text ends
    with the place, and a group tells its size. -/
def plainText (name : String) : List Value → (files : List Value) → Except Unprintable String
  | [], _ => .ok (if sourceKinds.contains name then "None" else "")
  | [a], _ => if name = "KeyError" then a.literal? else textOf a
  | a :: b :: rest, files =>
    if isSystemReport name (a :: b :: rest) then do
      let number ← textOf a
      let reason ← textOf b
      return "[Errno " ++ number ++ "] " ++ reason ++ (← filesText files)
    else if sourceKinds.contains name then do
      let message ← textOf a
      return message ++ placeText (sourceDetails (a :: b :: rest))
    else if groupKinds.contains name then .ok (a.text ++ groupSize b)
    else match conversionText name (a :: b :: rest) with
      | some text => .ok text
      -- Arguments of other numbers and types are written as any others.
      | none => Value.literal? (.tuple (a :: b :: rest))

/-- The error and the information of a failed connection. -/
def connectionText : List Value → Except Unprintable String
  | _ :: error :: info :: _ => do
    let error ← textOf error
    let reason ← textOf info
    return "ConnectionError(" ++ error ++ ") caused by: " ++ info.typeName ++ "(" ++ reason
      ++ ")"
  | _ => .error .missingArgument

/-- The information of a request that took too long. -/
def timeoutText : List Value → Except Unprintable String
  | _ :: _ :: info :: _ => do
    let reason ← textOf info
    return "ConnectionTimeout caused by - " ++ info.typeName ++ "(" ++ reason ++ ")"
  | _ => .error .missingArgument

/-- The status, the error and the cause of a failed request. -/
def statusText (kind : BackendKind) : List Value → Except Unprintable String
  | status :: error :: rest => do
    let cause ← causeText rest.head?
    let status ← textOf status
    return requestText kind status (← error.literal?) cause
  | _ => .error .missingArgument

end

theorem textOf_int (n : Int) : textOf (.int n) = (Value.int n).text? := by
  rw [textOf]
  all_goals exact nofun

/-- The text of a failure. -/
def text (f : Failure) : Except Unprintable String := textOf f.toValue

/-- The text of a value, or its literal if it has no text. -/
def shownText (v : Value) : String :=
  match textOf v with
  | .ok text => text
  | .error _ => v.literal

end Failure

end RecordSearch
