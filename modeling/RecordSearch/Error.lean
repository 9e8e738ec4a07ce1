import RecordSearch.Checked
import RecordSearch.Encoding.Decoding
import RecordSearch.Failure.Text
import RecordSearch.Json.Reader
import RecordSearch.Settings.Arguments.Sign
import RecordSearch.Settings.Variables

namespace RecordSearch

/-!
# Errors

The causes for which an operation ends without a result, and the message of each. The errors
of the library itself are those about indices, bulk requests, searches and loading; they keep
the failure that caused them. The others say what was wrong with the data or with the call.

* `Error.message` and `Error.className`: the text and the class of an error;
* `Error.cause?`: the failure that the library met and turned into an error of its own;
* `Error.items`: what the backend reported on single operations.
-/

/-- What was done to an index. -/
inductive IndexAction where
  | check
  | create
  | delete
deriving DecidableEq, Repr

/-- The word for the action in messages. -/
def IndexAction.word : IndexAction → String
  | .check => "check"
  | .create => "create"
  | .delete => "delete"

/-- A layer of settings that is made of named texts. -/
inductive TextLayer where
  | environment
  | envFile
  | arguments
deriving DecidableEq, Repr

/-- The name of the layer in messages. -/
def TextLayer.name : TextLayer → String
  | .environment => "EnvSettingsSource"
  | .envFile => "DotEnvSettingsSource"
  | .arguments => "CliSettingsSource"

/-- Why an operation ended without a result. -/
inductive Error where
  /-- Records of a type cannot be loaded by their identities. -/
  | notLoadable (recordType : String)
  /-- The backend failed on an index; `reason` is the text of the failure. -/
  | indexFailed (action : IndexAction) (index : String) (cause : Failure) (reason : String)
  /-- The backend failed on a whole bulk request. -/
  | bulkFailed (cause : Failure) (reason : String)
  /-- The backend reported failed operations of a bulk request. -/
  | itemsFailed (failed : List Value)
  /-- The backend failed on a search. -/
  | searchFailed (index : String) (cause : Failure) (reason : String)
  /-- Data did not pass its check. -/
  | invalid (faults : List Fault)
  /-- The text of a setting cannot be read. -/
  | unreadableSetting (field : String) (layer : TextLayer)
  /-- A JSON text holds values too deep inside each other. -/
  | tooDeep (nesting : Json.Nesting)
  /-- What the names of variables start with is no text. -/
  | unusableStart (field : String) (layer : TextLayer)
  /-- The words of a command were asked for, but not in a list. -/
  | notArguments (typeName : String)
  /-- What the flags of a command start with is no name. -/
  | badFlagStart (start : String)
  /-- The words of a command are not understood, which may end the program. -/
  | unreadableArguments (reason : String) (ends : Bool)
  /-- A flag has words that are those of another flag. -/
  | conflictingFlags (title : String) (words : List String)
  /-- The words of a flag are signs alone at first, so that it has no name; its last word is
      given. -/
  | namelessFlag (word : List Nat)
  /-- A description of the flags was asked for, which ends the program. -/
  | helpWanted
  /-- No pattern can be made with the sign that flags start with. -/
  | unusableSign (problem : SignProblem)
  /-- The texts of a flag that may be given several times cannot be merged. -/
  | unmergeableArguments (field reason : String)
  /-- A file is given where a directory with secret settings should be. -/
  | secretsInFile
  /-- The home directory of a user is not known. -/
  | noHome
  /-- The number of directories to search is no integer that counts positions. -/
  | badSearchDepth
  /-- A path or the name of a file is too long. -/
  | nameTooLong (path : String)
  /-- A directory stands where a file should be. -/
  | directoryForFile (path : String)
  /-- The name of an encoding holds a null character. -/
  | nullCharacter
  /-- An encoding is not known. -/
  | unknownEncoding (name : String)
  /-- What a name stands for is no encoding of text. -/
  | notTextEncoding (name : String)
  /-- The code points of a text have no bytes, since some of them are surrogates. -/
  | unencodable (codes : List Nat)
  /-- The bytes of a file stand for no text. -/
  | undecodable (fault : DecodingFault)
  /-- Names of variables cannot be taken apart so often. -/
  | tooManySplits
  /-- A part of a value is not there or cannot be set. -/
  | noSuchPart
  /-- An integer has too many digits to be written. -/
  | tooManyDigits
  /-- A page must hold at least one hit. -/
  | pageTooSmall (perPage : Value)
  /-- A mapping has no such key. -/
  | missingKey (key : String)
  /-- A quotient lies beyond the range of binary64. -/
  | quotientTooLarge
  /-- An integer lies beyond the range of binary64. -/
  | integerTooLarge
  /-- An integer lies beyond the positions of a sequence. -/
  | notAPosition
  /-- A text would be longer than texts can be. -/
  | repeatedTooLong
  /-- A value would take too much memory. -/
  | outOfMemory
  /-- There is no file of settings at a path. -/
  | noConfigFile (path : String)
  /-- A file of settings cannot be read; what its reader says comes with a class and a text. -/
  | unreadableFile (className text : String)
  /-- A word names something that is no level of logging. -/
  | notALevel (text : String)
  /-- A member of a list of pairs has another length than two. -/
  | wrongPairLength (position length : Nat)
  /-- What should be two things is another number of things. -/
  | notTwo (length : Nat)
  /-- A failure of the surroundings that is passed on. -/
  | raised (failure : Failure)
  /-- A value is of a type that cannot be used so. -/
  | wrongType
  /-- A value that should be a mapping is none. -/
  | notAMapping
  /-- An argument of a failure is not there. -/
  | missingArgument

namespace Error

/-- The error that an obstacle to taking names apart leads to. -/
def ofObstacle : Obstacle → Error
  | .wrongType => .wrongType
  | .tooManySplits => .tooManySplits

/-- The error that a failure without a text leads to. -/
def ofUnprintable : Unprintable → Error
  | .wrongType => .wrongType
  | .missingArgument => .missingArgument
  | .tooManyDigits => .tooManyDigits

/-- The text for code points that have no bytes. It names the first surrogate, or the place of
    several ones after each other. -/
def unencodableText (codes : List Nat) : String :=
  let position := codes.findIdx fun code => !code.isValidChar
  let surrogates := (codes.drop position).takeWhile fun code => !code.isValidChar
  let place := match surrogates with
    | [code] =>
      "character '\\u" ++ String.ofList (Text.hexDigits 4 code) ++ "' in position "
        ++ toString position
    | _ =>
      "characters in position " ++ toString position ++ "-"
        ++ toString (position + surrogates.length - 1)
  "'utf-8' codec can't encode " ++ place ++ ": surrogates not allowed"

/-- The characters that the given number of bytes holds in UTF-8. One that is cut in two is
    replaced. -/
def withinBytes : (limit : Nat) → List Char → List Char
  | _, [] => []
  | limit, c :: cs =>
    if c.utf8Size ≤ limit then c :: withinBytes (limit - c.utf8Size) cs
    else if limit = 0 then [] else ['\ufffd']

/-- What an error says. A failure that is passed on speaks for itself, and for values of a wrong
    type there is nothing to say. -/
def ownMessage : Error → String
  | .notLoadable recordType => recordType ++ " does not support loading records by id"
  | .indexFailed action index _ reason =>
    "Failed to " ++ action.word ++ " index '" ++ index ++ "': " ++ reason
  | .bulkFailed _ reason => "Bulk request failed: " ++ reason
  | .itemsFailed failed => "Bulk request reported " ++ toString failed.length ++ " failed items"
  | .searchFailed index _ reason => "Search on index '" ++ index ++ "' failed: " ++ reason
  | .invalid faults => Fault.message faults
  | .unreadableSetting field layer =>
    "error parsing value for field \"" ++ field ++ "\" from source \"" ++ layer.name ++ "\""
  | .tooDeep nesting => (Json.Problem.tooDeep nesting).message []
  | .unusableStart field layer =>
    "error getting value for field \"" ++ field ++ "\" from source \"" ++ layer.name ++ "\""
  | .notArguments typeName =>
    "cli_parse_args must be a list or tuple of strings, received <class '" ++ typeName ++ "'>"
  | .badFlagStart start => "CLI settings source prefix is invalid: " ++ start
  | .unreadableArguments reason ends =>
    if ends then "2" else "error parsing CLI: " ++ reason
  | .conflictingFlags title words =>
    "argument " ++ title ++ ": conflicting option string"
      ++ (if words.length = 1 then "" else "s") ++ ": " ++ ", ".intercalate words
  | .namelessFlag word => "dest= is required for options like " ++ Text.quoteCodes word
  | .helpWanted => "0"
  | .unusableSign problem => problem.message
  | .unmergeableArguments field reason =>
    "Parsing error encountered for " ++ field ++ ": " ++ reason
  | .secretsInFile => "secrets_dir must reference a directory, not a file"
  | .noHome => "Could not determine home directory."
  | .badSearchDepth =>
    "Stop argument for islice() must be None or an integer: 0 <= x <= sys.maxsize."
  | .nameTooLong path => "[Errno 36] File name too long: " ++ Text.quote path
  | .directoryForFile path => "[Errno 21] Is a directory: " ++ Text.quote path
  | .unknownEncoding name => "unknown encoding: " ++ name
  | .notTextEncoding name =>
    "'" ++ String.ofList (withinBytes 400 name.toList)
      ++ "' is not a text encoding; use codecs.open() to handle arbitrary codecs"
  | .nullCharacter => "embedded null character"
  | .unencodable codes => unencodableText codes
  | .undecodable fault => fault.message
  | .tooManySplits => "Python int too large to convert to C ssize_t"
  | .tooManyDigits => Unprintable.digitsMessage
  | .pageTooSmall perPage =>
    -- A number that is not written fails the message itself, with an error of the same class.
    match perPage.text? with
    | .ok text => "per_page must be at least 1, got " ++ text
    | .error _ => Unprintable.digitsMessage
  | .missingKey key => Text.quote key
  | .quotientTooLarge => "integer division result too large for a float"
  | .integerTooLarge => "int too large to convert to float"
  | .notAPosition => "cannot fit 'int' into an index-sized integer"
  | .repeatedTooLong => "repeated string is too long"
  | .noConfigFile path => "Config file not found: " ++ path
  | .unreadableFile _ text => text
  | .notALevel text => "Unknown level: " ++ Text.quote text
  | .wrongPairLength position length =>
    "dictionary update sequence element #" ++ toString position ++ " has length "
      ++ toString length ++ "; 2 is required"
  | .notTwo length =>
    if length < 2 then
      "not enough values to unpack (expected 2, got " ++ toString length ++ ")"
    else "too many values to unpack (expected 2)"
  | .raised _ | .wrongType | .notAMapping | .missingArgument | .noSuchPart | .outOfMemory => ""

/-- The message of an error. A failure that is passed on has no message if it has no text. -/
def message : Error → Except Unprintable String
  | .raised failure => failure.text
  | e => .ok e.ownMessage

/-- The class of an error. The errors of the library have classes of their own, a failure that is
    passed on keeps its class, and the others are of the classes of the built-in and the used
    libraries' errors. -/
def className : Error → String
  | .notLoadable _ => "ConfigurationError"
  | .indexFailed .. => "IndexOperationError"
  | .bulkFailed .. | .itemsFailed _ => "BulkError"
  | .searchFailed .. => "QueryError"
  | .invalid _ => "ValidationError"
  | .unreadableSetting .. | .unusableStart .. | .notArguments _ | .badFlagStart _
  | .unmergeableArguments .. | .secretsInFile => "SettingsError"
  | .unreadableArguments _ ends => if ends then "SystemExit" else "SettingsError"
  | .helpWanted => "SystemExit"
  | .conflictingFlags .. => "ArgumentError"
  | .unusableSign problem =>
    match problem.problem with
    | .flawed .. => "error"
    | .tooManyTimes => "OverflowError"
  | .pageTooSmall _ | .tooManyDigits | .notALevel _ | .wrongPairLength .. | .notTwo _
  | .badSearchDepth | .nullCharacter | .namelessFlag _ => "ValueError"
  | .tooDeep _ => "RecursionError"
  | .noHome => "RuntimeError"
  | .nameTooLong _ => "OSError"
  | .directoryForFile _ => "IsADirectoryError"
  | .unknownEncoding _ | .notTextEncoding _ => "LookupError"
  | .unencodable _ => "UnicodeEncodeError"
  | .undecodable fault =>
    match fault with
    | .flawed .. => "UnicodeDecodeError"
    | _ => "UnicodeError"
  | .missingKey _ => "KeyError"
  | .quotientTooLarge | .integerTooLarge | .notAPosition | .tooManySplits | .repeatedTooLong =>
    "OverflowError"
  | .outOfMemory => "MemoryError"
  | .noConfigFile _ => "FileNotFoundError"
  | .raised failure => failure.kind.name
  | .wrongType => "TypeError"
  | .notAMapping | .noSuchPart => "AttributeError"
  | .missingArgument => "IndexError"
  | .unreadableFile name _ => name

/-- The failure that was met, for the errors of the library itself. -/
def cause? : Error → Option Failure
  | .indexFailed _ _ cause _ | .bulkFailed cause _ | .searchFailed _ cause _ => some cause
  | _ => none

/-- What the backend reported on the operations that failed. -/
def items : Error → List Value
  | .itemsFailed failed => failed
  | _ => []

end Error

namespace Checked

variable {α : Type}

/-- A value that passed its check, or an error with all faults. -/
def toExcept : Checked α → Except Error α
  | .valid a => .ok a
  | .invalid fs => .error (.invalid fs)

@[simp] theorem toExcept_valid (a : α) : toExcept (.valid a) = .ok a := rfl

@[simp] theorem toExcept_invalid (fs : List Fault) :
    (toExcept (.invalid fs) : Except Error α) = .error (.invalid fs) := rfl

end Checked

end RecordSearch
