import RecordSearch.Checked.Scalar
import RecordSearch.Json.Codes
import RecordSearch.Platform

namespace RecordSearch

/-!
# Settings of the connection

Where the backend is and how to log in there.

* `hostsOfText`: a text names one host, or is the JSON text of a list of hosts;
* `ConnectionSettings.check`: settings from given fields;
* `ConnectionSettings.clientArguments`: the arguments that a client is made with.
-/

/-- The settings of the connection. -/
structure ConnectionSettings where
  hosts : List String
  username : Option String
  password : Option String
  apiKey : Option String
  verifyCerts : Bool
  timeout : Binary64
  extra : Document

/-! ### Hosts -/

/-- The host that a member of a list stands for: its text. -/
def hostOf : Value → Value
  | .brokenStr codes => .brokenStr codes
  | v => .str v.text

/-- The hosts that a text stands for, where `content` is what it holds as a JSON text: those of
    a list, else the text itself, unless it is empty. A number with too many digits spoils the
    text, and values too deep inside each other end all checks. -/
def hostsOfText (text : Value) (content : Except Json.Problem Value) :
    Except Error (Checked (List Value)) :=
  match content with
  | .ok (.list items) => .ok (.valid (items.map hostOf))
  | .error (.tooManyDigits _) => .ok (.fail .badValue)
  | .error (.tooDeep nesting) => .error (.tooDeep nesting)
  | _ => .ok (.valid (if text.isTruthy then [text] else []))

/-- The hosts that a value stands for: those of a text, or else its members. -/
def hostMembers [Platform] (v : Value) : Except Error (Checked (List Value)) :=
  match v with
  | .str s => hostsOfText (.str s) (Json.read Platform.hostsDepth s)
  | .brokenStr codes =>
    hostsOfText (.brokenStr codes) (Json.readCodes Platform.hostsDepth codes)
  | v => match v.elements? with
    | some members => .ok (.valid members)
    | none => .error .wrongType

namespace ConnectionSettings

/-- The host of a backend on the same machine. -/
def defaultHosts : List String := ["http://localhost:9200"]

/-- Ten seconds. -/
def defaultTimeout : Binary64 := Binary64.ofRatio false 10 1

/-- The check of the hosts. A value without members ends all checks. -/
def checkHosts [Platform] : Option Value → Except Error (Checked (List String))
  | none => .ok (.valid defaultHosts)
  | some v => do
    let members ← hostMembers v
    return .inside (.field "hosts") (members.andThen (Checked.all Checked.text))

/-- Settings from given fields. -/
def check [Platform] (fields : Document) : Except Error (Checked ConnectionSettings) := do
  let hosts ← checkHosts (fields.get? "hosts")
  let text := Checked.optional Checked.text
  return ConnectionSettings.mk
    <$> hosts
    <*> .field "username" (fields.get? "username") (.valid none) text
    <*> .field "password" (fields.get? "password") (.valid none) text
    <*> .field "api_key" (fields.get? "api_key") (.valid none) text
    <*> .field "verify_certs" (fields.get? "verify_certs") (.valid true) Checked.truthValue
    <*> .field "timeout" (fields.get? "timeout") (.valid defaultTimeout) Checked.positiveNumber
    <*> .field "extra" (fields.get? "extra") (.valid []) Checked.mapping

/-- A text that is given and not empty. -/
def filled? (text : Option String) : Option String := text.filter fun s => !s.isEmpty

/-- The name and the password, if both are filled. -/
def login (settings : ConnectionSettings) : Document :=
  match filled? settings.username, filled? settings.password with
  | some username, some password =>
    [("http_auth", .tuple [.str username, .str password])]
  | _, _ => []

/-- The header with the key, if it is filled. -/
def authorization (settings : ConnectionSettings) : Document :=
  match filled? settings.apiKey with
  | some key => [("headers", .mapping [("Authorization", .str ("ApiKey " ++ key))])]
  | none => []

/-- The arguments that a client is made with. Extra arguments replace those of the same name. -/
def clientArguments (settings : ConnectionSettings) : Document :=
  -- Extra headers take the place of all headers, those with the key included.
  Document.update
    ([("hosts", .list (settings.hosts.map .str)),
        ("verify_certs", .bool settings.verifyCerts),
        ("ssl_show_warn", .bool false),
        ("timeout", .float settings.timeout)]
      ++ settings.login ++ settings.authorization)
    settings.extra

end ConnectionSettings

end RecordSearch
