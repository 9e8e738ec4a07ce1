import RecordSearch.Platform
import RecordSearch.Settings.EnvFile.References
import RecordSearch.Settings.FilePath

namespace RecordSearch

/-!
# Environment files

The variables of an environment file are read from the files that are asked for, as far as they
are there. A file that is read is read in an encoding. A path can start in the home directory of a
user, which a variable of the environment can say.

* `Files`: the files that settings can be read from;
* `pathOf`: the path that a value gives;
* `readEnvFiles`: the variables of the environment files that the options ask for;
* `checkSecretDirectories`: what is asked of the directories with secret settings.
-/

/-- The files that can be read, by their paths from the working directory, with their texts. -/
abbrev Files := List (String × String)

/-- The path of the environment file. -/
def envFilePath : String := ".env"

/-- The text of the file at a path, if there is one. -/
def Files.text? (files : Files) (path : String) : Option String :=
  files.lookup (normalPath path)

/-! ### Paths -/

/-- The name of the variable for the home directory of the own user. -/
def homeName : String := "HOME"

/-- The home directory of a user. A variable comes before what is known about the own user. -/
def homeOf? [Platform] (environment : Variables) (user : String) : Option Value :=
  let own := if user.isEmpty then environment.lookup homeName else none
  own.or ((Platform.home? user).map .str)

/-- The path of a file, with the home directory of a user in place of a tilde. A home directory
    without bytes is that of no file. -/
def expandPath [Platform] (environment : Variables) (path : String) :
    Except Error (Option String) :=
  match homeUser? path with
  | none => .ok (some path)
  | some user =>
    match homeOf? environment user with
    | none => .error .noHome
    | some (.str home) =>
      -- A home directory with a tilde of its own is what stands for an unknown one.
      if home.toList.head? = some '~' then .error .noHome
      else .ok (some (belowHome home path))
    | some _ => .ok none

/-- The path that a value gives: a text. One without bytes is the path of no file. -/
def pathOf [Platform] (environment : Variables) : Value → Except Error (Option String)
  | .str path => expandPath environment path
  | .brokenStr _ => .ok none
  | _ => .error .wrongType

/-- The paths that a value gives: a text is one path, any other value is walked over. -/
def pathValues : Value → Except Error (List Value)
  | .str path => .ok [.str path]
  | .brokenStr codes => .ok [.brokenStr codes]
  | v => match v.elements? with
    | some members => .ok members
    | none => .error .wrongType

/-- The paths of files that a value gives. -/
def pathsOf [Platform] (environment : Variables) (v : Value) : Except Error (List String) :=
  List.filterMap id <$> (pathValues v >>= List.mapM (pathOf environment))

/-- A path that can be looked up. -/
def checkLength (path : String) : Except Error Unit :=
  if isTooLong path then .error (.nameTooLong (normalPath path)) else .ok ()

/-! ### Encodings -/

/-- How texts are read in the encoding that an option asks for. -/
def encodingOption [Platform] : Value → Except Error (String → Except DecodingFault (List Nat))
  | .str name =>
    if name.isEmpty then .ok asWritten
    else if name.toList.contains '\x00' then .error .nullCharacter
    else match Platform.codec name with
      | .reading reread => .ok reread
      | .notText => .error (.notTextEncoding name)
      | .unknown => .error (.unknownEncoding name)
  | .brokenStr codes => .error (.unencodable codes)
  | v => if v.isTruthy then .error .wrongType else .ok asWritten

/-! ### Reading -/

/-- The number of directories above that are searched must be a number, and if it is positive an
    integer of 64 bits. -/
def checkSearchDepth : Value → Except Error Unit
  | .null | .bool _ => .ok ()
  | .int n => if n < Value.int64Bound then .ok () else .error .badSearchDepth
  | .float x =>
    match (Value.float x).quotient? with
    | some q => if Value.isBelow (0, 1) q then .error .badSearchDepth else .ok ()
    | none => .ok ()
  | _ => .error .wrongType

/-- The text of the file at the path that a value gives, if there is one. -/
def fileText? [Platform] (files : Files) (environment : Variables) (path : Value) :
    Except Error (Option String) := do
  match ← pathOf environment path with
  | none => return none
  | some path =>
    checkLength path
    return files.text? path

/-- The variables in the lines of the environment file at a path. A file that is not there has
    none, and is not found further above either. A mark of the order of bytes at the start is no
    text. -/
def envFileLinesAt [Platform] (files : Files) (environment : Variables)
    (encoding depth path : Value) : Except Error (List FileVariable) := do
  match ← fileText? files environment path with
  | some text =>
    let reread ← encodingOption encoding
    let codes ← (reread text).mapError .undecodable
    return readLines (Text.withoutMark codes)
  | none =>
    -- Only a search further above needs the number of directories.
    checkSearchDepth depth
    return []

/-- The variables in the lines of each environment file that is asked for, nothing being the usual
    one. -/
def envFileLines [Platform] (files : Files) (environment : Variables) (paths : Option Value)
    (encoding depth : Value) : Except Error (List (List FileVariable)) :=
  match paths with
  | none => ([·]) <$> envFileLinesAt files environment encoding depth (.str envFilePath)
  | some .null => .ok []
  | some v => pathValues v >>= List.mapM (envFileLinesAt files environment encoding depth)

/-- The variables of the environment files, with the references in each file replaced. -/
def readEnvFiles [Platform] (files : Files) (environment : Variables) (paths : Option Value)
    (encoding depth : Value) : Except Error (List FileVariable) := do
  return (← envFileLines files environment paths encoding depth).flatMap
    (resolveReferences environment)

/-- The directories with secret settings must be given as paths, and none may be a file. -/
def checkSecretDirectories [Platform] (files : Files) (environment : Variables) :
    Value → Except Error Unit
  | .null => .ok ()
  | v => do
    let paths ← pathsOf environment v
    paths.forM checkLength
    if paths.any fun path => (files.text? path).isSome then throw .secretsInFile

end RecordSearch
