namespace RecordSearch

/-!
# Paths of files

A path in its normal form: without empty parts and parts that stand for the directory itself.
A path that starts with two slashes, and not more, keeps both.

* `normalPath`: the normal form of a path;
* `isTooLong`: what keeps a path from being looked up;
* `isDirectory`: the paths at which there is a directory on every system;
* `homeUser?`, `belowHome`: a path in a home directory.
-/

/-- The parts of a path between slashes. -/
def pathParts : List Char → List Char × List (List Char)
  | [] => ([], [])
  | c :: cs =>
    let (part, parts) := pathParts cs
    if c = '/' then ([], part :: parts) else (c :: part, parts)

/-- The slashes that a path starts with, in its normal form. -/
def pathRoot : List Char → String
  | '/' :: '/' :: '/' :: _ => "/"
  | '/' :: '/' :: _ => "//"
  | '/' :: _ => "/"
  | _ => ""

/-- The parts of a path that its normal form keeps. -/
def pathComponents (path : String) : List String :=
  let (part, parts) := pathParts path.toList
  ((part :: parts).map String.ofList).filter fun p => p != "" && p != "."

/-- A path in its normal form. -/
def normalPath (path : String) : String :=
  let normal := pathRoot path.toList ++ "/".intercalate (pathComponents path)
  if normal.isEmpty then "." else normal

/-! ### Paths that name no file -/

/-- The names of files have at most this many bytes. -/
def nameLimit : Nat := 255

/-- Paths have less bytes than this. -/
def pathLimit : Nat := 4096

/-- The directories of every system, each by the names on the way from the root. -/
def systemDirectories : List (List String) :=
  [[], ["bin"], ["boot"], ["dev"], ["dev", "shm"], ["etc"], ["home"], ["lib"], ["media"], ["mnt"],
    ["opt"], ["proc"], ["proc", "self"], ["root"], ["run"], ["sbin"], ["srv"], ["sys"], ["tmp"],
    ["usr"], ["usr", "bin"], ["usr", "include"], ["usr", "lib"], ["usr", "local"],
    ["usr", "local", "bin"], ["usr", "local", "lib"], ["usr", "sbin"], ["usr", "share"], ["var"],
    ["var", "cache"], ["var", "lib"], ["var", "log"], ["var", "tmp"]]

/-- Where a walk along a path has come to: below the root, or in the working directory or one
    above it, whose names are not known. -/
inductive Place where
  | below (names : List String)
  | around

/-- The directory that a name leads to from a place, if there is one on every system. -/
def Place.enter? : Place → (name : String) → Option Place
  | .around, ".." => some .around
  | .around, _ => none
  | .below names, ".." => some (.below names.dropLast)
  | .below names, name =>
    if systemDirectories.contains (names ++ [name]) then some (.below (names ++ [name])) else none

/-- The place where a walk along a path starts. -/
def Place.start (path : String) : Place :=
  if (pathRoot path.toList).isEmpty then .around else .below []

/-- Does a walk along names come to one that is too long? Below a name that is not there no name is
    looked at. -/
def Place.meetsLongName : Place → List String → Bool
  | _, [] => false
  | place, name :: names =>
    nameLimit < name.utf8ByteSize || match place.enter? name with
      | some next => next.meetsLongName names
      | none => false

/-- Is the path too long, or one of the names on its way? -/
def isTooLong (path : String) : Bool :=
  pathLimit ≤ (normalPath path).utf8ByteSize
    || (Place.start path).meetsLongName (pathComponents path)

/-- Is there a directory at a path on every system? -/
def isDirectory (path : String) : Bool :=
  ((pathComponents path).foldlM Place.enter? (Place.start path)).isSome

/-! ### Home directories -/

/-- The user in whose home directory a path starts, if its first part is a tilde with the name. The
    own user has no name. -/
def homeUser? (path : String) : Option String :=
  if (pathRoot path.toList).isEmpty then
    match (pathComponents path).head?.map String.toList with
    | some ('~' :: user) => some (String.ofList user)
    | _ => none
  else none

/-- A path without the slashes at its end. -/
def withoutSlashes (path : String) : String :=
  String.ofList (path.toList.reverse.dropWhile (· == '/')).reverse

/-- The path with a home directory in place of its first part. -/
def belowHome (home path : String) : String :=
  withoutSlashes home ++ "/" ++ "/".intercalate (pathComponents path).tail

end RecordSearch
