import RecordSearch.Error

namespace RecordSearch

/-!
# Platforms

Settings are read with the help of an interpreter, of the libraries beside this one, and of the
system. What these do is not said here: everything about settings is said for any platform.

* `Codec`: what is found under the name of an encoding;
* `Platform`: what settings are read on;
* `Platform.hostsDepth`, `TextLayer.sectionDepth`, `Platform.partDepth`: how deep the JSON texts of
  settings may be;
* `Platform.small`, `Platform.plain`: platforms to try things on.
-/

/-- What is found under the name of an encoding: how texts that are written in UTF-8 are read in it,
    something that is no encoding of text, or nothing. -/
inductive Codec where
  | reading (reread : String → Except DecodingFault (List Nat))
  | notText
  | unknown

/-- A text as it is written. -/
def asWritten (text : String) : Except DecodingFault (List Nat) := .ok (Text.codes text)

/-- UTF-8, in which texts are read as they are written. -/
def Codec.utf8 : Codec := .reading asWritten

/-- **What settings are read on.** -/
class Platform where
  /-- How many calls, lists and mappings may be inside each other below the caller of the
      library. -/
  levels : Nat
  /-- The calls of the library alone are not too many. -/
  levels_gt : 13 < levels
  /-- What is found under the name of an encoding. -/
  codec : (name : String) → Codec
  /-- What a document holds that is the text of the file with a name, or the error that reading it
      ends with. -/
  readDocument : (name text : String) → Except Error Value
  /-- The home directory of a user, if it is known. The user without a name is the own one. -/
  home? : (user : String) → Option String

/-! Between the caller of the library and the reader of a JSON text there are a number of calls,
each of which takes a level. -/

/-- The most levels of lists and mappings in the JSON text of the hosts. -/
def Platform.hostsDepth [Platform] : Nat := levels - 8

/-- The text of the hosts may be that of a list. -/
theorem Platform.hostsDepth_pos [Platform] : 0 < hostsDepth :=
  Nat.sub_pos_of_lt (Nat.lt_trans (by decide) levels_gt)

/-- The most levels of lists and mappings in the JSON text of a section. In that of a single
    setting there is one less. -/
def TextLayer.sectionDepth [Platform] : TextLayer → Nat
  | .environment => Platform.levels - 11
  | .envFile | .arguments => Platform.levels - 12

/-- The most levels of lists and mappings in a part of the entries that a command gives. -/
def Platform.partDepth [Platform] : Nat := levels - 13

/-- The levels that a usual interpreter leaves: a thousand less four for the program around. -/
def Platform.usualLevels : Nat := 996

theorem Platform.usualLevels_gt : 13 < usualLevels := by decide

/-- **A small platform**, which knows some documents by their texts, and UTF-8. -/
@[reducible] def Platform.small (documents : List (String × Value)) : Platform where
  levels := usualLevels
  levels_gt := usualLevels_gt
  codec name := if name = "utf-8" then .utf8 else .unknown
  readDocument name text :=
    match documents.lookup text with
    | some content => .ok content
    | none => .error (.unreadableFile "ParserError" ("  in \"" ++ name ++ "\""))
  home? user := if user.isEmpty then some "/root" else none

/-- A platform that knows no documents. -/
@[reducible] def Platform.plain : Platform := .small []

end RecordSearch
